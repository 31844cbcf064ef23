import RelationAtlas.Proofs.Query.Compilable
import RelationAtlas.Query.Compile

/-! # When a request compiles

What an expansion adds compiles, so a request fails only by what it says itself. It is refused for
the first of four reasons: its table, a column of its order, its index, or more values than order
columns. The overview says nothing of its own and always compiles. -/

namespace RelationAtlas.Model

variable {options : BrowseOptions} {catalog : Catalog} {m : Model} {limit : Option Nat}
  {lists : List (List (TableId × ForeignKey))}

theorem Built.exists_overview (b : Built options catalog lists m)
    (rootless : ∀ s ∈ catalog.tables, s.name.isRoot = false) (settings : BrowseOptions) :
    ∃ result, compileOverview m settings = .ok result := by
  rw [compileOverview, overview_eq]
  refine exists_bind_ok (Query.exists_sql ?_).choose_spec ⟨_, rfl⟩
  refine Query.compilableAll_iff.2 fun c hc => ?_
  obtain ⟨e, listed, rfl⟩ := List.mem_map.1 hc
  exact b.compilable_hop rootless listed rfl ⟨has_columns e settings.topFlavor, nofun⟩
    (Nat.zero_le _)

def requestOrder (m : Model) (e : EndId) (r : ExtentRequest) : List OrderColumn :=
  if !r.order.isEmpty then r.order
  else match r.index.bind (m.target e).index? with
    | some i => indexOrder (m.target e) i
    | none => m.defaultOrder e

structure Names (m : Model) (r : ExtentRequest) (t : Table) (e : RelationEnd) : Prop where
  found : m.findTable? r.table = some t
  reached : m.rootRelationTo t.id = .ok e

structure Acceptable (m : Model) (r : ExtentRequest) (t : Table) (e : RelationEnd) : Prop
    extends Names m r t e where
  columns : ∀ o ∈ r.order, t.Has o.name
  index : ∀ n, r.index = some n → ∃ i ∈ t.indexes, i.name = n
  values : r.values.length ≤ (m.requestOrder e.id r).length

/-- What a request is refused for. Each reason counts only if none before it does. -/
inductive Refused (m : Model) (r : ExtentRequest) : BrowseError → Prop
  | table (unknown : m.findTable? r.table = none) : Refused m r (.unresolvedTable r.table)
  | column {t : Table} {e : RelationEnd} {before after : List OrderColumn} {o : OrderColumn}
      (names : Names m r t e) (split : r.order = before ++ o :: after)
      (known : ∀ p ∈ before, t.Has p.name) (unknown : ¬t.Has o.name) :
      Refused m r (.unresolvedColumn t.name.simple o.name)
  | key {t : Table} {e : RelationEnd} {n : String} (names : Names m r t e)
      (columns : ∀ o ∈ r.order, t.Has o.name) (forced : r.index = some n)
      (unknown : ∀ i ∈ t.indexes, i.name ≠ n) : Refused m r (.unresolvedKey t.name.simple n)
  | values {t : Table} {e : RelationEnd} (names : Names m r t e)
      (columns : ∀ o ∈ r.order, t.Has o.name)
      (index : ∀ n, r.index = some n → ∃ i ∈ t.indexes, i.name = n)
      (many : (m.requestOrder e.id r).length < r.values.length) :
      Refused m r (.tooManyValues t.name.simple r.values.length (m.requestOrder e.id r).length)

theorem find?_unknown_eq_some_iff {t : Table} {order : List OrderColumn} {o : OrderColumn} :
    (order.find? fun o => (t.column? o.name).isNone) = some o ↔ ¬t.Has o.name ∧
      ∃ before after, order = before ++ o :: after ∧ ∀ p ∈ before, t.Has p.name := by
  simp [List.find?_eq_some_iff_append, ← Table.isSome_column?_iff]

theorem find?_unknown_eq_none_iff {t : Table} {order : List OrderColumn} :
    (order.find? fun o => (t.column? o.name).isNone) = none ↔ ∀ o ∈ order, t.Has o.name := by
  simp [List.find?_eq_none, ← Table.isSome_column?_iff, Option.isSome_iff_ne_none]

theorem index?_eq_none_iff {t : Table} {n : String} :
    t.index? n = none ↔ ∀ i ∈ t.indexes, i.name ≠ n := by
  simp [Table.index?, List.find?_eq_none]

section Request

variable {r : ExtentRequest} {e : EndId}

theorem requestedHop_of_unknown_column {o : OrderColumn}
    (unknown : (r.order.find? fun o => ((m.target e).column? o.name).isNone) = some o) :
    m.requestedHop limit e r = .error (.unresolvedColumn (m.target e).name.simple o.name) := by
  rw [requestedHop]
  simp only [unknown]
  rfl

theorem requestedHop_of_unknown_key {n : String} (columns : ∀ o ∈ r.order, (m.target e).Has o.name)
    (forced : r.index = some n) (unknown : (m.target e).index? n = none) :
    m.requestedHop limit e r = .error (.unresolvedKey (m.target e).name.simple n) := by
  rw [requestedHop]
  simp only [find?_unknown_eq_none_iff.2 columns, forced, unknown]
  rfl

def acceptedHop (m : Model) (limit : Option Nat) (e : EndId) (r : ExtentRequest) : Hop :=
  { m.hop e r.flavor with
    limit := some (r.limit.getD (r.flavor.limit limit))
    order := m.requestOrder e r
    index := r.index
    values := r.values
    keyCount := r.keyCount
    scan := r.scan.map (Scan.ofTable (m.target e)) }

theorem requestedHop_of_known (columns : ∀ o ∈ r.order, (m.target e).Has o.name)
    (index : ∀ n, r.index = some n → ∃ i ∈ (m.target e).indexes, i.name = n) :
    m.requestedHop limit e r = .ok (m.acceptedHop limit e r) := by
  rw [requestedHop, acceptedHop, requestOrder]
  simp only [find?_unknown_eq_none_iff.2 columns]
  cases forced : r.index with
  | none => rfl
  | some n =>
    cases found : (m.target e).index? n with
    | none =>
      obtain ⟨i, hi, named⟩ := index n forced
      exact absurd named (index?_eq_none_iff.1 found i hi)
    | some i =>
      simp only [Option.bind_some, found]
      rfl

end Request

theorem Built.exists_found (b : Built options catalog lists m) {name : String} {t : Table}
    (h : m.findTable? name = some t) : ∃ u ∈ Table.tablesOf (includedTables options catalog),
      t = closeUp m.ends (u.withForeignKeys lists.flatten) := by
  have member : ∃ simple, m.tableBySimple? simple = some t := by
    rw [findTable?] at h
    split at h
    · cases h
      exact ⟨name, ‹_›⟩
    · split at h
      · exact ⟨_, h⟩
      · cases h
  obtain ⟨simple, found⟩ := member
  have listed := List.mem_of_find?_eq_some found
  rw [b.tables_eq] at listed
  obtain ⟨u, hu, rfl⟩ := List.mem_map.1 listed
  exact ⟨u, hu, rfl⟩

structure LeadsTo (m : Model) (e : RelationEnd) (t : Table) : Prop where
  listed : e.id ∈ m.rootTable.relations.values
  target : m.target e.id = t
  name : e.name = some t.name.simple
  own : m.relationEnd e.id = e

theorem exists_leadsTo (built : build options catalog = .ok m) {r : ExtentRequest} {t : Table}
    (h : m.findTable? r.table = some t) : ∃ e, Names m r t e ∧ LeadsTo m e t := by
  obtain ⟨lists, b, rootEnd⟩ := exists_rootEnd built
  obtain ⟨u, hu, rfl⟩ := b.exists_found h
  obtain ⟨e, inside, owner, named, leads⟩ := rootEnd u hu
  have at_u := b.assembled.table_eq (b.getElem?_keyed hu)
  have kept : m.rootTable.relations.get? u.name.simple = some e :=
    (b.assembled.get?_relations b.rootId_lt _ e).2 ⟨inside, owner, named⟩
  have entry := NameMap.get?_eq_some_iff.1 kept
  have id := b.assembled.id_of_mem entry
  refine ⟨m.relationEnd e, ⟨h, ?_⟩, ?_, ?_, named, by rw [id]⟩
  · rw [rootRelationTo]
    change m.relation rootId (m.table u.id).name.simple = _
    rw [at_u]
    exact relation_of_get? kept
  · rw [id]
    exact List.mem_map_of_mem entry
  · rw [id, target, leads, at_u]

section Outcome

variable {r : ExtentRequest} {t : Table} {e : RelationEnd} (settings : BrowseOptions)

theorem compileRequest_of_topHop {error : BrowseError}
    (h : m.topHop settings.defaultLimit r = .error error) :
    compileRequest m settings r = .error error := by
  rw [compileRequest, request_eq, h]
  rfl

theorem topHop_of_names (names : Names m r t e) : m.topHop limit r =
    (m.requestedHop limit e.id r).map fun hop => (e.id, hop) := by
  rw [topHop, requireTable, names.found]
  simp only [bind, Except.bind, names.reached]
  cases m.requestedHop limit e.id r <;> rfl

theorem compileRequest_of_hop (names : Names m r t e) {hop : Hop}
    (shaped : m.requestedHop settings.defaultLimit e.id r = .ok hop) :
    compileRequest m settings r = (Query.sql m ((Extent.root r.flavor).withChild
      ⟨hop, m.childrenOf settings.defaultLimit hop.flavor (m.otherEnd e.id).table [e.id]⟩)).map
        fun text => ((Extent.root r.flavor).withChild ⟨hop, m.childrenOf settings.defaultLimit
          hop.flavor (m.otherEnd e.id).table [e.id]⟩, text) := by
  rw [compileRequest, request_eq, topHop_of_names names, shaped]
  simp only [Except.map, bind, Except.bind]
  rfl

theorem Names.leadsTo (built : build options catalog = .ok m) (names : Names m r t e) :
    LeadsTo m e t := by
  obtain ⟨e', names', leads⟩ := exists_leadsTo built names.found
  have same := names.reached.symm.trans names'.reached
  cases same
  exact leads

theorem LeadsTo.relation (leads : LeadsTo m e t) (f : Flavor) :
    (m.hop e.id f).relation = some t.name.simple := by
  rw [hop, leads.own, leads.name]
  rfl

section Top

variable (built : build options catalog = .ok m)
  (rootless : ∀ s ∈ catalog.tables, s.name.isRoot = false)

include built rootless

theorem exists_compileRequest (accepted : Acceptable m r t e) :
    ∃ result, compileRequest m settings r = .ok result := by
  obtain ⟨lists, b⟩ := built_of_build built
  have leads := accepted.toNames.leadsTo built
  obtain ⟨proper, -⟩ : m.Proper (m.target e.id) ∧ _ := by
    obtain ⟨-, -, inside, named⟩ := b.assembled.relation_eq leads.listed
    exact b.target_proper rootless inside named
  have target := leads.target
  have shaped : m.requestedHop settings.defaultLimit e.id r =
      .ok (m.acceptedHop settings.defaultLimit e.id r) :=
    requestedHop_of_known (target ▸ accepted.columns) (target ▸ accepted.index)
  have ordered : ∀ o ∈ m.requestOrder e.id r, (m.target e.id).Has o.name := by
    rw [requestOrder]
    split
    · exact target ▸ accepted.columns
    · split
      · rename_i i found
        obtain ⟨n, -, found⟩ := Option.bind_eq_some_iff.1 found
        exact Table.has_indexOrder proper.within (Table.mem_of_index? found)
      · exact has_defaultOrder proper.within
  have fits : Query.Fits (m.target e.id) (m.acceptedHop settings.defaultLimit e.id r) :=
    ⟨has_columns e.id r.flavor, fun o ho => ordered o (List.mem_of_mem_take ho)⟩
  have below : Query.Compilable m rootId ⟨m.acceptedHop settings.defaultLimit e.id r,
      m.childrenOf settings.defaultLimit r.flavor (m.otherEnd e.id).table [e.id]⟩ :=
    b.compilable_hop rootless leads.listed rfl fits accepted.values
  have compiles : ∃ text, Query.sql m ((Extent.root r.flavor).withChild
      ⟨m.acceptedHop settings.defaultLimit e.id r, m.childrenOf settings.defaultLimit r.flavor
        (m.otherEnd e.id).table [e.id]⟩) = .ok text := Query.exists_sql ⟨below, trivial⟩
  obtain ⟨text, compiled⟩ := compiles
  rw [compileRequest_of_hop settings accepted.toNames shaped]
  change ∃ result, (Query.sql m ((Extent.root r.flavor).withChild
    ⟨m.acceptedHop settings.defaultLimit e.id r, m.childrenOf settings.defaultLimit r.flavor
      (m.otherEnd e.id).table [e.id]⟩)).map _ = .ok result
  rw [compiled]
  exact ⟨_, rfl⟩

end Top

theorem compileRequest_of_refused (built : build options catalog = .ok m) {error : BrowseError}
    (refused : Refused m r error) : compileRequest m settings r = .error error := by
  cases refused with
  | table unknown =>
    apply compileRequest_of_topHop
    rw [topHop, requireTable, unknown]
    rfl
  | column names split known unknown =>
    have target := (names.leadsTo built).target
    apply compileRequest_of_topHop
    rw [topHop_of_names names, requestedHop_of_unknown_column (find?_unknown_eq_some_iff.2
      ⟨target ▸ unknown, _, _, split, target ▸ known⟩), target]
    rfl
  | key names columns forced unknown =>
    have target := (names.leadsTo built).target
    apply compileRequest_of_topHop
    rw [topHop_of_names names, requestedHop_of_unknown_key (target ▸ columns) forced
      (index?_eq_none_iff.2 (target ▸ unknown)), target]
    rfl
  | @values t e names columns index many =>
    obtain ⟨lists, b⟩ := built_of_build built
    have leads := names.leadsTo built
    have target := leads.target
    have shaped : m.requestedHop settings.defaultLimit e.id r =
        .ok (m.acceptedHop settings.defaultLimit e.id r) :=
      requestedHop_of_known (target ▸ columns) (target ▸ index)
    have found : Query.relationOf m rootId (m.acceptedHop settings.defaultLimit e.id r) =
        .ok (m.relationEnd e.id) := (b.assembled.relation_eq leads.listed).1
    rw [compileRequest_of_hop settings names shaped, Query.sql_of_too_many found many]
    change (Except.error (BrowseError.tooManyValues ((m.hop e.id r.flavor).relation.getD "") _ _)
      ).map _ = _
    rw [leads.relation]
    rfl

theorem acceptable_or_refused (built : build options catalog = .ok m) (r : ExtentRequest) :
    (∃ t e, Acceptable m r t e) ∨ ∃ error, Refused m r error := by
  cases found : m.findTable? r.table with
  | none => exact .inr ⟨_, .table found⟩
  | some t =>
    obtain ⟨e, names, -⟩ := exists_leadsTo built found
    cases unknown : r.order.find? fun o => (t.column? o.name).isNone with
    | some o =>
      obtain ⟨missing, before, after, split, known⟩ := find?_unknown_eq_some_iff.1 unknown
      exact .inr ⟨_, .column names split known missing⟩
    | none =>
      have columns := find?_unknown_eq_none_iff.1 unknown
      by_cases index : ∀ n, r.index = some n → ∃ i ∈ t.indexes, i.name = n
      · by_cases values : r.values.length ≤ (m.requestOrder e.id r).length
        · exact .inl ⟨t, e, names, columns, index, values⟩
        · exact .inr ⟨_, .values names columns index (Nat.lt_of_not_le values)⟩
      · push Not at index
        obtain ⟨n, forced, missing⟩ := index
        exact .inr ⟨_, .key names columns forced missing⟩

end Outcome

/-- Over every model of a catalog without a table of the root's name, a request compiles exactly if
what it names is there and its values have order columns, and else the first thing that is not so
is the error. The overview compiles at every flavor. -/
theorem compiles_iff_acceptable (built : build options catalog = .ok m)
    (rootless : ∀ s ∈ catalog.tables, s.name.isRoot = false) (settings : BrowseOptions) :
    (∀ r, ((∃ result, compileRequest m settings r = .ok result) ↔ ∃ t e, Acceptable m r t e) ∧
      ∀ error, compileRequest m settings r = .error error ↔ Refused m r error) ∧
    ∃ result, compileOverview m settings = .ok result := by
  obtain ⟨lists, b⟩ := built_of_build built
  refine ⟨fun r => ⟨⟨?_, ?_⟩, fun error => ⟨?_, compileRequest_of_refused settings built⟩⟩,
    b.exists_overview rootless settings⟩
  · rintro ⟨result, compiled⟩
    refine (acceptable_or_refused built r).resolve_right ?_
    rintro ⟨error, refused⟩
    rw [compileRequest_of_refused settings built refused] at compiled
    cases compiled
  · rintro ⟨t, e, accepted⟩
    exact exists_compileRequest settings built rootless accepted
  · intro failed
    rcases acceptable_or_refused built r with ⟨t, e, accepted⟩ | ⟨error', refused⟩
    · obtain ⟨result, compiled⟩ := exists_compileRequest settings built rootless accepted
      rw [failed] at compiled
      cases compiled
    · rw [compileRequest_of_refused settings built refused] at failed
      cases failed
      exact refused

def personsFrom (ids : List String) : ExtentRequest where
  table := "[dbo].[person]"
  flavor := ⟨.page, 1⟩
  index := some "pk_person"
  values := ids.map some

theorem compiles_iff_acceptable_staff : (∀ s ∈ staff.tables, s.name.isRoot = false) ∧
    (∃ result, compileOverview staffModel {} = .ok result) ∧
      (∃ result, compileRequest staffModel {} (personsFrom ["7"]) = .ok result) ∧
        compileRequest staffModel {} (personsFrom ["7", "8"]) =
          .error (.tooManyValues "dbo.person" 2 1) := by
  have rootless : ∀ s ∈ staff.tables, s.name.isRoot = false := by decide
  obtain ⟨requests, overview⟩ := compiles_iff_acceptable build_staff rootless {}
  have listed : (staffModel.findTable? "[dbo].[person]").map Table.id = some 1 := by decide +kernel
  obtain ⟨t, found, id⟩ := Option.map_eq_some_iff.1 listed
  have root : (staffModel.rootRelationTo 1).toOption = some (staffModel.relationEnd 0) := by
    decide +kernel
  have names : ∀ ids, Names staffModel (personsFrom ids) t (staffModel.relationEnd 0) := by
    refine fun ids => ⟨found, ?_⟩
    rw [id]
    cases reached : staffModel.rootRelationTo 1 with
    | error _ => simp [reached, Except.toOption] at root
    | ok e => simpa [reached, Except.toOption] using root
  have target : staffModel.target 0 = t := ((names []).leadsTo build_staff).target
  have index : ∀ n, some "pk_person" = some n → ∃ i ∈ t.indexes, i.name = n := by
    rintro n ⟨⟩
    rw [← target]
    decide +kernel
  refine ⟨rootless, overview, ?_, ?_⟩
  · exact (requests _).1.2 ⟨t, _, names _, nofun, index, by decide +kernel⟩
  · have refused := Refused.values (names ["7", "8"]) nofun index (by decide +kernel)
    rw [((requests _).2 _).2 refused, ← target]
    exact congrArg Except.error (by decide +kernel)

end RelationAtlas.Model
