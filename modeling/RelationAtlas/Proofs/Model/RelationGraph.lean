import RelationAtlas.Proofs.Model.ClosingUp
import RelationAtlas.Proofs.Model.Relations
import RelationAtlas.Proofs.NameMap

/-! # The relation graph is closed

Every built model satisfies `Closed`: ends come in linked pairs that can be joined on, the
relations of a table are its named ends, each under its own name, and grouping the relations by
the table they lead to loses none. -/

namespace RelationAtlas.Model

structure Paired (m : Model) (i : Nat) : Prop where
  id : (m.relationEnd i).id = i
  inside : (m.relationEnd i).other < m.ends.length
  apart : (m.relationEnd i).other ≠ i
  back : (m.otherEnd i).other = i
  sides : (m.otherEnd i).principal = !(m.relationEnd i).principal
  arity : (m.otherEnd i).columns.length = (m.relationEnd i).columns.length
  table : (m.relationEnd i).table < m.tables.length
  columns : ∀ p ∈ (m.relationEnd i).columns,
    p < (m.table (m.relationEnd i).table).columns.length

structure Registered (m : Model) (t : Nat) : Prop where
  named : ∀ (name : String) (i : Nat), (m.table t).relations.get? name = some i ↔
    i < m.ends.length ∧ (m.relationEnd i).table = t ∧ (m.relationEnd i).name = some name
  once : (m.table t).relations.values.Nodup
  groups : ∀ target ids, (target, ids) ∈ m.relationsByTarget t ↔ ids ≠ [] ∧
    ids = (m.table t).relations.values.filter fun i => (m.otherEnd i).table == target
  ascending : (m.relationsByTarget t).Pairwise fun g h => g.1 < h.1
  all : ((m.relationsByTarget t).flatMap Prod.snd).Perm (m.table t).relations.values

def relationsTo (m : Model) (table target : TableId) : List EndId :=
  (m.table table).relations.values.filter fun e => (m.otherEnd e).table == target

def OnlyToMany (m : Model) (i : Nat) : Prop :=
  (m.relationEnd i).name.isSome ∧ m.navigatesToMany i = true ∧
    ∀ j < m.ends.length, j ≠ i → (m.relationEnd j).name.isSome →
      (m.relationEnd j).table = (m.relationEnd i).table →
        (m.otherEnd j).table = (m.otherEnd i).table → m.navigatesToMany j = false

structure Closed (m : Model) : Prop where
  paired : ∀ i < m.ends.length, m.Paired i
  registered : ∀ t < m.tables.length, m.Registered t
  unique : ∀ i < m.ends.length, m.isUniquelyTyped i = true ↔ m.OnlyToMany i

structure Assembled (tables : List Table) (m : Model) : Prop where
  placed : Table.Placed tables
  sound : ∀ s ∈ specs tables, s.Sound tables
  run : RunOf tables (specs tables) m.ends
  finished : m.tables = tables.map (closeUp m.ends)

theorem assembled_keyed {sources : List Catalog.Table} {bare : List Table}
    {catalogTables : List Catalog.Table} {lists : List (List (TableId × ForeignKey))}
    (hb : Table.allOfCatalog sources = .ok bare)
    (hr : catalogTables.mapM (Table.resolveAll bare) = .ok lists) (fingerprint : Option String) :
    let tables := keyed bare lists.flatten
    let ends := (specs tables).foldl (addRelation tables) []
    Assembled tables ⟨tables.map (closeUp ends), ends, fingerprint⟩ := by
  have placed := Table.allOfCatalog_placed hb
  refine ⟨keyed_placed placed, ?_, runOf_foldl _ _, rfl⟩
  exact specs_sound (keyed_placed placed) fun t ht k hk => keyed_joins placed hr ht hk

theorem assembled_of_build {options : BrowseOptions} {catalog : Catalog} {m : Model}
    (h : build options catalog = .ok m) : ∃ tables, Assembled tables m := by
  obtain ⟨bare, resolved, hb, hr, rfl⟩ := build_eq_ok h
  exact ⟨_, assembled_keyed hb hr catalog.fingerprint⟩

/-- Two sides of one relation, and the position of the other side's end. -/
structure Linked (tables : List Table) (m : Model) (i j : Nat) (own theirs : EndSpec)
    (principal : Bool) : Prop where
  lt : j < m.ends.length
  ne : j ≠ i
  id : (m.relationEnd i).id = i
  made : MadeFor tables own principal j (m.relationEnd i)
  partner : MadeFor tables theirs (!principal) i (m.relationEnd j)
  within : own.Within tables
  arity : theirs.columns.length = own.columns.length

theorem relationEnd_eq {m : Model} {i : Nat} {e : RelationEnd} (h : m.ends[i]? = some e) :
    m.relationEnd i = e := by
  simp [relationEnd, List.getD, h]

theorem relation_of_get? {m : Model} {t : TableId} {name : String} {e : EndId}
    (h : (m.table t).relations.get? name = some e) : m.relation t name = .ok (m.relationEnd e) := by
  rw [relation, h]

theorem map_fst_relations (ends : List RelationEnd) (t : TableId) :
    (ends.filterMap fun e =>
      if e.table = t then e.name.map fun name => (name, e.id) else none).map Prod.fst =
        takenNames ends t := by
  rw [List.map_filterMap, takenNames]
  congr 1
  funext e
  split_ifs
  · cases e.name <;> rfl
  · rfl

namespace Assembled

variable {tables : List Table} {m : Model}

/-- The ends of a relation stand one after the other, the principal one at an even position. -/
theorem pair (a : Assembled tables m) {k : Nat} {s : RelationSpec}
    (hs : (specs tables)[k]? = some s) : 2 * k + 1 < m.ends.length ∧
      (m.relationEnd (2 * k)).id = 2 * k ∧
        MadeFor tables s.principal true (2 * k + 1) (m.relationEnd (2 * k)) ∧
      (m.relationEnd (2 * k + 1)).id = 2 * k + 1 ∧
        MadeFor tables s.dependent false (2 * k) (m.relationEnd (2 * k + 1)) := by
  obtain ⟨p, d, hp, hd, idp, madep, idd, maded⟩ := a.run.pair k s hs
  rw [relationEnd_eq hp, relationEnd_eq hd]
  exact ⟨(List.getElem?_eq_some_iff.1 hd).1, idp, madep, idd, maded⟩

theorem spec_of_lt (a : Assembled tables m) {i : Nat} (hi : i < m.ends.length) :
    ∃ k s, (specs tables)[k]? = some s ∧ (i = 2 * k ∨ i = 2 * k + 1) := by
  have bound := a.run.length
  have inRange : i / 2 < (specs tables).length := by omega
  exact ⟨i / 2, _, List.getElem?_eq_getElem inRange, by omega⟩

theorem linked (a : Assembled tables m) {i : Nat} (hi : i < m.ends.length) :
    ∃ j own theirs principal, Linked tables m i j own theirs principal := by
  obtain ⟨k, s, hs, hk⟩ := a.spec_of_lt hi
  obtain ⟨inside, idp, madep, idd, maded⟩ := a.pair hs
  have sound := a.sound s (List.mem_of_getElem? hs)
  rcases hk with rfl | rfl
  · exact ⟨2 * k + 1, _, _, true, inside, by omega, idp, madep, maded, sound.principal,
      sound.arity.symm⟩
  · exact ⟨2 * k, _, _, false, by omega, by omega, idd, maded, madep, sound.dependent,
      sound.arity⟩

theorem tables_length (a : Assembled tables m) : m.tables.length = tables.length := by
  rw [a.finished, List.length_map]

theorem table_eq (a : Assembled tables m) {t : Nat} {u : Table} (h : tables[t]? = some u) :
    m.table t = closeUp m.ends u := by
  simp [table, a.finished, List.getD, h]

theorem columns_lt (a : Assembled tables m) {s : EndSpec} (h : s.Within tables) :
    s.table < m.tables.length ∧ ∀ p ∈ s.columns, p < (m.table s.table).columns.length := by
  obtain ⟨t, found, within⟩ := h
  rw [a.table_eq found, a.tables_length, closeUp_columns_length]
  exact ⟨(List.getElem?_eq_some_iff.1 found).1, within⟩

theorem relations_eq (a : Assembled tables m) {t : Nat} (ht : t < m.tables.length) :
    (m.table t).relations = relationsOf m.ends t := by
  rw [a.tables_length] at ht
  have found := List.getElem?_eq_getElem ht
  rw [a.table_eq found, closeUp_relations, (a.placed t _ found).id]

theorem relationsByTarget_eq (a : Assembled tables m) {t : Nat} (ht : t < m.tables.length) :
    m.relationsByTarget t = groupByTarget m.ends (m.table t).relations.values := by
  rw [a.tables_length] at ht
  rw [relationsByTarget, a.table_eq (List.getElem?_eq_getElem ht), closeUp_byTarget]

theorem getElem?_ends (a : Assembled tables m) {i : Nat} {e : RelationEnd}
    (h : m.ends[i]? = some e) : e.id = i ∧ m.relationEnd i = e := by
  have at_i := relationEnd_eq h
  obtain ⟨j, own, theirs, principal, link⟩ := a.linked (List.getElem?_eq_some_iff.1 h).1
  exact ⟨by rw [← at_i, link.id], at_i⟩

theorem get?_relations (a : Assembled tables m) {t : Nat} (ht : t < m.tables.length)
    (name : String) (i : Nat) : (m.table t).relations.get? name = some i ↔
      i < m.ends.length ∧ (m.relationEnd i).table = t ∧ (m.relationEnd i).name = some name := by
  rw [a.relations_eq ht, relationsOf, NameMap.get?_ofList_eq_some_iff, List.mem_filterMap]
  · constructor
    · rintro ⟨e, he, named⟩
      obtain ⟨k, at_k⟩ := List.mem_iff_getElem?.1 he
      obtain ⟨ide, eq⟩ := a.getElem?_ends at_k
      split_ifs at named with own
      obtain ⟨n, hn, pair⟩ := Option.map_eq_some_iff.1 named
      cases pair
      rw [ide, eq]
      exact ⟨(List.getElem?_eq_some_iff.1 at_k).1, own, hn⟩
    · rintro ⟨hi, own, named⟩
      obtain ⟨ide, eq⟩ := a.getElem?_ends (List.getElem?_eq_getElem hi)
      refine ⟨_, List.getElem_mem hi, ?_⟩
      rw [eq] at own named
      rw [if_pos own, named, ide]
      rfl
  · rw [map_fst_relations]
    exact a.run.distinct t

theorem mem_relations (a : Assembled tables m) {t : Nat} (ht : t < m.tables.length)
    {name : String} {i : Nat} (h : (name, i) ∈ (m.table t).relations.entries) :
    i < m.ends.length ∧ (m.relationEnd i).table = t ∧ (m.relationEnd i).name = some name :=
  (a.get?_relations ht name i).1 (NameMap.get?_eq_some_iff.2 h)

theorem mem_values (a : Assembled tables m) {t : Nat} (ht : t < m.tables.length) {i : Nat} :
    i ∈ (m.table t).relations.values ↔
      i < m.ends.length ∧ (m.relationEnd i).table = t ∧ (m.relationEnd i).name.isSome := by
  constructor
  · intro h
    obtain ⟨⟨name, j⟩, he, rfl⟩ := List.mem_map.1 h
    obtain ⟨lt, own, named⟩ := a.mem_relations ht he
    exact ⟨lt, own, by simp [named]⟩
  · rintro ⟨lt, own, named⟩
    obtain ⟨name, hn⟩ := Option.isSome_iff_exists.1 named
    exact List.mem_map.2 ⟨(name, i),
      NameMap.get?_eq_some_iff.1 ((a.get?_relations ht name i).2 ⟨lt, own, hn⟩), rfl⟩

theorem values_nodup (a : Assembled tables m) {t : Nat} (ht : t < m.tables.length) :
    (m.table t).relations.values.Nodup := by
  refine List.Nodup.map_on ?_ (m.table t).relations.entries_nodup
  rintro ⟨name, i⟩ h ⟨other, j⟩ h' same
  change i = j at same
  subst same
  have := (a.mem_relations ht h).2.2
  rw [(a.mem_relations ht h').2.2] at this
  rw [Option.some.inj this]

theorem relations_beyond {t : Nat} (ht : ¬t < m.tables.length) :
    (m.table t).relations = .empty := by
  have absent : m.tables[t]? = none := by simpa using ht
  rw [table, List.getD, absent]
  rfl

theorem name_of_mem (a : Assembled tables m) {t : Nat} {name : String} {i : Nat}
    (h : (name, i) ∈ (m.table t).relations.entries) : (m.relationEnd i).name = some name := by
  by_cases ht : t < m.tables.length
  · exact (a.mem_relations ht h).2.2
  · rw [relations_beyond ht] at h
    cases h

theorem id_of_mem (a : Assembled tables m) {t : Nat} {name : String} {i : Nat}
    (h : (name, i) ∈ (m.table t).relations.entries) : (m.relationEnd i).id = i := by
  by_cases ht : t < m.tables.length
  · obtain ⟨j, own, theirs, principal, link⟩ := a.linked (a.mem_relations ht h).1
    exact link.id
  · rw [relations_beyond ht] at h
    cases h

theorem nodup_of_any (a : Assembled tables m) (t : Nat) :
    (m.table t).relations.values.Nodup := by
  by_cases ht : t < m.tables.length
  · exact a.values_nodup ht
  · rw [relations_beyond ht]
    exact List.nodup_nil

theorem table_lt (a : Assembled tables m) {i : Nat} (hi : i < m.ends.length) :
    (m.relationEnd i).table < m.tables.length := by
  obtain ⟨j, own, theirs, principal, link⟩ := a.linked hi
  rw [link.made.table]
  exact (a.columns_lt link.within).1

theorem other_lt (a : Assembled tables m) {i : Nat} (hi : i < m.ends.length) :
    (m.relationEnd i).other < m.ends.length := by
  obtain ⟨j, own, theirs, principal, link⟩ := a.linked hi
  rw [link.made.other]
  exact link.lt

theorem mem_relationsTo (a : Assembled tables m) {t : Nat} (ht : t < m.tables.length)
    {target i : Nat} : i ∈ m.relationsTo t target ↔ i < m.ends.length ∧
      (m.relationEnd i).table = t ∧ (m.relationEnd i).name.isSome ∧
        (m.otherEnd i).table = target := by
  rw [relationsTo, List.mem_filter, a.mem_values ht, beq_iff_eq, and_assoc, and_assoc]

theorem mem_relationsByTarget (a : Assembled tables m) {t target : Nat}
    (ht : t < m.tables.length) {ids : List EndId} : (target, ids) ∈ m.relationsByTarget t ↔
      ids ≠ [] ∧ ids = m.relationsTo t target := by
  rw [a.relationsByTarget_eq ht]
  exact mem_groupByTarget

theorem lookup_relationsByTarget (a : Assembled tables m) {t : Nat} (ht : t < m.tables.length)
    (target : Nat) :
    ((m.relationsByTarget t).lookup target).getD [] = m.relationsTo t target := by
  rw [a.relationsByTarget_eq ht]
  exact lookup_groupByTarget _ _ _

theorem relationsByTarget_ascending (a : Assembled tables m) {t : Nat}
    (ht : t < m.tables.length) : (m.relationsByTarget t).Pairwise fun g h => g.1 < h.1 := by
  rw [a.relationsByTarget_eq ht]
  exact (groupByTarget_spec _ _).1

theorem relationsByTarget_perm (a : Assembled tables m) {t : Nat} (ht : t < m.tables.length) :
    ((m.relationsByTarget t).flatMap Prod.snd).Perm (m.table t).relations.values := by
  have nodup := a.values_nodup ht
  refine (List.perm_ext_iff_of_nodup ?_ nodup).2 fun i => ?_
  · refine List.nodup_flatMap.2 ⟨?_, ?_⟩
    · rintro ⟨target, ids⟩ h
      obtain ⟨-, rfl⟩ := (a.mem_relationsByTarget ht).1 h
      exact nodup.filter _
    · refine (a.relationsByTarget_ascending ht).imp_of_mem ?_
      rintro ⟨target, ids⟩ ⟨later, others⟩ hg hh less i hi hj
      obtain ⟨-, rfl⟩ := (a.mem_relationsByTarget ht).1 hg
      obtain ⟨-, rfl⟩ := (a.mem_relationsByTarget ht).1 hh
      have here := ((a.mem_relationsTo ht).1 hi).2.2.2
      have there := ((a.mem_relationsTo ht).1 hj).2.2.2
      exact absurd (here.symm.trans there) (Nat.ne_of_lt less)
  · rw [List.mem_flatMap]
    constructor
    · rintro ⟨⟨target, ids⟩, hg, hi⟩
      obtain ⟨-, rfl⟩ := (a.mem_relationsByTarget ht).1 hg
      exact (List.mem_filter.1 hi).1
    · intro hi
      have listed : i ∈ m.relationsTo t (m.otherEnd i).table :=
        List.mem_filter.2 ⟨hi, beq_self_eq_true _⟩
      exact ⟨_, (a.mem_relationsByTarget ht).2 ⟨List.ne_nil_of_mem listed, rfl⟩, listed⟩

theorem isUniquelyTyped_eq (a : Assembled tables m) {i : Nat} (hi : i < m.ends.length) :
    m.isUniquelyTyped i =
      ((m.relationsTo (m.relationEnd i).table (m.otherEnd i).table).filter m.navigatesToMany ==
        [i]) := by
  rw [isUniquelyTyped, ← a.lookup_relationsByTarget (a.table_lt hi)]
  cases (m.relationsByTarget (m.relationEnd i).table).lookup (m.otherEnd i).table <;> rfl

theorem isUniquelyTyped_iff (a : Assembled tables m) {i : Nat} (hi : i < m.ends.length) :
    m.isUniquelyTyped i = true ↔ m.OnlyToMany i := by
  have ht := a.table_lt hi
  have nodup : ((m.relationsTo (m.relationEnd i).table (m.otherEnd i).table).filter
      m.navigatesToMany).Nodup := ((a.values_nodup ht).filter _).filter _
  -- nothing is listed twice, so the list is `[i]` as soon as its only member is `i`
  rw [a.isUniquelyTyped_eq hi, OnlyToMany, beq_iff_eq, ← List.perm_singleton,
    List.perm_ext_iff_of_nodup nodup (List.nodup_singleton i)]
  simp only [List.mem_filter, a.mem_relationsTo ht, List.mem_singleton]
  constructor
  · intro only
    obtain ⟨⟨-, -, named, -⟩, many⟩ := (only i).2 rfl
    refine ⟨named, many, ?_⟩
    intro j hj ne namedj own same
    by_contra manyj
    exact ne ((only j).1 ⟨⟨hj, own, namedj, same⟩, by simpa using manyj⟩)
  · rintro ⟨named, many, only⟩ j
    constructor
    · rintro ⟨⟨hj, own, namedj, same⟩, manyj⟩
      by_contra ne
      rw [only j hj ne namedj own same] at manyj
      cases manyj
    · rintro rfl
      exact ⟨⟨hi, rfl, named, rfl⟩, many⟩

theorem paired (a : Assembled tables m) {i : Nat} (hi : i < m.ends.length) : m.Paired i := by
  obtain ⟨j, own, theirs, principal, link⟩ := a.linked hi
  have other : m.otherEnd i = m.relationEnd j := by rw [otherEnd, link.made.other]
  obtain ⟨inside, within⟩ := a.columns_lt link.within
  refine ⟨link.id, a.other_lt hi, ?_, ?_, ?_, ?_, a.table_lt hi, ?_⟩
  · rw [link.made.other]
    exact link.ne
  · rw [other, link.partner.other]
  · rw [other, link.partner.principal, link.made.principal]
  · rw [other, link.partner.columns, link.made.columns, link.arity]
  · rw [link.made.columns, link.made.table]
    exact within

theorem registered (a : Assembled tables m) {t : Nat} (ht : t < m.tables.length) :
    m.Registered t where
  named := a.get?_relations ht
  once := a.values_nodup ht
  groups _ _ := a.mem_relationsByTarget ht
  ascending := a.relationsByTarget_ascending ht
  all := a.relationsByTarget_perm ht

end Assembled

/-- The relation graph of every built model is closed. -/
theorem build_closed {options : BrowseOptions} {catalog : Catalog} {m : Model}
    (h : build options catalog = .ok m) : m.Closed := by
  obtain ⟨tables, a⟩ := assembled_of_build h
  exact ⟨fun _ hi => a.paired hi, fun _ ht => a.registered ht,
    fun _ hi => a.isUniquelyTyped_iff hi⟩

def staff : Catalog where
  tables := [
    { name := ⟨["dbo", "person"], .inr rfl⟩
      columns := [⟨"id", "int", false⟩, ⟨"name", "nvarchar", false⟩, ⟨"boss_id", "int", true⟩]
      indexes := [⟨"pk_person", true, true, [⟨"id", .ascending⟩], none⟩]
      foreignKeys := [⟨"boss", ["boss_id"], ⟨["dbo", "person"], .inr rfl⟩, "pk_person"⟩] },
    { name := ⟨["hr", "review"], .inr rfl⟩
      columns := [⟨"person_id", "int", false⟩]
      foreignKeys := [⟨"person", ["person_id"], ⟨["dbo", "person"], .inr rfl⟩, "pk_person"⟩] },
    { name := ⟨["ops", "review"], .inr rfl⟩
      columns := [⟨"person_id", "int", false⟩]
      foreignKeys := [⟨"person", ["person_id"], ⟨["dbo", "person"], .inr rfl⟩, "pk_person"⟩] }]

def staffModel : Model := (build {} staff).toOption.getD ⟨[], [], none⟩

theorem build_staff : build {} staff = .ok staffModel := by
  have succeeds : (build {} staff).isOk = true := by decide +kernel
  obtain ⟨m, built⟩ := exists_ok_of_isOk succeeds
  rw [staffModel, built]
  rfl

theorem build_closed_staff : staffModel.Closed ∧
    (staffModel.table 1).relations.names = ["D_boss", "P_boss", "P_person", "P_person_ops"] :=
  ⟨build_closed build_staff, by decide +kernel⟩

end RelationAtlas.Model
