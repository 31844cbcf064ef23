import RelationAtlas.Proofs.Extent.Expansion
import RelationAtlas.Proofs.Model.RootRelations
import RelationAtlas.Proofs.ObjectName
import RelationAtlas.Proofs.Query.Compiled

/-! # What compiles

An extent tree compiles if each relation of it is found and leads to a table that can be read, with
the columns that are asked for, and if no hop has more values than order columns. Whatever an
expansion adds below a hop is of this kind: its relations are found by their names, they lead to
tables of the catalog, and its hops have no filter values. -/

namespace RelationAtlas

def Table.Has (t : Table) (name : String) : Prop := ∃ c ∈ t.columns, c.name = name

theorem Table.isSome_column?_iff {t : Table} {name : String} :
    (t.column? name).isSome ↔ t.Has name := by
  rw [Table.column?, List.findRev?_eq_find?_reverse, List.find?_isSome]
  simp [Table.Has]

namespace Query

variable {m : Model}

theorem requireColumn_eq_ok_iff {t : Table} {name : String} :
    (∃ c, requireColumn t name = .ok c) ↔ t.Has name := by
  rw [← Table.isSome_column?_iff, requireColumn]
  cases t.column? name <;> simp

structure Fits (t : Table) (hop : Hop) : Prop where
  columns : ∀ n ∈ hop.columns, t.Has n
  position : ∀ o ∈ hop.order.take hop.values.length, t.Has o.name

theorem exists_selectedColumns {t : Table} {hop : Hop} (fits : Fits t hop)
    (few : hop.values.length ≤ hop.order.length) :
    ∃ columns, selectedColumns t hop = .ok columns := by
  obtain ⟨columns, selected⟩ := exists_forall₂_iff.2 fun n hn =>
    requireColumn_eq_ok_iff.2 (fits.columns n hn)
  obtain ⟨position, placed⟩ := exists_forall₂_iff.2 fun o ho =>
    requireColumn_eq_ok_iff.2 (fits.position o ho)
  refine ⟨columns, ?_⟩
  rw [selectedColumns, if_neg (by omega), mapM_eq_ok_iff.2 selected]
  simp only [bind, Except.bind, mapM_eq_ok_iff.2 placed]
  rfl

theorem selectedColumns_too_many {t : Table} {hop : Hop}
    (many : hop.order.length < hop.values.length) : selectedColumns t hop =
      .error (.tooManyValues (hop.relation.getD "") hop.values.length hop.order.length) := by
  rw [selectedColumns, if_pos many]
  rfl

mutual

def Compilable (m : Model) (parent : TableId) : Extent → Prop
  | ⟨hop, children⟩ => ∃ e, relationOf m parent hop = .ok e ∧ Fits (m.target e.id) hop ∧
      hop.values.length ≤ hop.order.length ∧ (m.target e.id).name.isRoot = false ∧
        CompilableAll m (m.target e.id).id children

def CompilableAll (m : Model) (parent : TableId) : List Extent → Prop
  | [] => True
  | e :: es => Compilable m parent e ∧ CompilableAll m parent es

end

theorem compilableAll_iff {parent : TableId} {children : List Extent} :
    CompilableAll m parent children ↔ ∀ c ∈ children, Compilable m parent c := by
  induction children with
  | nil => simp [CompilableAll]
  | cons c cs ih => simp [CompilableAll, ih]

theorem Compilable.resolves {parent : TableId} {c : Extent} (h : Compilable m parent c) :
    ∃ e, relationOf m parent c.toHop = .ok e := by
  obtain ⟨hop, children⟩ := c
  obtain ⟨e, found, -⟩ := h
  exact ⟨e, found⟩

theorem CompilableAll.exists_aliases {parent : TableId} {children : List Extent}
    (h : CompilableAll m parent children) (stem : String) :
    ∃ names, aliases m parent stem children = .ok names :=
  Query.exists_aliases (fun c hc => (compilableAll_iff.1 h c hc).resolves) stem

mutual

theorem exists_compile : ∀ {extent : Extent} {parent : TableId}, Compilable m parent extent →
    ∀ (parentAlias : Option String) (tableAlias : String),
      ∃ q, compile m parent parentAlias tableAlias extent = .ok q
  | ⟨hop, children⟩, parent, h, parentAlias, tableAlias => by
    obtain ⟨e, found, fits, few, real, below⟩ := h
    obtain ⟨columns, selected⟩ := exists_selectedColumns fits few
    obtain ⟨names, named⟩ := below.exists_aliases tableAlias
    obtain ⟨subqueries, compiled⟩ := exists_compileAll below (some tableAlias) names
    rw [compile]
    refine exists_bind_ok found (exists_bind_ok selected (exists_bind_ok named ?_))
    exact exists_bind_ok compiled (exists_bind_ok (ObjectName.escaped_of_not_root real) ⟨_, rfl⟩)

theorem exists_compileAll : ∀ {children : List Extent} {parent : TableId},
    CompilableAll m parent children → ∀ (parentAlias : Option String) (names : List String),
      ∃ qs, compileAll m parent parentAlias names children = .ok qs
  | [], _, _, _, names => ⟨[], by cases names <;> rfl⟩
  | child :: children, _, _, _, [] => ⟨[], rfl⟩
  | child :: children, parent, h, parentAlias, name :: names => by
    obtain ⟨q, first⟩ := exists_compile h.1 parentAlias name
    obtain ⟨qs, later⟩ := exists_compileAll h.2 parentAlias names
    rw [compileAll]
    exact exists_bind_ok first (exists_bind_ok later ⟨_, rfl⟩)

end

theorem exists_sql {root : Extent} (h : CompilableAll m Model.rootId root.children) :
    ∃ text, sql m root = .ok text := by
  obtain ⟨names, named⟩ := h.exists_aliases ""
  obtain ⟨queries, compiled⟩ := exists_compileAll h none names
  rw [sql]
  exact exists_bind_ok named (exists_bind_ok compiled ⟨_, rfl⟩)

/-- Below the root, more values than order columns are refused before anything else. -/
theorem sql_of_too_many {e : RelationEnd} {f : Flavor} {hop : Hop} {children : List Extent}
    (found : relationOf m Model.rootId hop = .ok e) (many : hop.order.length < hop.values.length) :
    sql m ((Extent.root f).withChild ⟨hop, children⟩) =
      .error (.tooManyValues (hop.relation.getD "") hop.values.length hop.order.length) := by
  have resolves : ∀ c ∈ [(⟨hop, children⟩ : Extent)],
      ∃ e, relationOf m Model.rootId c.toHop = .ok e := by simpa using ⟨e, found⟩
  obtain ⟨names, named⟩ := exists_aliases resolves ""
  obtain ⟨name, rfl⟩ := List.length_eq_one_iff.1 (aliasesFrom_length named)
  rw [sql]
  change (aliases m Model.rootId "" [⟨hop, children⟩] >>= fun names =>
    compileAll m Model.rootId none names [⟨hop, children⟩] >>= fun _ => _) = _
  rw [named]
  change (compileAll m Model.rootId none [name] [⟨hop, children⟩] >>= fun _ => _) = _
  rw [compileAll, compile]
  simp only [found, bind, Except.bind, selectedColumns_too_many many]

end Query

theorem Table.has_indexOrder {t : Table} (within : IndexesWithin t.columns t.indexes) {i : Index}
    (hi : i ∈ t.indexes) : ∀ o ∈ indexOrder t i, t.Has o.name := by
  intro o ho
  obtain ⟨d, hd, rfl⟩ := List.mem_map.1 ho
  have inside := within i hi d.column (List.mem_map_of_mem hd)
  refine ⟨t.columns[d.column], List.getElem_mem inside, ?_⟩
  simp [Table.columnName, inside]

theorem Table.mem_of_index? {t : Table} {name : String} {i : Index} (h : t.index? name = some i) :
    i ∈ t.indexes :=
  List.mem_of_find?_eq_some h

theorem Table.mem_of_indexBehind? {t : Table} {key : TupleRef} {i : Index}
    (h : t.indexBehind? key = some i) : i ∈ t.indexes := by
  cases key with
  | index name => exact mem_of_index? h
  | foreignKey name =>
    obtain ⟨k, -, h⟩ := Option.bind_eq_some_iff.1 h
    obtain ⟨n, -, found⟩ := List.mem_filterMap.1 (List.mem_of_find?_eq_some h)
    exact mem_of_index? found

namespace Model

variable {options : BrowseOptions} {catalog : Catalog} {m : Model} {limit : Option Nat}
  {lists : List (List (TableId × ForeignKey))}

theorem mem_of_orderIndex? {e : EndId} {i : Index} (h : m.orderIndex? e = some i) :
    i ∈ (m.target e).indexes := by
  simp only [orderIndex?, Option.orElse_eq_orElse, Option.orElse_eq_or, Option.or_eq_some_iff,
    Option.filter_eq_some_iff] at h
  rcases h with ⟨behind, -⟩ | ⟨-, ⟨primary, -⟩ | ⟨-, first⟩⟩
  · exact Table.mem_of_indexBehind? behind
  · exact mem_of_findRev? primary
  · exact (List.mem_filter.1 (List.mem_of_head? first)).1

theorem has_defaultOrder {e : EndId}
    (within : Table.IndexesWithin (m.target e).columns (m.target e).indexes) :
    ∀ o ∈ m.defaultOrder e, (m.target e).Has o.name := by
  rw [defaultOrder]
  cases found : m.orderIndex? e with
  | none => exact nofun
  | some i => exact Table.has_indexOrder within (mem_of_orderIndex? found)

theorem has_columns (e : EndId) (f : Flavor) : ∀ n ∈ (m.hop e f).columns, (m.target e).Has n := by
  intro n hn
  obtain ⟨c, hc, rfl⟩ := List.mem_map.1 hn
  exact ⟨c, hc, rfl⟩

theorem Assembled.relation_eq {tables : List Table} (a : Assembled tables m) {t : TableId}
    {e : EndId} (listed : e ∈ (m.table t).relations.values) :
    m.relation t ((m.relationEnd e).name.getD "") = .ok (m.relationEnd e) ∧
      (m.relationEnd e).id = e ∧ e < m.ends.length ∧ (m.relationEnd e).name.isSome := by
  obtain ⟨⟨name, i⟩, entry, rfl⟩ := List.mem_map.1 listed
  have named := a.name_of_mem entry
  have inside : t < m.tables.length := by
    by_contra beyond
    rw [relations_beyond beyond] at entry
    cases entry
  refine ⟨?_, a.id_of_mem entry, (a.mem_relations inside entry).1, by simp [named]⟩
  rw [named, Option.getD_some, relation_of_get? (NameMap.get?_eq_some_iff.2 entry)]

structure Proper (m : Model) (t : Table) : Prop where
  named : t.name.isRoot = false
  within : Table.IndexesWithin t.columns t.indexes

section Rootless

variable (rootless : ∀ s ∈ catalog.tables, s.name.isRoot = false)

include rootless

theorem Built.proper (b : Built options catalog lists m) {t : Table}
    (ht : t ∈ Table.tablesOf (includedTables options catalog)) :
    m.Proper (closeUp m.ends (t.withForeignKeys lists.flatten)) := by
  have within := (b.placed _ t (b.placed.get_of_mem (List.mem_cons_of_mem _ ht))).within
  obtain ⟨i, s, abbreviation, at_i, rfl⟩ := Table.mem_tablesOf ht
  exact ⟨rootless s (List.mem_of_mem_filter (List.mem_of_getElem? at_i)), closeUp_within within⟩

theorem Built.target_proper (b : Built options catalog lists m) {e : EndId}
    (inside : e < m.ends.length) (named : (m.relationEnd e).name.isSome) :
    m.Proper (m.target e) ∧ (m.target e).id = (m.otherEnd e).table := by
  obtain ⟨t, ht, leads, target⟩ := b.exists_target inside named
  rw [target, leads]
  exact ⟨b.proper rootless ht, rfl⟩

theorem Built.compilable_children (b : Built options catalog lists m) (f : Flavor) (t : TableId)
    (path : Path) : Query.CompilableAll m t (m.childrenOf limit f t path) := by
  induction bound : f.depth.toNat using Nat.strongRecOn generalizing f t path with
  | ind n ih =>
    rw [childrenOf_eq, Query.compilableAll_iff]
    intro c hc
    obtain ⟨e, listed, made⟩ := List.mem_filterMap.1 hc
    obtain ⟨-, g, reduced, rfl⟩ := childAlong?_eq_some_iff.1 made
    obtain ⟨found, id, inside, named⟩ := b.assembled.relation_eq listed
    obtain ⟨proper, place⟩ := b.target_proper rootless inside named
    have below := ih _ (by rw [← bound]; exact Flavor.depth_of_reduce reduced) g
      (m.otherEnd e).table (e :: path) rfl
    rw [Query.Compilable]
    refine ⟨m.relationEnd e, found, ?_⟩
    rw [id]
    exact ⟨⟨has_columns e g, nofun⟩, Nat.zero_le _, proper.named, by rwa [place]⟩

theorem Built.compilable_hop (b : Built options catalog lists m) {e : EndId}
    (listed : e ∈ m.rootTable.relations.values) {hop : Hop} {path : Path}
    (relation : hop.relation = some ((m.relationEnd e).name.getD "")) (fits : Query.Fits (m.target e) hop)
    (few : hop.values.length ≤ hop.order.length) : Query.Compilable m rootId
      ⟨hop, m.childrenOf limit hop.flavor (m.otherEnd e).table path⟩ := by
  obtain ⟨found, id, inside, named⟩ := b.assembled.relation_eq listed
  obtain ⟨proper, place⟩ := b.target_proper rootless inside named
  rw [Query.Compilable]
  refine ⟨m.relationEnd e, by rw [Query.relationOf, relation]; exact found, ?_⟩
  rw [id, place]
  exact ⟨fits, few, proper.named, b.compilable_children rootless _ _ _⟩

end Rootless

end Model

end RelationAtlas
