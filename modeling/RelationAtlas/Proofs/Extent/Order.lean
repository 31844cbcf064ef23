import RelationAtlas.Proofs.Model.KeyResolution
import RelationAtlas.Proofs.Query.Compilable

/-! # What the default order follows

Rows come in the order of one index of the table that a hop leads to: an index with columns that
nothing speaks against. Without such an index they come in no order. If the hop lands on a foreign
key and a supported index begins with its columns, the order begins with them too. -/

namespace RelationAtlas

/-- An index that rows can be sought in: nothing speaks against it, and it has columns. -/
structure Index.Usable (i : Index) : Prop where
  supported : i.unsupported = none
  columns : i.tuple.columns ≠ []

theorem Index.isSupported_iff {i : Index} : i.isSupported = true ↔ i.unsupported = none :=
  Option.isNone_iff_eq_none

theorem Index.isSeekable_iff {i : Index} : i.isSeekable = true ↔ i.Usable := by
  rw [isSeekable, Bool.and_eq_true, isSupported_iff, Bool.not_eq_true', List.isEmpty_eq_false_iff]
  exact ⟨fun ⟨supported, columns⟩ => ⟨supported, columns⟩, fun ⟨supported, columns⟩ =>
    ⟨supported, columns⟩⟩

/-- An order by the columns of an index, all of them and in turn. A direction that is not known is
read as ascending. -/
def Table.Follows (t : Table) (order : List OrderColumn) (i : Index) : Prop :=
  List.Forall₂ (fun o c => (t.columns[c.column]?.map Column.name = some o.name) ∧
    o.direction = if c.direction = .unknown then .ascending else c.direction) order i.tuple.columns

namespace Table

variable {t : Table} {i : Index}

theorem follows_indexOrder (within : IndexesWithin t.columns t.indexes) (hi : i ∈ t.indexes) :
    t.Follows (indexOrder t i) i := by
  rw [Follows, indexOrder, List.forall₂_map_left_iff, List.forall₂_same]
  intro c hc
  have inside : c.column < t.columns.length := within i hi c.column (List.mem_map_of_mem hc)
  refine ⟨?_, rfl⟩
  simp [columnName, inside]

theorem map_name_indexOrder (t : Table) (i : Index) :
    (indexOrder t i).map OrderColumn.name = t.columnNames i.tuple := by
  simp [indexOrder, columnNames, ColumnTuple.positions, Function.comp_def]

theorem toFinset_take_indexOrder {tuple : ColumnTuple} (begins : i.BeginsWith tuple) :
    tuple.columns.length ≤ (indexOrder t i).length ∧
      (((indexOrder t i).take tuple.columns.length).map OrderColumn.name).toFinset =
        (t.columnNames tuple).toFinset := by
  obtain ⟨long, same⟩ := begins
  refine ⟨by rwa [indexOrder, List.length_map], ?_⟩
  rw [List.map_take, map_name_indexOrder, columnNames, columnNames, ← List.map_take]
  ext name
  rw [ColumnTuple.columnSet, Finset.ext_iff] at same
  simp only [List.mem_toFinset, List.mem_map] at same ⊢
  simp only [same]

theorem exists_indexBehind? (indexed : t.Indexed) {name : String} {k : ForeignKey}
    (found : t.foreignKey? name = some k)
    (supported : ∃ i ∈ t.indexes, i.name ∈ k.backing ∧ i.unsupported = none) :
    ∃ i ∈ t.indexes, i.name ∈ k.backing ∧ i.unsupported = none ∧
      t.indexBehind? (.foreignKey name) = some i := by
  obtain ⟨j, hj, listed, free⟩ := supported
  have some_ : ((k.backing.filterMap t.index?).find? Index.isSupported).isSome := by
    rw [List.find?_isSome]
    exact ⟨j, List.mem_filterMap.2 ⟨j.name, listed, indexed.index?_eq hj⟩,
      Index.isSupported_iff.2 free⟩
  obtain ⟨i, hi⟩ := Option.isSome_iff_exists.1 some_
  obtain ⟨n, hn, at_n⟩ := List.mem_filterMap.1 (List.mem_of_find?_eq_some hi)
  have named : i.name = n := by simpa using List.find?_some at_n
  refine ⟨i, mem_of_index? at_n, named ▸ hn, Index.isSupported_iff.1 (List.find?_some hi), ?_⟩
  rw [indexBehind?, found, Option.bind_some, hi]

end Table

namespace Model

variable {options : BrowseOptions} {catalog : Catalog} {m : Model} {e : EndId}
  {lists : List (List (TableId × ForeignKey))}

def LandsOn (m : Model) (e : EndId) (k : ForeignKey) : Prop :=
  ∃ name, (m.otherEnd e).key = .foreignKey name ∧ (m.target e).foreignKey? name = some k

theorem usable_of_orderIndex? {i : Index} (h : m.orderIndex? e = some i) : i.Usable := by
  simp only [orderIndex?, Option.orElse_eq_orElse, Option.orElse_eq_or, Option.or_eq_some_iff,
    Option.filter_eq_some_iff] at h
  rw [← Index.isSeekable_iff]
  rcases h with ⟨-, behind⟩ | ⟨-, ⟨-, primary⟩ | ⟨-, first⟩⟩
  · exact behind
  · exact primary
  · exact (List.mem_filter.1 (List.mem_of_head? first)).2

theorem orderIndex?_eq_none_iff :
    m.orderIndex? e = none ↔ ∀ i ∈ (m.target e).indexes, ¬i.Usable := by
  constructor
  · intro h i hi usable
    simp only [orderIndex?, Option.orElse_eq_orElse, Option.orElse_eq_or, Option.or_eq_none_iff,
      List.head?_eq_none_iff] at h
    have listed : i ∈ (m.target e).seekableIndexes :=
      List.mem_filter.2 ⟨hi, Index.isSeekable_iff.2 usable⟩
    rw [target, h.2.2] at listed
    cases listed
  · intro none
    cases found : m.orderIndex? e with
    | none => rfl
    | some i => exact absurd (usable_of_orderIndex? found) (none i (mem_of_orderIndex? found))

theorem defaultOrder_of_orderIndex? {i : Index} (h : m.orderIndex? e = some i) :
    m.defaultOrder e = indexOrder (m.target e) i := by
  rw [defaultOrder, h]
  rfl

theorem defaultOrder_eq_nil_iff :
    m.defaultOrder e = [] ↔ ∀ i ∈ (m.target e).indexes, ¬i.Usable := by
  rw [← orderIndex?_eq_none_iff]
  cases found : m.orderIndex? e with
  | none => simp [defaultOrder, found]
  | some i =>
    have columns := (usable_of_orderIndex? found).columns
    simp [defaultOrder_of_orderIndex? found, indexOrder, columns]

theorem orderIndex?_of_behind {i : Index}
    (h : (m.target e).indexBehind? (m.otherEnd e).key = some i) (usable : i.Usable) :
    m.orderIndex? e = some i := by
  rw [target] at h
  simp only [orderIndex?, h, Option.filter_some, Index.isSeekable_iff.2 usable, if_true]
  rfl

namespace Built

theorem table_cases (b : Built options catalog lists m) {t : TableId}
    (inside : t < m.tables.length) : m.table t = closeUp m.ends Table.root ∨
      ∃ u ∈ Table.tablesOf (includedTables options catalog),
        m.table t = closeUp m.ends (u.withForeignKeys lists.flatten) := by
  by_cases root : t = rootId
  · subst root
    exact .inl b.rootTable_eq
  · obtain ⟨u, hu, rfl⟩ := b.exists_table root inside
    exact .inr ⟨u, hu, b.table_of_mem hu⟩

theorem indexed (b : Built options catalog lists m) {t : TableId}
    (inside : t < m.tables.length) : (m.table t).Indexed := by
  rcases b.table_cases inside with root | ⟨u, hu, real⟩
  · rw [root]
    exact ⟨Table.indexed_root.distinct, Table.indexed_root.flagged⟩
  · rw [real]
    have indexed := Table.indexed_tablesOf hu
    exact ⟨indexed.distinct, indexed.flagged⟩

theorem indexesWithin (b : Built options catalog lists m) {t : TableId}
    (inside : t < m.tables.length) :
    Table.IndexesWithin (m.table t).columns (m.table t).indexes := by
  rw [b.assembled.tables_length] at inside
  have found := List.getElem?_eq_getElem inside
  rw [b.assembled.table_eq found]
  exact closeUp_within (b.assembled.placed t _ found).within

theorem beginsWith_of_backing (b : Built options catalog lists m) {t : TableId}
    (inside : t < m.tables.length) {k : ForeignKey} (hk : k ∈ (m.table t).foreignKeys)
    {i : Index} (hi : i ∈ (m.table t).indexes) (listed : i.name ∈ k.backing) :
    k.tuple.columns ≠ [] ∧ i.BeginsWith k.tuple := by
  rw [b.backing_eq inside hk, Table.backingIndexes_eq] at listed
  split_ifs at listed with empty
  · cases listed
  · obtain ⟨j, hj, same⟩ := List.mem_map.1 listed
    obtain ⟨member, begins⟩ := List.mem_filter.1 hj
    have equal : j = i := List.inj_on_of_nodup_map (b.indexed inside).distinct member hi same
    subst equal
    exact ⟨empty, of_decide_eq_true begins⟩

theorem exists_follows (b : Built options catalog lists m)
    (target : (m.otherEnd e).table < m.tables.length) (ordered : m.defaultOrder e ≠ []) :
    ∃ i ∈ (m.target e).indexes, i.Usable ∧ (m.target e).Follows (m.defaultOrder e) i := by
  cases found : m.orderIndex? e with
  | none =>
    rw [defaultOrder, found] at ordered
    exact absurd rfl ordered
  | some i =>
    have member := mem_of_orderIndex? found
    refine ⟨i, member, usable_of_orderIndex? found, ?_⟩
    rw [defaultOrder_of_orderIndex? found]
    exact Table.follows_indexOrder (b.indexesWithin target) member

theorem exists_orderIndex?_behind (b : Built options catalog lists m)
    (target : (m.otherEnd e).table < m.tables.length) {k : ForeignKey} (lands : m.LandsOn e k)
    (supported : ∃ i ∈ (m.target e).indexes, i.name ∈ k.backing ∧ i.unsupported = none) :
    ∃ i, m.orderIndex? e = some i ∧ i.BeginsWith k.tuple := by
  obtain ⟨name, key, found⟩ := lands
  obtain ⟨i, hi, listed, free, behind⟩ :=
    Table.exists_indexBehind? (b.indexed target) found supported
  obtain ⟨some_, begins⟩ := b.beginsWith_of_backing target (mem_of_findRev? found) hi listed
  have usable : i.Usable := by
    refine ⟨free, fun none => some_ ?_⟩
    have long := begins.1
    rw [none] at long
    exact List.eq_nil_of_length_eq_zero (Nat.le_zero.1 long)
  rw [← key] at behind
  exact ⟨i, orderIndex?_of_behind behind usable, begins⟩

end Built

/-- Rows come in the order of an index of the target that can be sought in, whole and in turn, and
in no order if there is none. Where a hop lands on a foreign key behind which a supported index
stands, the order begins with the columns of the foreign key. -/
theorem defaultOrder_follows_index (h : build options catalog = .ok m) (inside : e < m.ends.length) :
    (m.defaultOrder e = [] ↔ ∀ i ∈ (m.target e).indexes, ¬i.Usable) ∧
    (m.defaultOrder e ≠ [] → ∃ i ∈ (m.target e).indexes, i.Usable ∧
      (m.target e).Follows (m.defaultOrder e) i) ∧
    ∀ k, m.LandsOn e k →
      (∃ i ∈ (m.target e).indexes, i.name ∈ k.backing ∧ i.unsupported = none) →
        k.tuple.columns.length ≤ (m.defaultOrder e).length ∧
          (((m.defaultOrder e).take k.tuple.columns.length).map OrderColumn.name).toFinset =
            ((m.target e).columnNames k.tuple).toFinset := by
  obtain ⟨lists, b⟩ := built_of_build h
  have target : (m.otherEnd e).table < m.tables.length :=
    b.assembled.table_lt (b.assembled.other_lt inside)
  refine ⟨defaultOrder_eq_nil_iff, b.exists_follows target, fun k lands supported => ?_⟩
  obtain ⟨i, found, begins⟩ := b.exists_orderIndex?_behind target lands supported
  rw [defaultOrder_of_orderIndex? found]
  exact Table.toFinset_take_indexOrder begins

def theatre : Catalog where
  tables := [
    { name := ⟨["hall"], .inr rfl⟩
      columns := [⟨"house", "int", false⟩, ⟨"number", "int", false⟩]
      indexes := [⟨"pk_hall", true, true, [⟨"house", .ascending⟩, ⟨"number", .ascending⟩], none⟩] },
    { name := ⟨["seat"], .inr rfl⟩
      columns := [⟨"id", "int", false⟩, ⟨"house", "int", false⟩, ⟨"hall", "int", false⟩]
      indexes := [⟨"pk_seat", true, true, [⟨"id", .ascending⟩], none⟩,
        ⟨"ix_old", false, false, [⟨"house", .ascending⟩, ⟨"hall", .ascending⟩],
          some ⟨.disabled, "disabled"⟩⟩,
        ⟨"ix_hall", false, false, [⟨"hall", .unknown⟩, ⟨"house", .descending⟩,
          ⟨"id", .ascending⟩], none⟩]
      foreignKeys := [⟨"hall", ["house", "hall"], ⟨["hall"], .inr rfl⟩, "pk_hall"⟩] }]

def theatreModel : Model := (build {} theatre).toOption.getD ⟨[], [], none⟩

theorem build_theatre : build {} theatre = .ok theatreModel := by
  have succeeds : (build {} theatre).isOk = true := by decide +kernel
  obtain ⟨m, built⟩ := exists_ok_of_isOk succeeds
  rw [theatreModel, built]
  rfl

theorem defaultOrder_follows_index_theatre :
    theatreModel.defaultOrder 4 =
      [⟨"hall", .ascending⟩, ⟨"house", .descending⟩, ⟨"id", .ascending⟩] ∧
    ∃ k, theatreModel.LandsOn 4 k ∧ k.backing = ["ix_old", "ix_hall"] ∧
      (((theatreModel.defaultOrder 4).take k.tuple.columns.length).map OrderColumn.name).toFinset =
        ((theatreModel.target 4).columnNames k.tuple).toFinset := by
  have lands : ((theatreModel.otherEnd 4).key, ((theatreModel.target 4).foreignKey? "hall").map
      ForeignKey.backing) = (.foreignKey "hall", some ["ix_old", "ix_hall"]) := by decide +kernel
  obtain ⟨key, found⟩ := Prod.mk.inj lands
  obtain ⟨k, found, backing⟩ := Option.map_eq_some_iff.1 found
  have supported : ∃ i ∈ (theatreModel.target 4).indexes,
      i.name ∈ ["ix_old", "ix_hall"] ∧ i.unsupported = none := by decide +kernel
  rw [← backing] at supported
  obtain ⟨-, -, begins⟩ := defaultOrder_follows_index build_theatre (e := 4) (by decide +kernel)
  exact ⟨by decide +kernel, k, ⟨"hall", key, found⟩, backing,
    (begins k ⟨"hall", key, found⟩ supported).2⟩

end Model

end RelationAtlas
