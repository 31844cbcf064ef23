import Mathlib.Data.Finset.Dedup
import RelationAtlas.Proofs.Model.RootReach

/-! # What foreign keys resolve to

A foreign key that the catalog lists leads to a unique index of the table that has the simple name
of the reference, wherever this table stands. The flags of all column tuples of a table, those of
its indexes and those of its foreign keys, say whether the columns include an index that keeps rows
unique. A foreign key over no columns has no backing indexes, although every index begins with
them. -/

namespace RelationAtlas

def ColumnTuple.columnSet (t : ColumnTuple) : Finset Nat := t.positions.toFinset

/-- The first columns of the index are, in any order, those of the tuple. -/
def Index.BeginsWith (i : Index) (t : ColumnTuple) : Prop :=
  t.columns.length ≤ i.tuple.columns.length ∧
    (i.tuple.positions.take t.columns.length).toFinset = t.columnSet

instance (i : Index) (t : ColumnTuple) : Decidable (i.BeginsWith t) :=
  inferInstanceAs (Decidable (_ ∧ _))

namespace Table

def Identifies (t : Table) (columns : Finset Nat) : Prop :=
  ∃ i ∈ t.indexes, i.guaranteesUniqueness = true ∧ i.tuple.columnSet ⊆ columns

def indexesOn (t : Table) (tuple : ColumnTuple) : List String :=
  (t.indexes.filter fun i => i.BeginsWith tuple).map Index.name

theorem containsKey_iff (t : Table) (tuple : ColumnTuple) :
    containsKey t.indexes tuple.positions = true ↔ t.Identifies tuple.columnSet := by
  simp only [containsKey, Identifies, ColumnTuple.columnSet, List.any_eq_true, Bool.and_eq_true,
    List.all_eq_true, List.contains_iff_mem, Finset.subset_iff, List.mem_toFinset]

theorem sameMembers_iff (xs ys : List Nat) :
    sameMembers xs ys = true ↔ xs.toFinset = ys.toFinset := by
  simp only [sameMembers, Bool.and_eq_true, List.all_eq_true, List.contains_iff_mem,
    Finset.Subset.antisymm_iff, Finset.subset_iff, List.mem_toFinset]

theorem backingIndexes_eq (t : Table) (tuple : ColumnTuple) :
    backingIndexes t.indexes tuple.positions =
      if tuple.columns = [] then [] else t.indexesOn tuple := by
  have empty : tuple.positions.isEmpty = true ↔ tuple.columns = [] := by
    simp [ColumnTuple.positions]
  rw [backingIndexes, indexesOn]
  refine if_congr empty rfl (congrArg (List.map Index.name) ?_)
  refine List.filter_congr fun i _ => ?_
  rw [Bool.eq_iff_iff, Bool.and_eq_true, sameMembers_iff, decide_eq_true_iff, decide_eq_true_iff,
    Index.BeginsWith, ColumnTuple.columnSet]
  simp only [ColumnTuple.positions, List.length_map]

end Table

namespace Model

open Table (tablesOf)

/-- A foreign key of a table that stands for one of the catalog. -/
structure Resolves (m : Model) (t : TableId) (k : Catalog.ForeignKey) (f : ForeignKey) : Prop where
  name : f.name = k.name
  columns : List.Forall₂ (fun n p => (m.table t).position? n = some p) k.columns f.tuple.positions
  referenced : f.principal.table ≠ rootId ∧
    m.tableBySimple? k.referencedTable.simple = some (m.table f.principal.table)
  key : f.principal.name = k.referencedKey ∧
    ∃ i, (m.table f.principal.table).index? f.principal.name = some i ∧ i.unique = true ∧
      i.tuple.positions = f.principal.columns ∧ i.tuple.columns.length = f.tuple.columns.length

variable {options : BrowseOptions} {catalog : Catalog} {m : Model}
  {lists : List (List (TableId × ForeignKey))}

namespace Built

theorem resolves (b : Built options catalog lists m) {t : Table}
    (ht : t ∈ tablesOf (includedTables options catalog)) {k : Catalog.ForeignKey} {f : ForeignKey}
    (made : Table.resolve (bareTables options catalog) t k = .ok f) : m.Resolves t.id k f := by
  obtain ⟨r, hr, i, hi, simple, unique, named, reference⟩ := index_of_resolve made
  obtain ⟨positions, principal, found, -, arity, rfl⟩ := Table.resolve_eq_ok made
  obtain rfl : principal = ⟨r.id, i.name, i.tuple.positions⟩ := reference
  have own := b.table_of_mem hr
  refine ⟨rfl, ?_, ⟨id_ne_zero hr, ?_⟩, named, i, ?_, unique, rfl, ?_⟩
  · rw [Table.foreignKeyOf_positions, b.table_of_mem ht]
    simp only [closeUp_position?]
    exact found
  · rw [← simple]
    exact b.tableBySimple?_eq hr
  · change (m.table r.id).index? i.name = some i
    rw [own]
    exact (Table.indexed_tablesOf hr).index?_eq hi
  · simpa [Table.foreignKeyOf, ColumnTuple.positions] using arity

theorem exists_foreignKeyOf (b : Built options catalog lists m) {t : Table}
    (ht : t ∈ tablesOf (includedTables options catalog)) {f : ForeignKey}
    (hf : f ∈ (t.withForeignKeys lists.flatten).foreignKeys) :
    ∃ name positions principal, f = t.foreignKeyOf name positions principal := by
  obtain ⟨fks, split, each⟩ := b.foreignKeys ht
  rw [split, List.mem_append, List.mem_singleton] at hf
  rcases hf with listed | rfl
  · obtain ⟨k, -, made⟩ := exists_of_mem_right each listed
    obtain ⟨positions, principal, -, -, -, same⟩ := Table.resolve_eq_ok made
    exact ⟨_, positions, principal, same⟩
  · exact ⟨_, _, _, rfl⟩

theorem flag_eq (b : Built options catalog lists m) {t : TableId} (inside : t < m.tables.length)
    {tuple : ColumnTuple} (h : tuple ∈ (m.table t).tuples) :
    tuple.containsKey = Table.containsKey (m.table t).indexes tuple.positions := by
  by_cases root : t = rootId
  · subst root
    rw [b.rootTable_eq] at h ⊢
    obtain rfl : tuple = ⟨"", [], true⟩ := by simpa [Table.tuples, closeUp, Table.root] using h
    rfl
  · obtain ⟨u, hu, rfl⟩ := b.exists_table root inside
    rw [b.table_of_mem hu] at h ⊢
    rcases List.mem_append.1 h with index | foreignKey
    · obtain ⟨i, hi, rfl⟩ := List.mem_map.1 index
      exact (Table.indexed_tablesOf hu).flagged i hi
    · obtain ⟨f, hf, rfl⟩ := List.mem_map.1 foreignKey
      obtain ⟨name, positions, principal, rfl⟩ := b.exists_foreignKeyOf hu hf
      rw [Table.foreignKeyOf_positions]
      rfl

theorem backing_eq (b : Built options catalog lists m) {t : TableId} (inside : t < m.tables.length)
    {f : ForeignKey} (hf : f ∈ (m.table t).foreignKeys) :
    f.backing = Table.backingIndexes (m.table t).indexes f.tuple.positions := by
  by_cases root : t = rootId
  · subst root
    rw [b.rootTable_eq] at hf
    cases hf
  · obtain ⟨u, hu, rfl⟩ := b.exists_table root inside
    rw [b.table_of_mem hu] at hf ⊢
    obtain ⟨name, positions, principal, rfl⟩ := b.exists_foreignKeyOf hu hf
    rw [Table.foreignKeyOf_positions]
    rfl

end Built

/-- The foreign keys of a table are those that the catalog lists for it, resolved, and the one to
the root. All flags and all lists of backing indexes are what they stand for. -/
theorem keys_resolved (h : build options catalog = .ok m) :
    (∀ t < m.tables.length, t ≠ rootId → ∃ fks root,
      (m.table t).foreignKeys = fks ++ [root] ∧ root.isRootKey = true ∧
        List.Forall₂ (m.Resolves t) (catalog.foreignKeysOf (m.table t).name.simple) fks) ∧
    ∀ t < m.tables.length,
      (∀ tuple ∈ (m.table t).tuples,
        tuple.containsKey = true ↔ (m.table t).Identifies tuple.columnSet) ∧
      ∀ f ∈ (m.table t).foreignKeys,
        f.backing = if f.tuple.columns = [] then [] else (m.table t).indexesOn f.tuple := by
  obtain ⟨lists, b⟩ := built_of_build h
  refine ⟨fun t inside real => ?_, fun t inside => ⟨fun tuple listed => ?_, fun f hf => ?_⟩⟩
  · obtain ⟨u, hu, rfl⟩ := b.exists_table real inside
    obtain ⟨fks, split, each⟩ := b.foreignKeys hu
    rw [b.table_of_mem hu]
    exact ⟨fks, _, split, rfl, each.imp fun _ _ made => b.resolves hu made⟩
  · rw [b.flag_eq inside listed, Table.containsKey_iff]
  · rw [b.backing_eq inside hf, Table.backingIndexes_eq]

def lodging : Catalog where
  tables := [
    { name := ⟨["booking"], .inr rfl⟩
      columns := [⟨"id", "int", false⟩, ⟨"house", "int", false⟩, ⟨"room", "int", false⟩]
      indexes := [⟨"pk_booking", true, true, [⟨"id", .ascending⟩], none⟩,
        ⟨"ix_house", false, false, [⟨"house", .ascending⟩, ⟨"id", .ascending⟩], none⟩,
        ⟨"ix_room", false, false, [⟨"room", .ascending⟩, ⟨"house", .descending⟩,
          ⟨"id", .ascending⟩], none⟩]
      foreignKeys := [⟨"room", ["house", "room"], ⟨["room"], .inr rfl⟩, "pk_room"⟩,
        ⟨"site", [], ⟨["room"], .inr rfl⟩, "ux_site"⟩] },
    { name := ⟨["room"], .inr rfl⟩
      columns := [⟨"house", "int", false⟩, ⟨"number", "int", false⟩]
      indexes := [⟨"pk_room", true, true, [⟨"house", .ascending⟩, ⟨"number", .ascending⟩], none⟩,
        ⟨"ux_site", true, false, [], none⟩] }]

def lodgingModel : Model := (build {} lodging).toOption.getD ⟨[], [], none⟩

theorem build_lodging : build {} lodging = .ok lodgingModel := by
  have succeeds : (build {} lodging).isOk = true := by decide +kernel
  obtain ⟨m, built⟩ := exists_ok_of_isOk succeeds
  rw [lodgingModel, built]
  rfl

theorem keys_resolved_lodging : ∃ room site root,
    (lodgingModel.table 1).foreignKeys = [room, site, root] ∧
      List.Forall₂ (lodgingModel.Resolves 1) (lodging.foreignKeysOf "booking") [room, site] ∧
        room.backing = ["ix_room"] ∧ site.backing = [] ∧
          ¬(lodgingModel.table 1).Identifies room.tuple.columnSet := by
  obtain ⟨resolved, sound⟩ := keys_resolved build_lodging
  have inside : 1 < lodgingModel.tables.length := by decide +kernel
  obtain ⟨flags, backing⟩ := sound 1 inside
  obtain ⟨fks, root, split, -, each⟩ := resolved 1 inside (by decide)
  have listed : lodging.foreignKeysOf (lodgingModel.table 1).name.simple =
      lodging.foreignKeysOf "booking" := by decide +kernel
  have keys : (lodgingModel.table 1).foreignKeys.map (fun f =>
      (f.tuple.columns.length, f.tuple.containsKey)) = [(2, false), (0, false), (0, false)] := by
    decide +kernel
  have behind : (lodgingModel.table 1).foreignKeys.head?.map (fun f =>
      (lodgingModel.table 1).indexesOn f.tuple) = some ["ix_room"] := by decide +kernel
  rw [listed] at each
  obtain ⟨room, rest, -, each', rfl⟩ := List.forall₂_cons_left_iff.1 each
  obtain ⟨site, none, -, each'', rfl⟩ := List.forall₂_cons_left_iff.1 each'
  obtain rfl := List.forall₂_nil_left_iff.1 each''
  have roomListed : room ∈ (lodgingModel.table 1).foreignKeys := by simp [split]
  have siteListed : site ∈ (lodgingModel.table 1).foreignKeys := by simp [split]
  have tuple : room.tuple ∈ (lodgingModel.table 1).tuples :=
    List.mem_append_right _ (List.mem_map_of_mem roomListed)
  simp only [split, List.cons_append, List.nil_append, List.map_cons, List.map_nil,
    List.cons.injEq, Prod.mk.injEq, List.head?_cons, Option.map_some, Option.some.injEq] at keys behind
  obtain ⟨⟨two, flag⟩, ⟨zero, -⟩, -⟩ := keys
  refine ⟨room, site, root, split, each, ?_, ?_, ?_⟩
  · rw [backing room roomListed, if_neg (fun empty => by simp [empty] at two), behind]
  · rw [backing site siteListed, if_pos (List.eq_nil_of_length_eq_zero zero)]
  · rw [← flags room.tuple tuple, flag]
    exact Bool.false_ne_true

/-- Every index begins with the columns of the reference to the site, and none is listed. -/
theorem columnless_key_has_no_backing : build {} lodging = .ok lodgingModel ∧
    ∃ f ∈ (lodgingModel.table 1).foreignKeys, f.name = "site" ∧
      f.backing ≠ (lodgingModel.table 1).indexesOn f.tuple := by
  have differs : ((lodgingModel.table 1).foreignKeys.any fun f => f.name == "site" &&
      f.backing != (lodgingModel.table 1).indexesOn f.tuple) = true := by decide +kernel
  obtain ⟨f, hf, found⟩ := List.any_eq_true.1 differs
  obtain ⟨name, differs⟩ := Bool.and_eq_true_iff.1 found
  exact ⟨build_lodging, f, hf, beq_iff_eq.1 name, bne_iff_ne.1 differs⟩

end Model

end RelationAtlas
