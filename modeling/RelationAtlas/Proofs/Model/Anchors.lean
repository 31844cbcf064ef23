import RelationAtlas.Proofs.Model.Tables

/-! # Relations stand on column tuples

Each side of a relation names a key of its table. The tuple of this key has the join columns of the
side, and its flag says whether they contain a key. On the side of a foreign key this holds when the
foreign key is found by its name; a later one of the same name would be found in its place. -/

namespace RelationAtlas

open Table (resolve tablesOf)

theorem Table.Indexed.withForeignKeys {t : Table} (h : t.Indexed)
    (resolved : List (TableId × ForeignKey)) : (t.withForeignKeys resolved).Indexed :=
  ⟨h.distinct, h.flagged⟩

namespace Model

structure EndSpec.AnchoredAt (s : EndSpec) (t : Table) (tuple : ColumnTuple) : Prop where
  found : t.tuple? s.key = some tuple
  columns : tuple.positions = s.columns
  flag : tuple.containsKey = Table.containsKey t.indexes s.columns

def EndSpec.Anchored (tables : List Table) (s : EndSpec) : Prop :=
  ∃ t tuple, tables[s.table]? = some t ∧ s.AnchoredAt t tuple

/-- An end that stands on a column tuple of its table. Many rows may share its columns unless they
contain a key. -/
structure StandsOn (m : Model) (e : EndId) (tuple : ColumnTuple) : Prop where
  found : m.endTuple e = .ok tuple
  columns : tuple.positions = (m.relationEnd e).columns
  flag : tuple.containsKey =
    Table.containsKey (m.table (m.relationEnd e).table).indexes (m.relationEnd e).columns
  many : (m.relationEnd e).many = !tuple.containsKey

theorem Assembled.standsOn {tables : List Table} {m : Model} (a : Assembled tables m)
    {s : EndSpec} {principal : Bool} {e other : EndId}
    (made : MadeFor tables s principal other (m.relationEnd e)) {t : Table} {tuple : ColumnTuple}
    (at_t : tables[s.table]? = some t) (anchored : s.AnchoredAt t tuple) : m.StandsOn e tuple := by
  have own := a.table_eq at_t
  refine ⟨?_, ?_, ?_, ?_⟩
  · have found : (closeUp m.ends t).tuple? s.key = some tuple := anchored.found
    simp only [endTuple, made.table, made.key, own, found]
  · rw [made.columns, anchored.columns]
  · rw [made.table, made.columns, own]
    exact anchored.flag
  · rw [made.many, isMany, List.getD, at_t, Option.getD_some, anchored.found]
    rfl

theorem anchoredAt_index {t : Table} (indexed : t.Indexed) {i : Index} (hi : i ∈ t.indexes)
    (id : TableId) (name : Option String) :
    EndSpec.AnchoredAt ⟨id, name, .index i.name, i.tuple.positions⟩ t i.tuple := by
  refine ⟨?_, rfl, indexed.flagged i hi⟩
  rw [Table.tuple?, indexed.index?_eq hi]
  rfl

theorem anchoredAt_foreignKey {t u : Table} (same : u.indexes = t.indexes) {label : String}
    {positions : List Nat} {principal : PrincipalKey}
    (found : u.foreignKey? label = some (t.foreignKeyOf label positions principal))
    (id : TableId) (name : Option String) :
    EndSpec.AnchoredAt ⟨id, name, .foreignKey label, positions⟩ u
      (t.foreignKeyOf label positions principal).tuple := by
  refine ⟨?_, Table.foreignKeyOf_positions t label positions principal, ?_⟩
  · rw [Table.tuple?, found]
    rfl
  · rw [same]
    rfl

theorem foreignKey?_root (t : Table) (resolved : List (TableId × ForeignKey)) :
    (t.withForeignKeys resolved).foreignKey? "" = some t.rootKey := by
  rw [Table.foreignKey?, List.findRev?_eq_find?_reverse, Table.withForeignKeys,
    List.reverse_append]
  rfl

variable {options : BrowseOptions} {catalog : Catalog} {m : Model}
  {lists : List (List (TableId × ForeignKey))}

namespace Built

theorem getElem?_root : (keyed (bareTables options catalog) lists.flatten)[0]? =
    some Table.root := rfl

theorem rootTable_eq (b : Built options catalog lists m) :
    m.table rootId = closeUp m.ends Table.root := b.assembled.table_eq getElem?_root

theorem drop_keyed : (keyed (bareTables options catalog) lists.flatten).drop 1 =
    (tablesOf (includedTables options catalog)).map fun t => t.withForeignKeys lists.flatten := rfl

theorem getElem?_keyed (b : Built options catalog lists m) {t : Table}
    (ht : t ∈ tablesOf (includedTables options catalog)) :
    (keyed (bareTables options catalog) lists.flatten)[t.id]? =
      some (t.withForeignKeys lists.flatten) := by
  rw [keyed_getElem?, b.placed.get_of_mem (List.mem_cons_of_mem _ ht), Option.map_some, if_neg]
  obtain ⟨i, s, abbreviation, -, rfl⟩ := Table.mem_tablesOf ht
  exact Nat.succ_ne_zero i

theorem foreignKey_names (b : Built options catalog lists m) {t : Table}
    (ht : t ∈ tablesOf (includedTables options catalog)) :
    (t.withForeignKeys lists.flatten).foreignKeys.map ForeignKey.name =
      (catalog.foreignKeysOf t.name.simple).map Catalog.ForeignKey.name ++ [""] := by
  obtain ⟨fks, split, each⟩ := b.foreignKeys ht
  have same : (catalog.foreignKeysOf t.name.simple).map Catalog.ForeignKey.name =
      fks.map ForeignKey.name := by
    rw [← List.forall₂_eq_eq_eq, List.forall₂_map_left_iff, List.forall₂_map_right_iff]
    exact each.imp fun k f made => (Table.name_of_resolve made).symm
  rw [split, List.map_append, same]
  rfl

theorem foreignKey?_eq (b : Built options catalog lists m) {t : Table}
    (ht : t ∈ tablesOf (includedTables options catalog)) {f : ForeignKey}
    (hf : f ∈ (t.withForeignKeys lists.flatten).foreignKeys)
    (once : ((catalog.foreignKeysOf t.name.simple).map Catalog.ForeignKey.name ++ [""]).count
      f.name ≤ 1) : (t.withForeignKeys lists.flatten).foreignKey? f.name = some f :=
  findRev?_key (by rwa [b.foreignKey_names ht]) hf

theorem foreignKeySpec_cases (b : Built options catalog lists m) {s : RelationSpec}
    (hs : s ∈ ((keyed (bareTables options catalog) lists.flatten).drop 1).flatMap fun t =>
      (t.foreignKeys.filter fun k => !k.isRootKey).map (foreignKeySpec t)) :
    ∃ t ∈ tablesOf (includedTables options catalog),
      ∃ k ∈ catalog.foreignKeysOf t.name.simple, ∃ f,
        resolve (bareTables options catalog) t k = .ok f ∧ f.isRootKey = false ∧
          f ∈ (t.withForeignKeys lists.flatten).foreignKeys ∧
            s = foreignKeySpec (t.withForeignKeys lists.flatten) f := by
  obtain ⟨u, hu, hs⟩ := List.mem_flatMap.1 hs
  obtain ⟨t, ht, rfl⟩ := List.mem_map.1 hu
  obtain ⟨f, hf, rfl⟩ := List.mem_map.1 hs
  obtain ⟨listed, named⟩ := List.mem_filter.1 hf
  rw [Bool.not_eq_true'] at named
  obtain ⟨fks, split, each⟩ := b.foreignKeys ht
  have member := listed
  rw [split, List.mem_append, List.mem_singleton] at listed
  rcases listed with listed | rfl
  · obtain ⟨k, hk, made⟩ := exists_of_mem_right each listed
    exact ⟨t, ht, k, hk, f, made, named, member, rfl⟩
  · cases named

theorem spec_cases (b : Built options catalog lists m) {s : RelationSpec}
    (hs : s ∈ specs (keyed (bareTables options catalog) lists.flatten)) :
    ∃ t ∈ tablesOf (includedTables options catalog),
      s = rootSpec (t.withForeignKeys lists.flatten) ∨
      ∃ k ∈ catalog.foreignKeysOf t.name.simple, ∃ f,
        resolve (bareTables options catalog) t k = .ok f ∧ f.isRootKey = false ∧
          f ∈ (t.withForeignKeys lists.flatten).foreignKeys ∧
            s = foreignKeySpec (t.withForeignKeys lists.flatten) f := by
  rcases List.mem_append.1 hs with hs | hs
  · obtain ⟨u, hu, rfl⟩ := List.mem_map.1 hs
    obtain ⟨t, ht, rfl⟩ := List.mem_map.1 hu
    exact ⟨t, ht, .inl rfl⟩
  · obtain ⟨t, ht, made⟩ := b.foreignKeySpec_cases hs
    exact ⟨t, ht, .inr made⟩

theorem anchored_root (b : Built options catalog lists m) {t : Table}
    (ht : t ∈ tablesOf (includedTables options catalog)) :
    let s := rootSpec (t.withForeignKeys lists.flatten)
    s.principal.Anchored (keyed (bareTables options catalog) lists.flatten) ∧
      s.dependent.Anchored (keyed (bareTables options catalog) lists.flatten) := by
  have at_t := b.getElem?_keyed ht
  have principal := anchoredAt_index Table.indexed_root (List.mem_singleton_self _) 0
    (some t.name.simple)
  have dependent := anchoredAt_foreignKey rfl (foreignKey?_root t lists.flatten) t.id none
  exact ⟨⟨_, _, getElem?_root, principal⟩, ⟨_, _, at_t, dependent⟩⟩

theorem index_of_resolve {t : Table} {k : Catalog.ForeignKey} {f : ForeignKey}
    (made : resolve (bareTables options catalog) t k = .ok f) :
    ∃ r ∈ tablesOf (includedTables options catalog), ∃ i ∈ r.indexes,
      r.name.simple = k.referencedTable.simple ∧ i.unique = true ∧ i.name = k.referencedKey ∧
        f.principal = ⟨r.id, i.name, i.tuple.positions⟩ := by
  obtain ⟨positions, principal, -, key, -, rfl⟩ := Table.resolve_eq_ok made
  obtain ⟨r, hr, i, hi, simple, unique, named, rfl⟩ := Table.principalKey_eq_ok key
  exact ⟨r, hr, i, hi, simple, unique, named, rfl⟩

theorem anchored_principal (b : Built options catalog lists m) {t r : Table}
    (hr : r ∈ tablesOf (includedTables options catalog)) {i : Index} (hi : i ∈ r.indexes)
    {f : ForeignKey} (reference : f.principal = ⟨r.id, i.name, i.tuple.positions⟩) :
    (foreignKeySpec t f).principal.Anchored
      (keyed (bareTables options catalog) lists.flatten) := by
  rw [foreignKeySpec, reference]
  have indexed := (Table.indexed_tablesOf hr).withForeignKeys lists.flatten
  exact ⟨_, _, b.getElem?_keyed hr, anchoredAt_index indexed hi _ _⟩

theorem anchored_dependent {t : Table} {k : Catalog.ForeignKey} {f : ForeignKey}
    (made : resolve (bareTables options catalog) t k = .ok f)
    (found : (t.withForeignKeys lists.flatten).foreignKey? f.name = some f) :
    (foreignKeySpec (t.withForeignKeys lists.flatten) f).dependent.AnchoredAt
      (t.withForeignKeys lists.flatten) f.tuple := by
  obtain ⟨positions, principal, -, -, -, rfl⟩ := Table.resolve_eq_ok made
  rw [foreignKeySpec, Table.foreignKeyOf_positions]
  exact anchoredAt_foreignKey rfl found _ _

end Built

end Model

end RelationAtlas
