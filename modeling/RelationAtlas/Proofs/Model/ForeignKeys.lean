import RelationAtlas.Proofs.Model.Anchors

/-! # Each foreign key has its relation

Each foreign key with a name becomes a relation between its table and that of the referenced key.
If no other foreign key of the table has its name, there is no other relation of this name, and the
side of the table stands on the column tuple of this very foreign key. Where a name is repeated, the
tuple of the last foreign key of that name is found for all of them. The empty name is that of the
key to the root. -/

namespace RelationAtlas.Model

open Table (resolve tablesOf)

def OnColumns (m : Model) (e : EndId) (names : List String) : Prop :=
  List.Forall₂ (fun name p => (m.table (m.relationEnd e).table).position? name = some p) names
    (m.relationEnd e).columns

structure References (options : BrowseOptions) (catalog : Catalog) (m : Model)
    (k : Catalog.ForeignKey) (e : EndId) (j : Nat) (source : Catalog.Table)
    (index : Catalog.Index) : Prop where
  listed : (includedTables options catalog)[j]? = some source
  targets : k.Targets source index
  table : (m.relationEnd e).table = j + 1
  columns : m.OnColumns e (index.columns.map Catalog.KeyColumn.name)

structure Bears (m : Model) (t : TableId) (name : String) (d : EndId) : Prop where
  inside : d < m.ends.length
  table : (m.relationEnd d).table = t
  dependent : (m.relationEnd d).principal = false
  key : (m.relationEnd d).key = .foreignKey name

/-- The end stands, with its partner, for the relation of a foreign key of a table. -/
structure Represents (options : BrowseOptions) (catalog : Catalog) (m : Model) (t : TableId)
    (k : Catalog.ForeignKey) (d : EndId) : Prop extends Bears m t k.name d where
  paired : m.Paired d
  columns : m.OnColumns d k.columns
  referenced : ∃ j source index,
    References options catalog m k (m.relationEnd d).other j source index

/-- The end stands on the tuple of the foreign key, and is the only one for its name. -/
structure Anchors (m : Model) (t : TableId) (k : Catalog.ForeignKey) (d : EndId) : Prop where
  tuple : ∃ tuple, m.StandsOn d tuple ∧ tuple.name = k.name
  only : ∀ d', m.Bears t k.name d' → d' = d

def NamedOnce (catalog : Catalog) (simple : String) (k : Catalog.ForeignKey) : Prop :=
  ((catalog.foreignKeysOf simple).map Catalog.ForeignKey.name).count k.name = 1

variable {options : BrowseOptions} {catalog : Catalog} {m : Model}
  {lists : List (List (TableId × ForeignKey))}

def RelationSpec.source (s : RelationSpec) : TableId × TupleRef :=
  (s.dependent.table, s.dependent.key)

theorem count_dependent (id : TableId) (fks : List ForeignKey) {name : String} (named : name ≠ "") :
    ((fks.filter fun f => !f.isRootKey).map fun f => (id, TupleRef.foreignKey f.name)).count
        (id, .foreignKey name) = (fks.map ForeignKey.name).count name := by
  rw [List.count, List.countP_map, List.countP_filter, List.count, List.countP_map]
  refine List.countP_congr fun f _ => ?_
  have real : f.name = name → f.isRootKey = false := by
    rintro rfl
    simpa [ForeignKey.isRootKey] using named
  simpa using real

namespace Built

theorem table_of_mem (b : Built options catalog lists m) {t : Table}
    (ht : t ∈ tablesOf (includedTables options catalog)) :
    m.table t.id = closeUp m.ends (t.withForeignKeys lists.flatten) :=
  b.assembled.table_eq (b.getElem?_keyed ht)

theorem mem_specs {t : Table} (ht : t ∈ tablesOf (includedTables options catalog))
    {f : ForeignKey} (hf : f ∈ (t.withForeignKeys lists.flatten).foreignKeys)
    (named : f.isRootKey = false) : foreignKeySpec (t.withForeignKeys lists.flatten) f ∈
      specs (keyed (bareTables options catalog) lists.flatten) := by
  refine List.mem_append_right _ (List.mem_flatMap.2 ⟨_, List.mem_map_of_mem ht, ?_⟩)
  exact List.mem_map_of_mem (List.mem_filter.2 ⟨hf, by simp [named]⟩)

theorem map_source_specs (options : BrowseOptions) (catalog : Catalog)
    (lists : List (List (TableId × ForeignKey))) :
    (specs (keyed (bareTables options catalog) lists.flatten)).map RelationSpec.source =
      (tablesOf (includedTables options catalog)).map (fun t => (t.id, .foreignKey "")) ++
        (tablesOf (includedTables options catalog)).flatMap fun t =>
          ((t.withForeignKeys lists.flatten).foreignKeys.filter fun f => !f.isRootKey).map
            fun f => (t.id, .foreignKey f.name) := by
  rw [specs, drop_keyed, List.map_append, List.map_map, List.map_map, List.map_flatMap,
    List.flatMap_map]
  simp only [List.map_map]
  rfl

theorem count_sources (b : Built options catalog lists m) {t : Table}
    (ht : t ∈ tablesOf (includedTables options catalog)) {name : String} (named : name ≠ "") :
    ((specs (keyed (bareTables options catalog) lists.flatten)).map RelationSpec.source).count
        (t.id, .foreignKey name) =
      ((catalog.foreignKeysOf t.name.simple).map Catalog.ForeignKey.name).count name := by
  have distinct : ((tablesOf (includedTables options catalog)).map
      fun t => t.name.simple).Nodup := by
    rw [Table.map_simple_tablesOf]
    exact b.distinct
  have roots : (t.id, TupleRef.foreignKey name) ∉
      (tablesOf (includedTables options catalog)).map fun t => (t.id, TupleRef.foreignKey "") := by
    simp [named.symm]
  rw [map_source_specs, List.count_append, List.count_eq_zero.2 roots, Nat.zero_add,
    count_flatMap_key (List.nodup_iff_count_le_one.1 distinct _) ht, count_dependent _ _ named,
    b.foreignKey_names ht, List.count_append, List.count_singleton]
  · simp [named.symm]
  · intro u hu ne listed
    obtain ⟨f, -, same⟩ := List.mem_map.1 listed
    have := b.placed.eq_of_id (List.mem_cons_of_mem _ hu) (List.mem_cons_of_mem _ ht)
      (Prod.mk.inj same).1
    exact ne (by rw [this])

theorem references (b : Built options catalog lists m) {t : Table} {k : Catalog.ForeignKey}
    {f : ForeignKey} (made : resolve (bareTables options catalog) t k = .ok f) {e other : EndId}
    (principal : MadeFor (keyed (bareTables options catalog) lists.flatten)
      (foreignKeySpec (t.withForeignKeys lists.flatten) f).principal true other
      (m.relationEnd e)) :
    ∃ j source index, References options catalog m k e j source index := by
  obtain ⟨r, hr, i, hi, simple, unique, named, reference⟩ := index_of_resolve made
  have own := b.table_of_mem hr
  obtain ⟨j, source, abbreviation, listed, rfl⟩ := Table.mem_tablesOf hr
  obtain ⟨index, indexed, sameName, sameUnique, known⟩ := Table.mem_indexesOf hi
  refine ⟨j, source, index, listed, ⟨indexed, simple, sameUnique ▸ unique, sameName ▸ named⟩,
    ?_, ?_⟩
  · rw [principal.table, foreignKeySpec, reference]
    rfl
  · rw [OnColumns, principal.table, principal.columns, foreignKeySpec, reference, own]
    simp only [closeUp_position?]
    exact Table.positions_of_keyColumns? known

theorem source_of_bears (b : Built options catalog lists m) {t : TableId} {name : String} {d : Nat}
    (h : m.Bears t name d) : ∃ n, d = 2 * n + 1 ∧
      ((specs (keyed (bareTables options catalog) lists.flatten)).map RelationSpec.source)[n]? =
        some (t, .foreignKey name) := by
  obtain ⟨inside, table, side, key⟩ := h
  obtain ⟨n, s, at_n, rfl | rfl⟩ := b.assembled.spec_of_lt inside
  · rw [(b.assembled.pair at_n).2.2.1.principal] at side
    cases side
  · obtain ⟨-, -, -, -, dependent⟩ := b.assembled.pair at_n
    refine ⟨n, rfl, ?_⟩
    rw [List.getElem?_map, at_n, ← table, ← key, dependent.table, dependent.key]
    rfl

theorem bears_unique (b : Built options catalog lists m) {t : Table}
    (ht : t ∈ tablesOf (includedTables options catalog)) {k : Catalog.ForeignKey}
    (named : k.name ≠ "") (once : NamedOnce catalog t.name.simple k) {d d' : EndId}
    (h : m.Bears t.id k.name d) (h' : m.Bears t.id k.name d') : d = d' := by
  obtain ⟨n, rfl, at_n⟩ := b.source_of_bears h
  obtain ⟨n', rfl, at_n'⟩ := b.source_of_bears h'
  rw [index_unique ((b.count_sources ht named).trans once).le at_n at_n']

theorem represented (b : Built options catalog lists m) {t : Table}
    (ht : t ∈ tablesOf (includedTables options catalog)) {k : Catalog.ForeignKey}
    (hk : k ∈ catalog.foreignKeysOf t.name.simple) (named : k.name ≠ "") :
    ∃ d, Represents options catalog m t.id k d ∧
      (NamedOnce catalog t.name.simple k → m.Anchors t.id k d) := by
  obtain ⟨f, made, hf⟩ := b.exists_resolved ht hk
  obtain ⟨positions, reference, found, -, -, eq⟩ := Table.resolve_eq_ok made
  have name := Table.name_of_resolve made
  have spec := mem_specs ht hf (by rw [ForeignKey.isRootKey, name]; simpa using named)
  obtain ⟨n, at_n⟩ := List.mem_iff_getElem?.1 spec
  obtain ⟨inside, -, principal, -, dependent⟩ := b.assembled.pair at_n
  have bears : m.Bears t.id k.name (2 * n + 1) :=
    ⟨inside, dependent.table, dependent.principal, by rw [dependent.key, foreignKeySpec, name]⟩
  refine ⟨2 * n + 1, ⟨bears, b.assembled.paired inside, ?_, ?_⟩, fun once =>
    ⟨⟨f.tuple, ?_, name⟩, fun d' h => b.bears_unique ht named once h bears⟩⟩
  · rw [OnColumns, dependent.columns, foreignKeySpec, eq, Table.foreignKeyOf_positions,
      bears.table, b.table_of_mem ht]
    simp only [closeUp_position?]
    exact found
  · rw [dependent.other]
    exact b.references made principal
  · -- only here the name has to be that of one foreign key
    have anchored := anchored_dependent made (b.foreignKey?_eq ht hf (by
      rw [name, List.count_append, List.count_singleton, once]
      simp [named.symm]))
    have at_t := b.getElem?_keyed ht
    exact b.assembled.standsOn dependent at_t anchored

theorem rootKey_only (b : Built options catalog lists m) {t : Table}
    (ht : t ∈ tablesOf (includedTables options catalog))
    (nameless : "" ∉ (catalog.foreignKeysOf t.name.simple).map Catalog.ForeignKey.name) :
    (m.table t.id).foreignKeys.filter ForeignKey.isRootKey = [t.rootKey] := by
  obtain ⟨fks, split, each⟩ := b.foreignKeys ht
  have real : ∀ f ∈ fks, ¬f.isRootKey = true := by
    intro f hf root
    obtain ⟨k, hk, made⟩ := exists_of_mem_right each hf
    have empty : k.name = "" := (Table.name_of_resolve made).symm.trans (String.isEmpty_iff.1 root)
    exact nameless (empty ▸ List.mem_map_of_mem hk)
  rw [b.table_of_mem ht]
  change (t.withForeignKeys lists.flatten).foreignKeys.filter ForeignKey.isRootKey = _
  rw [split, List.filter_append, List.filter_eq_nil_iff.2 real]
  rfl

end Built

/-- Every foreign key of a table that has a name is represented, and it anchors its relation if
its name is not repeated; and the table has one nameless foreign key, that to the key of the root,
if the catalog lists none. -/
theorem foreignKeys_represented (h : build options catalog = .ok m) {i : Nat}
    {source : Catalog.Table} (hs : (includedTables options catalog)[i]? = some source) :
    (∀ k ∈ source.foreignKeys, k.name ≠ "" → ∃ d, Represents options catalog m (i + 1) k d ∧
      (NamedOnce catalog source.name.simple k → m.Anchors (i + 1) k d)) ∧
    ("" ∉ (catalog.foreignKeysOf source.name.simple).map Catalog.ForeignKey.name → ∃ r key,
      (m.table (i + 1)).foreignKeys.filter ForeignKey.isRootKey = [r] ∧
        m.rootTable.indexes = [key] ∧ r.principal = ⟨rootId, key.name, key.tuple.positions⟩) := by
  obtain ⟨lists, b⟩ := built_of_build h
  obtain ⟨abbreviation, t, rfl, ht, -, -⟩ := b.table_eq hs
  have source_mem : source ∈ catalog.tables :=
    List.mem_of_mem_filter (List.mem_of_getElem? hs)
  refine ⟨fun k hk named => b.represented ht ?_ named, fun nameless => ?_⟩
  · exact List.mem_flatMap.2 ⟨source, List.mem_filter.2 ⟨source_mem, beq_self_eq_true _⟩, hk⟩
  · have root : m.rootTable = closeUp m.ends Table.root := b.assembled.table_eq Built.getElem?_root
    rw [root]
    exact ⟨_, _, b.rootKey_only ht nameless, rfl, rfl⟩

def bossKey : Catalog.ForeignKey :=
  (staff.tables.flatMap Catalog.Table.foreignKeys).head (by decide)

theorem foreignKeys_represented_staff : (∃ d, Represents {} staff staffModel 1 bossKey d ∧
      staffModel.Anchors 1 bossKey d) ∧
    ∃ r key, (staffModel.table 1).foreignKeys.filter ForeignKey.isRootKey = [r] ∧
      staffModel.rootTable.indexes = [key] ∧
        r.principal = ⟨rootId, key.name, key.tuple.positions⟩ := by
  have person : (includedTables {} staff)[0]? = some (staff.tables.head (by decide)) := rfl
  obtain ⟨represented, root⟩ := foreignKeys_represented build_staff person
  obtain ⟨d, stands, anchors⟩ := represented bossKey (by decide) (by decide)
  exact ⟨⟨d, stands, anchors (by rw [NamedOnce]; decide)⟩, root (by decide)⟩

def rebilling : Catalog where
  tables := [
    { name := ⟨["customer"], .inr rfl⟩
      columns := [⟨"id", "int", false⟩]
      indexes := [⟨"pk_customer", true, true, [⟨"id", .ascending⟩], none⟩] },
    { name := ⟨["bill"], .inr rfl⟩
      columns := [⟨"customer_id", "int", false⟩, ⟨"id", "int", false⟩]
      indexes := [⟨"pk_bill", true, true, [⟨"id", .ascending⟩], none⟩]
      foreignKeys := [⟨"customer", ["customer_id"], ⟨["customer"], .inr rfl⟩, "pk_customer"⟩,
        ⟨"customer", ["id"], ⟨["customer"], .inr rfl⟩, "pk_customer"⟩] }]

/-- The relation of the first one stands on the tuple of the second one. -/
theorem repeated_name_confuses : ∃ m, build {} rebilling = .ok m ∧
    ¬∃ d, Represents {} rebilling m 2
      ⟨"customer", ["customer_id"], ⟨["customer"], .inr rfl⟩, "pk_customer"⟩ d ∧
        ∃ tuple, m.StandsOn d tuple := by
  have succeeds : (build {} rebilling).isOk = true := by decide +kernel
  obtain ⟨m, built⟩ := exists_ok_of_isOk succeeds
  have evaluates : (build {} rebilling).toOption.map (fun m =>
      ((m.table 2).position? "customer_id", (List.range m.ends.length).all fun d =>
        (m.relationEnd d).principal || (m.relationEnd d).columns != [0] ||
          (m.endTuple d).toOption.map ColumnTuple.positions != some [0])) =
      some (some 0, true) := by decide +kernel
  rw [built] at evaluates
  obtain ⟨position, confused⟩ := Prod.mk.inj (Option.some.inj evaluates)
  refine ⟨m, built, ?_⟩
  rintro ⟨d, represents, tuple, stands⟩
  have first : (m.relationEnd d).columns = [0] := by
    have own := represents.columns
    rw [OnColumns, represents.table] at own
    obtain ⟨p, rest, at_p, none, columns⟩ := List.forall₂_cons_left_iff.1 own
    obtain rfl := Option.some.inj (at_p.symm.trans position)
    rw [columns, List.forall₂_nil_left_iff.1 none]
  have here := List.all_eq_true.1 confused d (List.mem_range.2 represents.inside)
  simp [represents.dependent, first, stands.found, stands.columns, Except.toOption] at here

end RelationAtlas.Model
