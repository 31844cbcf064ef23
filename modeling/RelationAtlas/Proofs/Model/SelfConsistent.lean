import RelationAtlas.Proofs.Model.Tables

/-! # When a catalog has a model

A model is built exactly if the simple names of the tables are distinct and all listed foreign keys
resolve. In a catalog that is consistent in itself they do so unless a foreign key, or the key that
it references, has a column of an unknown type: such a column is left out, and so is an index over
it, but not a foreign key. -/

namespace RelationAtlas

def Catalog.Table.Models (s : Catalog.Table) (name : String) : Prop :=
  ∃ c ∈ s.columns, c.name = name ∧ (ColumnType.ofSqlName? c.typeName).isSome

structure Catalog.Table.Consistent (s : Catalog.Table) : Prop where
  columns : Catalog.Named (s.columns.map Catalog.Column.name)
  indexes : Catalog.Named (s.indexes.map Catalog.Index.name)
  foreignKeys : Catalog.Named (s.foreignKeys.map Catalog.ForeignKey.name)
  indexColumns : ∀ i ∈ s.indexes, ∀ c ∈ i.columns, c.name ∈ s.columns.map Catalog.Column.name

instance (s : Catalog.Table) : Decidable s.Consistent :=
  decidable_of_iff (Catalog.Named (s.columns.map Catalog.Column.name) ∧
      Catalog.Named (s.indexes.map Catalog.Index.name) ∧
      Catalog.Named (s.foreignKeys.map Catalog.ForeignKey.name) ∧
      ∀ i ∈ s.indexes, ∀ c ∈ i.columns, c.name ∈ s.columns.map Catalog.Column.name)
    ⟨fun ⟨columns, indexes, foreignKeys, own⟩ => ⟨columns, indexes, foreignKeys, own⟩,
      fun ⟨columns, indexes, foreignKeys, own⟩ => ⟨columns, indexes, foreignKeys, own⟩⟩

namespace Table

theorem isSome_positionIn?_iff {source : Catalog.Table} {name : String} :
    (positionIn? (columnsOf source) name).isSome ↔ source.Models name := by
  rw [positionIn?, Option.isSome_map, List.findRev?_eq_find?_reverse, List.find?_isSome]
  constructor
  · rintro ⟨⟨c, p⟩, listed, named⟩
    have member : c ∈ columnsOf source :=
      List.mem_of_getElem? (List.mem_zipIdx_iff_getElem?.1 (List.mem_reverse.1 listed))
    obtain ⟨⟨d, i⟩, at_i, known⟩ := List.mem_filterMap.1 member
    obtain ⟨type, ht, rfl⟩ := Option.map_eq_some_iff.1 known
    exact ⟨d, List.mem_of_getElem? (List.mem_zipIdx_iff_getElem?.1 at_i), by simpa using named,
      by simp [ht]⟩
  · rintro ⟨d, listed, rfl, known⟩
    obtain ⟨type, ht⟩ := Option.isSome_iff_exists.1 known
    obtain ⟨i, at_i⟩ := List.mem_iff_getElem?.1 listed
    have member : ⟨i + 1, d.name, d.typeName, d.nullable, type, false⟩ ∈ columnsOf source :=
      List.mem_filterMap.2 ⟨(d, i), List.mem_zipIdx_iff_getElem?.2 at_i, by simp [ht]⟩
    obtain ⟨p, at_p⟩ := List.mem_iff_getElem?.1 member
    exact ⟨(_, p), List.mem_reverse.2 (List.mem_zipIdx_iff_getElem?.2 at_p),
      beq_self_eq_true d.name⟩

theorem isSome_keyColumns?_iff {source : Catalog.Table} {i : Catalog.Index} :
    (keyColumns? (columnsOf source) i).isSome ↔ ∀ c ∈ i.columns, source.Models c.name := by
  rw [Option.isSome_iff_exists, keyColumns?]
  simp only [mapM_eq_some_iff, exists_forall₂_iff, ← Option.isSome_iff_exists, Option.isSome_map,
    isSome_positionIn?_iff]

theorem exists_resolve_iff {tables : List Table} {t : Table} {k : Catalog.ForeignKey} :
    (∃ f, resolve tables t k = .ok f) ↔ (∀ n ∈ k.columns, (t.position? n).isSome) ∧
      ∃ p, principalKey tables k = .ok p ∧ p.columns.length = k.columns.length := by
  constructor
  · rintro ⟨f, made⟩
    obtain ⟨positions, p, found, key, arity, -⟩ := resolve_eq_ok made
    refine ⟨fun n hn => ?_, p, key, arity.trans found.length_eq.symm⟩
    obtain ⟨q, -, at_q⟩ := exists_of_mem_right found.flip hn
    exact Option.isSome_iff_exists.2 ⟨q, at_q⟩
  · rintro ⟨found, p, key, arity⟩
    have each : ∀ n ∈ k.columns, ∃ q, t.requirePosition n = .ok q := by
      intro n hn
      obtain ⟨q, at_q⟩ := Option.isSome_iff_exists.1 (found n hn)
      exact ⟨q, by rw [requirePosition, at_q]⟩
    obtain ⟨positions, all⟩ := exists_forall₂_iff.2 each
    refine ⟨t.foreignKeyOf k.name positions p, ?_⟩
    rw [resolve, mapM_eq_ok_iff.2 all]
    simp only [bind, Except.bind, key]
    rw [if_neg (not_not.2 (arity.trans all.length_eq))]
    rfl

theorem exists_resolveAll {tables : List Table} {source : Catalog.Table}
    (h : ∀ t ∈ tables.drop 1, t.name.simple = source.name.simple →
      ∀ k ∈ source.foreignKeys, ∃ f, resolve tables t k = .ok f) :
    ∃ list, resolveAll tables source = .ok list := by
  rw [resolveAll]
  cases found : bySimple? tables source.name.simple with
  | none => exact ⟨[], rfl⟩
  | some t =>
    obtain ⟨member, named⟩ := bySimple?_mem found
    have each : ∀ k ∈ source.foreignKeys, ∃ e,
        (return (t.id, ← resolve tables t k) : Except BrowseError _) = .ok e := by
      intro k hk
      obtain ⟨f, made⟩ := h t member named k hk
      exact ⟨(t.id, f), by rw [made]; rfl⟩
    obtain ⟨list, all⟩ := exists_forall₂_iff.2 each
    exact ⟨list, mapM_eq_ok_iff.2 all⟩

section Principal

variable {sources : List Catalog.Table} {r : Catalog.Table} {i : Catalog.Index}
  {k : Catalog.ForeignKey}

theorem eq_of_mem_indexesOf (distinct : (r.indexes.map Catalog.Index.name).Nodup)
    (hi : i ∈ r.indexes) {x : Index} (hx : x ∈ indexesOf (columnsOf r) r)
    (named : x.name = i.name) : x.unique = i.unique ∧
      keyColumns? (columnsOf r) i = some x.tuple.columns := by
  obtain ⟨s, hs, name, unique, known⟩ := mem_indexesOf hx
  obtain rfl : s = i := List.inj_on_of_nodup_map distinct hs hi (name.symm.trans named)
  exact ⟨unique, known⟩

theorem keyColumns?_of_principalKey (simples : (sources.map fun s => s.name.simple).Nodup)
    (hr : r ∈ sources) (names : (r.indexes.map Catalog.Index.name).Nodup) (targets : k.Targets r i)
    {p : PrincipalKey} (h : principalKey (root :: tablesOf sources) k = .ok p) :
    ∃ key, keyColumns? (columnsOf r) i = some key ∧ p.columns = key.map DirectedColumn.column := by
  obtain ⟨u, hu, x, hx, simple, -, named, rfl⟩ := principalKey_eq_ok h
  obtain ⟨j, s, abbreviation, at_j, rfl⟩ := mem_tablesOf hu
  obtain rfl : s = r := List.inj_on_of_nodup_map simples (List.mem_of_getElem? at_j) hr
    (simple.trans targets.simple.symm)
  have same := eq_of_mem_indexesOf names targets.indexed hx (named.trans targets.named.symm)
  exact ⟨_, same.2, rfl⟩

theorem exists_principalKey (simples : (sources.map fun s => s.name.simple).Nodup)
    (hr : r ∈ sources) (names : (r.indexes.map Catalog.Index.name).Nodup) (targets : k.Targets r i)
    (known : (keyColumns? (columnsOf r) i).isSome) :
    ∃ p, principalKey (root :: tablesOf sources) k = .ok p := by
  obtain ⟨j, abbreviation, listed⟩ := exists_mem_tablesOf hr
  have table := bySimple?_of_mem simples listed
  obtain ⟨x, hx, named⟩ := exists_mem_indexesOf targets.indexed known
  have unique : x ∈ (ofCatalog (j + 1) r abbreviation).uniqueIndexes := by
    refine List.mem_filter.2 ⟨hx, ?_⟩
    rw [(eq_of_mem_indexesOf names targets.indexed hx named).1, targets.unique]
  have index : ((ofCatalog (j + 1) r abbreviation).uniqueIndexes.find? fun y =>
      y.name == k.referencedKey).isSome :=
    List.find?_isSome.2 ⟨x, unique, beq_iff_eq.2 (named.trans targets.named)⟩
  obtain ⟨y, hy⟩ := Option.isSome_iff_exists.1 index
  change bySimple? (root :: tablesOf sources) r.name.simple = _ at table
  refine ⟨⟨j + 1, y.name, y.tuple.positions⟩, ?_⟩
  rw [principalKey, ← targets.simple, table, Option.bind_some, hy]
  rfl

theorem exists_principalKey_iff (simples : (sources.map fun s => s.name.simple).Nodup)
    (hr : r ∈ sources) (names : (r.indexes.map Catalog.Index.name).Nodup)
    (targets : k.Targets r i) : (∃ p, principalKey (root :: tablesOf sources) k = .ok p ∧
      p.columns.length = i.columns.length) ↔ ∀ c ∈ i.columns, r.Models c.name := by
  rw [← isSome_keyColumns?_iff]
  constructor
  · rintro ⟨p, found, -⟩
    obtain ⟨key, known, -⟩ := keyColumns?_of_principalKey simples hr names targets found
    rw [known]
    rfl
  · intro known
    obtain ⟨p, found⟩ := exists_principalKey simples hr names targets known
    obtain ⟨key, known, columns⟩ := keyColumns?_of_principalKey simples hr names targets found
    refine ⟨p, found, ?_⟩
    rw [columns, ← (positions_of_keyColumns? known).length_eq, List.length_map]

end Principal

end Table

namespace Model

variable {options : BrowseOptions} {catalog : Catalog}

/-- A catalog has a model exactly if its tables are distinct and its foreign keys resolve. -/
theorem exists_build_iff : (∃ m, build options catalog = .ok m) ↔
    ((includedTables options catalog).map fun s => s.name.simple).Nodup ∧
      ∀ t ∈ Table.tablesOf (includedTables options catalog),
        ∀ k ∈ catalog.foreignKeysOf t.name.simple,
          ∃ f, Table.resolve (bareTables options catalog) t k = .ok f := by
  constructor
  · rintro ⟨m, h⟩
    obtain ⟨lists, b⟩ := built_of_build h
    refine ⟨b.distinct, fun t ht k hk => ?_⟩
    obtain ⟨f, made, -⟩ := b.exists_resolved ht hk
    exact ⟨f, made⟩
  · rintro ⟨distinct, resolves⟩
    have bare : Table.allOfCatalog (includedTables options catalog) =
        .ok (bareTables options catalog) := Table.allOfCatalog_eq_ok_iff.2 ⟨distinct, rfl⟩
    have each : ∀ source ∈ catalog.tables, ∃ list,
        Table.resolveAll (bareTables options catalog) source = .ok list := by
      intro source hs
      refine Table.exists_resolveAll fun t ht same k hk => resolves t ht k ?_
      exact List.mem_flatMap.2 ⟨source, List.mem_filter.2 ⟨hs, beq_iff_eq.2 same.symm⟩, hk⟩
    obtain ⟨lists, all⟩ := exists_forall₂_iff.2 each
    rw [build, bare]
    simp only [bind, Except.bind, mapM_eq_ok_iff.2 all]
    exact ⟨_, rfl⟩

/-- Names are proper, and what tables, indexes and foreign keys refer to is listed. -/
structure SelfConsistent (options : BrowseOptions) (catalog : Catalog) : Prop where
  distinct : ((includedTables options catalog).map fun s => s.name.simple).Nodup
  tables : ∀ s ∈ includedTables options catalog, s.Consistent
  ownColumns : ∀ s ∈ includedTables options catalog, ∀ k ∈ s.foreignKeys, ∀ n ∈ k.columns,
    n ∈ s.columns.map Catalog.Column.name
  references : ∀ s ∈ includedTables options catalog, ∀ k ∈ s.foreignKeys,
    ∃ r ∈ includedTables options catalog, ∃ i ∈ r.indexes, k.Targets r i ∧
      i.columns.length = k.columns.length

def KeysModeled (options : BrowseOptions) (catalog : Catalog) : Prop :=
  ∀ s ∈ includedTables options catalog, ∀ k ∈ s.foreignKeys, (∀ n ∈ k.columns, s.Models n) ∧
    ∀ r ∈ includedTables options catalog, ∀ i, k.Targets r i → ∀ c ∈ i.columns, r.Models c.name

theorem SelfConsistent.keysModeled (consistent : SelfConsistent options catalog)
    (known : ∀ s ∈ includedTables options catalog, ∀ c ∈ s.columns,
      (ColumnType.ofSqlName? c.typeName).isSome) : KeysModeled options catalog := by
  have models : ∀ s ∈ includedTables options catalog,
      ∀ n ∈ s.columns.map Catalog.Column.name, s.Models n := by
    intro s hs n hn
    obtain ⟨c, hc, rfl⟩ := List.mem_map.1 hn
    exact ⟨c, hc, rfl, known s hs c hc⟩
  intro s hs k hk
  refine ⟨fun n hn => models s hs n (consistent.ownColumns s hs k hk n hn), ?_⟩
  intro r hr i targets c hc
  exact models r hr c.name ((consistent.tables r hr).indexColumns i targets.indexed c hc)

theorem SelfConsistent.eq_of_targets (consistent : SelfConsistent options catalog)
    {k : Catalog.ForeignKey} {r r' : Catalog.Table} {i i' : Catalog.Index}
    (hr : r ∈ includedTables options catalog) (hr' : r' ∈ includedTables options catalog)
    (targets : k.Targets r i) (targets' : k.Targets r' i') : r = r' ∧ i = i' := by
  obtain rfl : r = r' := List.inj_on_of_nodup_map consistent.distinct hr hr'
    (targets.simple.trans targets'.simple.symm)
  exact ⟨rfl, List.inj_on_of_nodup_map (consistent.tables r hr).indexes.1 targets.indexed
    targets'.indexed (targets.named.trans targets'.named.symm)⟩

theorem SelfConsistent.exists_resolve_iff (consistent : SelfConsistent options catalog)
    {s : Catalog.Table} (hs : s ∈ includedTables options catalog) {k : Catalog.ForeignKey}
    (hk : k ∈ s.foreignKeys) (id : TableId) (abbreviation : String) :
    (∃ f, Table.resolve (bareTables options catalog) (Table.ofCatalog id s abbreviation) k =
        .ok f) ↔
      (∀ n ∈ k.columns, s.Models n) ∧ ∀ r ∈ includedTables options catalog, ∀ i, k.Targets r i →
        ∀ c ∈ i.columns, r.Models c.name := by
  obtain ⟨r, hr, i, -, targets, arity⟩ := consistent.references s hs k hk
  have own : (∀ n ∈ k.columns, ((Table.ofCatalog id s abbreviation).position? n).isSome) ↔
      ∀ n ∈ k.columns, s.Models n := forall₂_congr fun _ _ => Table.isSome_positionIn?_iff
  have key := Table.exists_principalKey_iff consistent.distinct hr
    (consistent.tables r hr).indexes.1 targets
  rw [Table.exists_resolve_iff, own, ← arity]
  refine and_congr_right fun _ => key.trans ⟨?_, fun all => all r hr i targets⟩
  intro modeled r' hr' i' targets'
  obtain ⟨rfl, rfl⟩ := consistent.eq_of_targets hr hr' targets targets'
  exact modeled

/-- A catalog that is consistent in itself has a model exactly if the columns of its keys have
known types. Views that are left out must not lend foreign keys to its tables. -/
theorem exists_model_iff (consistent : SelfConsistent options catalog)
    (apart : ViewsApart options catalog) :
    (∃ m, build options catalog = .ok m) ↔ KeysModeled options catalog := by
  rw [exists_build_iff]
  constructor
  · rintro ⟨-, resolves⟩ s hs k hk
    obtain ⟨j, abbreviation, listed⟩ := Table.exists_mem_tablesOf hs
    rw [← consistent.exists_resolve_iff hs hk (j + 1) abbreviation]
    refine resolves _ listed k ?_
    change k ∈ catalog.foreignKeysOf s.name.simple
    rwa [foreignKeysOf_eq consistent.distinct apart hs]
  · refine fun modeled => ⟨consistent.distinct, fun t ht k hk => ?_⟩
    obtain ⟨j, s, abbreviation, at_j, rfl⟩ := Table.mem_tablesOf ht
    have hs := List.mem_of_getElem? at_j
    change k ∈ catalog.foreignKeysOf s.name.simple at hk
    rw [foreignKeysOf_eq consistent.distinct apart hs] at hk
    exact (consistent.exists_resolve_iff hs hk (j + 1) abbreviation).2 (modeled s hs k hk)

theorem exists_model_iff_staff : SelfConsistent {} staff ∧ ∃ m, build {} staff = .ok m := by
  have consistent : SelfConsistent {} staff :=
    ⟨by decide, by decide, by decide, by decide⟩
  have known : ∀ s ∈ includedTables {} staff, ∀ c ∈ s.columns,
      (ColumnType.ofSqlName? c.typeName).isSome := by decide +kernel
  exact ⟨consistent, (exists_model_iff consistent (viewsApart_of_included rfl)).2
    (consistent.keysModeled known)⟩

def sales : Catalog where
  tables := [
    { name := ⟨["product"], .inr rfl⟩
      columns := [⟨"id", "int", false⟩, ⟨"code", "sql_variant", false⟩]
      indexes := [⟨"pk_product", true, true, [⟨"id", .ascending⟩], none⟩,
        ⟨"ux_product", true, false, [⟨"code", .ascending⟩], none⟩] },
    { name := ⟨["sale"], .inr rfl⟩
      columns := [⟨"id", "int", false⟩, ⟨"code", "sql_variant", false⟩]
      foreignKeys := [⟨"product", ["code"], ⟨["product"], .inr rfl⟩, "ux_product"⟩] }]

/-- The columns and the index are left out, and yet the catalog has no model. -/
theorem unknown_type_leaves_no_model : SelfConsistent {} sales ∧ ViewsApart {} sales ∧
    ¬∃ m, build {} sales = .ok m := by
  have consistent : SelfConsistent {} sales :=
    ⟨by decide, by decide, by decide, by decide⟩
  have fails : (build {} sales).isOk = false := by decide +kernel
  refine ⟨consistent, viewsApart_of_included rfl, ?_⟩
  rintro ⟨m, built⟩
  rw [built] at fails
  cases fails

end Model

end RelationAtlas
