import RelationAtlas.Proofs.Model.Index
import RelationAtlas.Proofs.Model.RelationGraph

/-! # Tables by the names of the catalog

The tables of a model stand in the order of the catalog, and their simple names are all different,
so that each is found by its own. Its foreign keys are those that the catalog lists under this name,
in the order of the catalog, and the one to the root. -/

namespace RelationAtlas

def Catalog.Named (names : List String) : Prop := names.Nodup ∧ "" ∉ names

instance (names : List String) : Decidable (Catalog.Named names) :=
  inferInstanceAs (Decidable (_ ∧ _))

structure Catalog.ForeignKey.Targets (k : Catalog.ForeignKey) (r : Catalog.Table)
    (i : Catalog.Index) : Prop where
  indexed : i ∈ r.indexes
  simple : r.name.simple = k.referencedTable.simple
  unique : i.unique = true
  named : i.name = k.referencedKey

instance (k : Catalog.ForeignKey) (r : Catalog.Table) (i : Catalog.Index) :
    Decidable (k.Targets r i) :=
  decidable_of_iff (i ∈ r.indexes ∧ r.name.simple = k.referencedTable.simple ∧ i.unique = true ∧
      i.name = k.referencedKey)
    ⟨fun ⟨indexed, simple, unique, named⟩ => ⟨indexed, simple, unique, named⟩,
      fun ⟨indexed, simple, unique, named⟩ => ⟨indexed, simple, unique, named⟩⟩

def Catalog.foreignKeysOf (c : Catalog) (simple : String) : List Catalog.ForeignKey :=
  (c.tables.filter fun t => t.name.simple == simple).flatMap Catalog.Table.foreignKeys

namespace Table

theorem repeated?_eq_none_iff {names : List ObjectName} {seen : List String} :
    repeated? seen names = none ↔
      (names.map ObjectName.simple).Nodup ∧ ∀ n ∈ names, n.simple ∉ seen := by
  induction names generalizing seen with
  | nil => simp [repeated?]
  | cons n rest ih =>
    rw [repeated?]
    split_ifs with taken
    · simp only [List.contains_iff_mem] at taken
      simp [taken]
    · simp only [List.contains_iff_mem] at taken
      rw [ih, List.map_cons, List.nodup_cons, List.forall_mem_cons]
      simp only [List.mem_cons, not_or, List.mem_map, not_exists, not_and]
      constructor
      · rintro ⟨distinct, apart⟩
        exact ⟨⟨fun r hr => (apart r hr).1, distinct⟩, taken, fun r hr => (apart r hr).2⟩
      · rintro ⟨⟨new, distinct⟩, -, apart⟩
        exact ⟨distinct, fun r hr => ⟨new r hr, apart r hr⟩⟩

def tablesOf (sources : List Catalog.Table) : List Table :=
  (sources.zip (Abbreviation.abbreviate (sources.map fun t => t.name.name))).zipIdx.map
    fun ((source, abbreviation), i) => ofCatalog (i + 1) source abbreviation

variable {sources : List Catalog.Table}

theorem allOfCatalog_eq_ok_iff {bare : List Table} : allOfCatalog sources = .ok bare ↔
    (sources.map fun s => s.name.simple).Nodup ∧ bare = root :: tablesOf sources := by
  have distinct : (sources.map fun s => s.name.simple).Nodup ↔
      repeated? [] (sources.map Catalog.Table.name) = none := by
    rw [repeated?_eq_none_iff, List.map_map]
    simp [Function.comp_def]
  rw [distinct, allOfCatalog]
  cases repeated? [] (sources.map Catalog.Table.name) with
  | none => simp [tablesOf, eq_comm]
  | some n => simp

theorem getElem?_tablesOf (sources : List Catalog.Table) (i : Nat) : ∃ abbreviation,
    (tablesOf sources)[i]? = sources[i]?.map fun s => ofCatalog (i + 1) s abbreviation := by
  have length : (Abbreviation.abbreviate (sources.map fun t => t.name.name)).length =
      sources.length := by simp [Abbreviation.abbreviate]
  by_cases inside : i < sources.length
  · obtain ⟨abbreviation, ha⟩ : ∃ abbreviation,
        (Abbreviation.abbreviate (sources.map fun t => t.name.name))[i]? = some abbreviation :=
      ⟨_, List.getElem?_eq_getElem (length ▸ inside)⟩
    have hs := List.getElem?_eq_getElem inside
    refine ⟨abbreviation, ?_⟩
    have pair : (sources.zip (Abbreviation.abbreviate (sources.map fun t => t.name.name)))[i]? =
        some (sources[i], abbreviation) := List.getElem?_zip_eq_some.2 ⟨hs, ha⟩
    rw [tablesOf, List.getElem?_map, List.getElem?_zipIdx, pair, hs]
    simp
  · have beyond : sources[i]? = none := by simpa using inside
    refine ⟨"", ?_⟩
    rw [beyond, Option.map_none, List.getElem?_eq_none_iff]
    simpa [tablesOf, length] using inside

theorem map_simple_tablesOf (sources : List Catalog.Table) :
    ((tablesOf sources).map fun t => t.name.simple) = sources.map fun s => s.name.simple := by
  apply List.ext_getElem?
  intro i
  obtain ⟨abbreviation, at_i⟩ := getElem?_tablesOf sources i
  rw [List.getElem?_map, List.getElem?_map, at_i, Option.map_map]
  rfl

theorem mem_tablesOf {t : Table} (h : t ∈ tablesOf sources) : ∃ (i : Nat) (s : Catalog.Table)
    (abbreviation : String), sources[i]? = some s ∧ t = ofCatalog (i + 1) s abbreviation := by
  obtain ⟨i, at_i⟩ := List.mem_iff_getElem?.1 h
  obtain ⟨abbreviation, found⟩ := getElem?_tablesOf sources i
  rw [at_i] at found
  obtain ⟨s, hs, rfl⟩ := Option.map_eq_some_iff.1 found.symm
  exact ⟨i, s, abbreviation, hs, rfl⟩

theorem exists_mem_tablesOf {s : Catalog.Table} (hs : s ∈ sources) :
    ∃ j abbreviation, ofCatalog (j + 1) s abbreviation ∈ tablesOf sources := by
  obtain ⟨j, at_j⟩ := List.mem_iff_getElem?.1 hs
  obtain ⟨abbreviation, found⟩ := getElem?_tablesOf sources j
  rw [at_j, Option.map_some] at found
  exact ⟨j, abbreviation, List.mem_of_getElem? found⟩

theorem indexed_tablesOf {t : Table} (h : t ∈ tablesOf sources) : t.Indexed := by
  obtain ⟨i, s, abbreviation, -, rfl⟩ := mem_tablesOf h
  exact indexed_ofCatalog (i + 1) s abbreviation

theorem bySimple?_of_mem (distinct : (sources.map fun s => s.name.simple).Nodup) {t : Table}
    (h : t ∈ tablesOf sources) : bySimple? (root :: tablesOf sources) t.name.simple = some t := by
  rw [← map_simple_tablesOf] at distinct
  exact find?_key (List.nodup_iff_count_le_one.1 distinct _) h

theorem resolveAll_filter (distinct : (sources.map fun s => s.name.simple).Nodup)
    (placed : Placed (root :: tablesOf sources)) {source : Catalog.Table}
    {list : List (TableId × ForeignKey)}
    (h : resolveAll (root :: tablesOf sources) source = .ok list) {t : Table}
    (ht : t ∈ tablesOf sources) :
    List.Forall₂ (fun k f => resolve (root :: tablesOf sources) t k = .ok f)
      (if source.name.simple = t.name.simple then source.foreignKeys else [])
      ((list.filter fun e => e.1 == t.id).map Prod.snd) := by
  split_ifs with same
  · rw [resolveAll, same, bySimple?_of_mem distinct ht] at h
    have each := mapM_eq_ok_iff.1 h
    have own : ∀ e ∈ list, (e.1 == t.id) = true := by
      intro e he
      obtain ⟨k, -, made⟩ := exists_of_mem_right each he
      obtain ⟨f, -, made⟩ := bind_eq_ok_iff.1 made
      cases made
      exact beq_self_eq_true _
    rw [List.filter_eq_self.2 own, List.forall₂_map_right_iff]
    refine each.imp fun k e made => ?_
    obtain ⟨f, hf, made⟩ := bind_eq_ok_iff.1 made
    cases made
    exact hf
  · have others : ∀ e ∈ list, ¬(e.1 == t.id) = true := by
      intro e he here
      obtain ⟨u, hu, named, owner, -⟩ := resolveAll_eq_ok h e he
      have : u = t := by
        refine placed.eq_of_id (List.mem_of_mem_drop hu) (List.mem_cons_of_mem _ ht) ?_
        rw [← owner]
        exact beq_iff_eq.1 here
      exact same (by rw [← named, this])
    rw [List.filter_eq_nil_iff.2 others]
    exact .nil

theorem resolved_filter (distinct : (sources.map fun s => s.name.simple).Nodup)
    (placed : Placed (root :: tablesOf sources)) {all : List Catalog.Table}
    {lists : List (List (TableId × ForeignKey))}
    (h : all.mapM (resolveAll (root :: tablesOf sources)) = .ok lists) {t : Table}
    (ht : t ∈ tablesOf sources) :
    List.Forall₂ (fun k f => resolve (root :: tablesOf sources) t k = .ok f)
      ((all.filter fun s => s.name.simple == t.name.simple).flatMap Catalog.Table.foreignKeys)
      ((lists.flatten.filter fun e => e.1 == t.id).map Prod.snd) := by
  have each := mapM_eq_ok_iff.1 h
  clear h
  induction each with
  | nil => exact .nil
  | @cons source list all lists first _ ih =>
    have head := resolveAll_filter distinct placed first ht
    have split : ((source :: all).filter fun s => s.name.simple == t.name.simple).flatMap
        Catalog.Table.foreignKeys =
          (if source.name.simple = t.name.simple then source.foreignKeys else []) ++
            (all.filter fun s => s.name.simple == t.name.simple).flatMap
              Catalog.Table.foreignKeys := by
      rw [List.filter_cons]
      simp only [beq_iff_eq]
      split_ifs <;> simp
    rw [split, List.flatten_cons, List.filter_append, List.map_append]
    exact List.rel_append head ih

end Table

namespace Model

/-- No view that is left out lists foreign keys under the simple name of a table of the model. -/
def ViewsApart (options : BrowseOptions) (c : Catalog) : Prop :=
  ∀ v ∈ c.tables, v ∉ includedTables options c → v.foreignKeys ≠ [] →
    ∀ s ∈ includedTables options c, s.name.simple ≠ v.name.simple

variable {options : BrowseOptions} {catalog : Catalog} {m : Model}

theorem viewsApart_of_included (h : includedTables options catalog = catalog.tables) :
    ViewsApart options catalog := by
  intro v hv left
  rw [h] at left
  exact absurd hv left

theorem foreignKeysOf_eq (distinct : ((includedTables options catalog).map fun s =>
      s.name.simple).Nodup) (apart : ViewsApart options catalog) {source : Catalog.Table}
    (hs : source ∈ includedTables options catalog) :
    catalog.foreignKeysOf source.name.simple = source.foreignKeys := by
  have others : ∀ t ∈ catalog.tables.filter fun t => t.name.simple == source.name.simple,
      (!(options.excludeViews && t.isView)) = false → t.foreignKeys = [] := by
    intro t ht out
    obtain ⟨listed, same⟩ := List.mem_filter.1 ht
    have left : t ∉ includedTables options catalog := by
      intro member
      have kept := (List.mem_filter.1 member).2
      rw [out] at kept
      cases kept
    by_contra keys
    exact apart t listed left keys source hs (beq_iff_eq.1 same).symm
  rw [Catalog.foreignKeysOf, ← flatMap_filter_of_nil others, List.filter_comm]
  change ((includedTables options catalog).filter
    fun t => t.name.simple == source.name.simple).flatMap Catalog.Table.foreignKeys = _
  rw [filter_key (List.nodup_iff_count_le_one.1 distinct _) hs, List.flatMap_singleton]

def bareTables (options : BrowseOptions) (catalog : Catalog) : List Table :=
  Table.root :: Table.tablesOf (includedTables options catalog)

/-- A model with the foreign keys that were resolved on the way to it. -/
structure Built (options : BrowseOptions) (catalog : Catalog)
    (lists : List (List (TableId × ForeignKey))) (m : Model) : Prop where
  distinct : ((includedTables options catalog).map fun s => s.name.simple).Nodup
  resolved : catalog.tables.mapM (Table.resolveAll (bareTables options catalog)) = .ok lists
  assembled : Assembled (keyed (bareTables options catalog) lists.flatten) m

theorem built_of_build (h : build options catalog = .ok m) :
    ∃ lists, Built options catalog lists m := by
  obtain ⟨bare, lists, hb, hr, rfl⟩ := build_eq_ok h
  obtain ⟨distinct, rfl⟩ := Table.allOfCatalog_eq_ok_iff.1 hb
  exact ⟨lists, distinct, hr, assembled_keyed hb hr catalog.fingerprint⟩

namespace Built

variable {lists : List (List (TableId × ForeignKey))}

theorem placed (b : Built options catalog lists m) : Table.Placed (bareTables options catalog) :=
  Table.allOfCatalog_placed (Table.allOfCatalog_eq_ok_iff.2 ⟨b.distinct, rfl⟩)

theorem foreignKeys (b : Built options catalog lists m) {t : Table}
    (ht : t ∈ Table.tablesOf (includedTables options catalog)) : ∃ fks,
      (t.withForeignKeys lists.flatten).foreignKeys = fks ++ [t.rootKey] ∧
        List.Forall₂ (fun k f => Table.resolve (bareTables options catalog) t k = .ok f)
          (catalog.foreignKeysOf t.name.simple) fks :=
  ⟨_, rfl, Table.resolved_filter b.distinct b.placed b.resolved ht⟩

theorem exists_resolved (b : Built options catalog lists m) {t : Table}
    (ht : t ∈ Table.tablesOf (includedTables options catalog)) {k : Catalog.ForeignKey}
    (hk : k ∈ catalog.foreignKeysOf t.name.simple) : ∃ f,
      Table.resolve (bareTables options catalog) t k = .ok f ∧
        f ∈ (t.withForeignKeys lists.flatten).foreignKeys := by
  obtain ⟨fks, split, each⟩ := b.foreignKeys ht
  obtain ⟨f, hf, made⟩ := exists_of_mem_right each.flip hk
  rw [split]
  exact ⟨f, made, List.mem_append_left _ hf⟩

theorem table_eq (b : Built options catalog lists m) {i : Nat} {source : Catalog.Table}
    (hs : (includedTables options catalog)[i]? = some source) : ∃ abbreviation t,
      t = Table.ofCatalog (i + 1) source abbreviation ∧
        t ∈ Table.tablesOf (includedTables options catalog) ∧
          (keyed (bareTables options catalog) lists.flatten)[i + 1]? =
            some (t.withForeignKeys lists.flatten) ∧
          m.table (i + 1) = closeUp m.ends (t.withForeignKeys lists.flatten) := by
  obtain ⟨abbreviation, found⟩ := Table.getElem?_tablesOf (includedTables options catalog) i
  rw [hs, Option.map_some] at found
  have kept : (keyed (bareTables options catalog) lists.flatten)[i + 1]? =
      some ((Table.ofCatalog (i + 1) source abbreviation).withForeignKeys lists.flatten) := by
    rw [keyed_getElem?, bareTables, List.getElem?_cons_succ, found]
    rfl
  exact ⟨abbreviation, _, rfl, List.mem_of_getElem? found, kept, b.assembled.table_eq kept⟩

end Built

end Model

end RelationAtlas
