import RelationAtlas.Model.Key
import RelationAtlas.Proofs.Outcome

/-! # Keys refer to columns that are there

What the first steps of building a model guarantee: tables stand at their positions, the columns of
an index are columns of its table, and a resolved foreign key pairs columns of its own table with
those of an index of the referenced table. -/

namespace RelationAtlas.Table

theorem positionIn?_spec {columns : List Column} {name : String} {p : Nat}
    (h : positionIn? columns name = some p) : ∃ c, columns[p]? = some c ∧ c.name = name := by
  obtain ⟨⟨c, q⟩, found, rfl⟩ := Option.map_eq_some_iff.1 h
  rw [List.findRev?_eq_find?_reverse] at found
  have named : c.name = name := by simpa using List.find?_some found
  have member := List.mem_reverse.1 (List.mem_of_find?_eq_some found)
  exact ⟨c, (List.mem_zipIdx_iff_getElem?.1 member), named⟩

theorem positionIn?_lt {columns : List Column} {name : String} {p : Nat}
    (h : positionIn? columns name = some p) : p < columns.length := by
  obtain ⟨c, at_p, -⟩ := positionIn?_spec h
  exact (List.getElem?_eq_some_iff.1 at_p).1

theorem keyColumns?_lt {columns : List Column} {source : Catalog.Index}
    {key : List DirectedColumn} (h : keyColumns? columns source = some key) :
    ∀ c ∈ key, c.column < columns.length := by
  intro c hc
  obtain ⟨k, -, found⟩ := exists_of_mem_right (mapM_eq_some_iff.1 h) hc
  obtain ⟨p, at_p, rfl⟩ := Option.map_eq_some_iff.1 found
  exact positionIn?_lt at_p

def IndexesWithin (columns : List Column) (indexes : List Index) : Prop :=
  ∀ i ∈ indexes, ∀ p ∈ i.tuple.positions, p < columns.length

theorem addIndex_within {columns : List Column} {indexes : List Index} (source : Catalog.Index)
    (h : IndexesWithin columns indexes) :
    IndexesWithin columns (addIndex columns indexes source) := by
  unfold addIndex
  split
  · exact h
  · rename_i key found
    split
    · exact h
    · intro i hi p hp
      rcases List.mem_append.1 hi with hi | hi
      · exact h i hi p hp
      · rw [List.mem_singleton] at hi
        subst hi
        obtain ⟨c, hc, rfl⟩ := List.mem_map.1 hp
        exact keyColumns?_lt found c hc

theorem indexesOf_within (columns : List Column) (source : Catalog.Table) :
    IndexesWithin columns (indexesOf columns source) := by
  have run : ∀ (sources : List Catalog.Index) (indexes : List Index),
      IndexesWithin columns indexes →
        IndexesWithin columns (sources.foldl (addIndex columns) indexes) := by
    intro sources
    induction sources with
    | nil => exact fun _ h => h
    | cons s sources ih => exact fun _ h => ih _ (addIndex_within s h)
  intro i hi p hp
  obtain ⟨j, hj, rfl⟩ := List.mem_map.1 hi
  exact run source.indexes [] (fun _ none => nomatch none) j hj p hp

theorem columnsOf_plain (source : Catalog.Table) : ∀ c ∈ columnsOf source, c.namesRows = false := by
  intro c hc
  obtain ⟨⟨d, i⟩, -, made⟩ := List.mem_filterMap.1 hc
  obtain ⟨type, -, rfl⟩ := Option.map_eq_some_iff.1 made
  rfl

/-- A table at the position of its id, with indexes over its own columns only, of which none is
flagged yet. -/
structure StandsAt (t : Table) (i : Nat) : Prop where
  id : t.id = i
  within : IndexesWithin t.columns t.indexes
  plain : ∀ c ∈ t.columns, c.namesRows = false

theorem allOfCatalog_eq_ok {sources : List Catalog.Table} {bare : List Table}
    (h : allOfCatalog sources = .ok bare) : ∃ rest : List Table, bare = root :: rest ∧
      ∀ (i : Nat) t, rest[i]? = some t → t.StandsAt (i + 1) := by
  unfold allOfCatalog at h
  split at h
  · cases h
  · cases h
    refine ⟨_, rfl, ?_⟩
    intro i t found
    simp only [List.getElem?_map, List.getElem?_zipIdx, Option.map_map,
      Option.map_eq_some_iff] at found
    obtain ⟨⟨source, abbreviation⟩, -, rfl⟩ := found
    exact ⟨congrArg Nat.succ (Nat.zero_add i), indexesOf_within _ _, columnsOf_plain source⟩

def Placed (tables : List Table) : Prop :=
  ∀ (i : Nat) (t : Table), tables[i]? = some t → t.StandsAt i

theorem allOfCatalog_placed {sources : List Catalog.Table} {bare : List Table}
    (h : allOfCatalog sources = .ok bare) : Placed bare := by
  obtain ⟨rest, rfl, placed⟩ := allOfCatalog_eq_ok h
  intro i t found
  cases i with
  | zero =>
    cases found
    refine ⟨rfl, ?_, nofun⟩
    intro i hi p hp
    rw [root, List.mem_singleton] at hi
    subst hi
    cases hp
  | succ i => exact placed i t (by simpa using found)

theorem Placed.get_of_mem {tables : List Table} (placed : Placed tables) {t : Table}
    (h : t ∈ tables) : tables[t.id]? = some t := by
  obtain ⟨i, found⟩ := List.mem_iff_getElem?.1 h
  rw [(placed i t found).id, found]

theorem Placed.eq_of_id {tables : List Table} (placed : Placed tables) {s t : Table}
    (hs : s ∈ tables) (ht : t ∈ tables) (same : s.id = t.id) : s = t := by
  have := placed.get_of_mem hs
  rw [same, placed.get_of_mem ht] at this
  exact (Option.some.inj this).symm

theorem bySimple?_mem {tables : List Table} {simple : String} {t : Table}
    (h : bySimple? tables simple = some t) : t ∈ tables.drop 1 ∧ t.name.simple = simple :=
  ⟨List.mem_of_find?_eq_some h, by simpa using List.find?_some h⟩

theorem requirePosition_eq_ok {t : Table} {name : String} {p : Nat}
    (h : t.requirePosition name = .ok p) : t.position? name = some p := by
  unfold requirePosition at h
  split at h
  · rename_i q found
    cases h
    exact found
  · cases h

theorem principalKey_eq_ok {tables : List Table} {source : Catalog.ForeignKey}
    {key : PrincipalKey} (h : principalKey tables source = .ok key) :
    ∃ t ∈ tables.drop 1, ∃ i ∈ t.indexes,
      t.name.simple = source.referencedTable.simple ∧ i.unique = true ∧
        i.name = source.referencedKey ∧ key = ⟨t.id, i.name, i.tuple.positions⟩ := by
  unfold principalKey at h
  split at h
  · rename_i k found
    cases h
    obtain ⟨t, ht, found⟩ := Option.bind_eq_some_iff.1 found
    obtain ⟨i, hi, rfl⟩ := Option.map_eq_some_iff.1 found
    obtain ⟨member, named⟩ := bySimple?_mem ht
    obtain ⟨indexed, unique⟩ := List.mem_filter.1 (List.mem_of_find?_eq_some hi)
    exact ⟨t, member, i, indexed, named, unique, by simpa using List.find?_some hi, rfl⟩
  · cases h

theorem foreignKeyOf_positions (t : Table) (name : String) (positions : List Nat)
    (principal : PrincipalKey) :
    (t.foreignKeyOf name positions principal).tuple.positions = positions := by
  simp [foreignKeyOf, ColumnTuple.positions, Function.comp_def]

theorem resolve_eq_ok {tables : List Table} {t : Table} {source : Catalog.ForeignKey}
    {k : ForeignKey} (h : resolve tables t source = .ok k) : ∃ positions principal,
      List.Forall₂ (fun name p => t.position? name = some p) source.columns positions ∧
        principalKey tables source = .ok principal ∧
          principal.columns.length = positions.length ∧
            k = t.foreignKeyOf source.name positions principal := by
  unfold resolve at h
  obtain ⟨positions, hp, h⟩ := bind_eq_ok_iff.1 h
  obtain ⟨principal, hk, h⟩ := bind_eq_ok_iff.1 h
  split at h
  · cases h
  · rename_i arity
    cases h
    exact ⟨positions, principal, (mapM_eq_ok_iff.1 hp).imp fun _ _ => requirePosition_eq_ok,
      hk, not_not.1 arity, rfl⟩

theorem name_of_resolve {tables : List Table} {t : Table} {source : Catalog.ForeignKey}
    {k : ForeignKey} (h : resolve tables t source = .ok k) : k.name = source.name := by
  obtain ⟨positions, principal, -, -, -, rfl⟩ := resolve_eq_ok h
  rfl

structure Joins (tables : List Table) (t : Table) (k : ForeignKey) : Prop where
  own : ∀ p ∈ k.tuple.positions, p < t.columns.length
  arity : k.principal.columns.length = k.tuple.positions.length
  referenced : ∃ r, tables[k.principal.table]? = some r ∧
    ∀ p ∈ k.principal.columns, p < r.columns.length

theorem resolve_joins {tables : List Table} (placed : Placed tables) {t : Table}
    {source : Catalog.ForeignKey} {k : ForeignKey} (h : resolve tables t source = .ok k) :
    Joins tables t k := by
  obtain ⟨positions, principal, found, key, arity, rfl⟩ := resolve_eq_ok h
  obtain ⟨r, hr, i, hi, -, -, -, rfl⟩ := principalKey_eq_ok key
  have at_r := placed.get_of_mem (List.mem_of_mem_drop hr)
  refine ⟨?_, ?_, r, at_r, ?_⟩
  · intro p hp
    rw [foreignKeyOf_positions] at hp
    obtain ⟨name, -, at_p⟩ := exists_of_mem_right found hp
    exact positionIn?_lt at_p
  · rw [foreignKeyOf_positions]
    exact arity
  · exact (placed r.id r at_r).2 i hi

theorem resolveAll_eq_ok {tables : List Table} {source : Catalog.Table}
    {resolved : List (TableId × ForeignKey)} (h : resolveAll tables source = .ok resolved) :
    ∀ e ∈ resolved, ∃ t ∈ tables.drop 1, t.name.simple = source.name.simple ∧ e.1 = t.id ∧
      ∃ k ∈ source.foreignKeys, resolve tables t k = .ok e.2 := by
  intro e he
  unfold resolveAll at h
  split at h
  · cases h
    cases he
  · rename_i t found
    obtain ⟨member, named⟩ := bySimple?_mem found
    obtain ⟨k, hk, made⟩ := exists_of_mem_right (mapM_eq_ok_iff.1 h) he
    obtain ⟨r, hr, made⟩ := bind_eq_ok_iff.1 made
    cases made
    exact ⟨t, member, named, rfl, k, hk, hr⟩

end RelationAtlas.Table
