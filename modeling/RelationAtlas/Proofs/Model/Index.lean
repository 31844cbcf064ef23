import Mathlib.Data.List.Induction
import RelationAtlas.Model.Key
import RelationAtlas.Proofs.Lookup
import RelationAtlas.Proofs.Outcome

/-! # The indexes of a table

A table has the indexes of the catalog whose columns it has, the first one of each name. What one
index of the catalog adds is said by `addIndex_cases`; the rest follows for all of them, by
induction on the list. -/

namespace RelationAtlas.Table

variable {columns : List Column} {indexes : List Index} {source : Catalog.Index}

def indexOf (columns : List Column) (source : Catalog.Index) (key : List DirectedColumn) : Index :=
  ⟨⟨source.name, key, false⟩, source.unique, source.primary, unsupportedReason? columns source key⟩

theorem addIndex_cases (columns : List Column) (indexes : List Index) (source : Catalog.Index) :
    (addIndex columns indexes source = indexes ∧
      (keyColumns? columns source = none ∨ ∃ i ∈ indexes, i.name = source.name)) ∨
    ∃ key, keyColumns? columns source = some key ∧ (∀ i ∈ indexes, i.name ≠ source.name) ∧
      addIndex columns indexes source = indexes ++ [indexOf columns source key] := by
  unfold addIndex
  split
  · exact .inl ⟨rfl, .inl ‹_›⟩
  · rename_i key known
    split_ifs with taken
    · exact .inl ⟨rfl, .inr (by simpa using taken)⟩
    · exact .inr ⟨key, known, by simpa using taken, rfl⟩

theorem positions_of_keyColumns? {key : List DirectedColumn}
    (h : keyColumns? columns source = some key) :
    List.Forall₂ (fun name p => positionIn? columns name = some p)
      (source.columns.map Catalog.KeyColumn.name) (key.map DirectedColumn.column) := by
  rw [List.forall₂_map_left_iff, List.forall₂_map_right_iff]
  refine (mapM_eq_some_iff.1 h).imp fun c d found => ?_
  obtain ⟨p, hp, rfl⟩ := Option.map_eq_some_iff.1 found
  exact hp

structure Gathered (columns : List Column) (sources : List Catalog.Index) (indexes : List Index) :
    Prop where
  distinct : (indexes.map Index.name).Nodup
  made : ∀ i ∈ indexes, ∃ s ∈ sources, ∃ key,
    keyColumns? columns s = some key ∧ i = indexOf columns s key
  kept : ∀ s ∈ sources, (keyColumns? columns s).isSome → ∃ i ∈ indexes, i.name = s.name

theorem Gathered.step {sources : List Catalog.Index} (h : Gathered columns sources indexes)
    (source : Catalog.Index) :
    Gathered columns (sources ++ [source]) (addIndex columns indexes source) := by
  rcases addIndex_cases columns indexes source with ⟨same, skipped⟩ | ⟨key, known, new, added⟩
  · rw [same]
    refine ⟨h.distinct, ?_, ?_⟩
    · intro i hi
      obtain ⟨s, hs, made⟩ := h.made i hi
      exact ⟨s, List.mem_append_left _ hs, made⟩
    · intro s hs known
      rcases List.mem_append.1 hs with hs | hs
      · exact h.kept s hs known
      · rw [List.mem_singleton] at hs
        subst hs
        rcases skipped with unknown | taken
        · rw [unknown] at known
          cases known
        · exact taken
  · rw [added]
    refine ⟨?_, ?_, ?_⟩
    · rw [List.map_append, List.nodup_append]
      refine ⟨h.distinct, List.nodup_singleton _, ?_⟩
      intro n hn n' hn'
      obtain ⟨i, hi, rfl⟩ := List.mem_map.1 hn
      rw [List.map_singleton, List.mem_singleton] at hn'
      rw [hn']
      exact new i hi
    · intro i hi
      rcases List.mem_append.1 hi with hi | hi
      · obtain ⟨s, hs, made⟩ := h.made i hi
        exact ⟨s, List.mem_append_left _ hs, made⟩
      · exact ⟨source, by simp, key, known, List.mem_singleton.1 hi⟩
    · intro s hs known
      rcases List.mem_append.1 hs with hs | hs
      · obtain ⟨i, hi, named⟩ := h.kept s hs known
        exact ⟨i, List.mem_append_left _ hi, named⟩
      · rw [List.mem_singleton] at hs
        subst hs
        exact ⟨_, List.mem_append_right _ (List.mem_singleton_self _), rfl⟩

theorem gathered_foldl (columns : List Column) (sources : List Catalog.Index) :
    Gathered columns sources (sources.foldl (addIndex columns) []) := by
  induction sources using List.reverseRecOn with
  | nil => exact ⟨List.nodup_nil, nofun, nofun⟩
  | append_singleton sources s ih =>
    rw [List.foldl_append]
    exact ih.step s

theorem containsKey_map (indexes : List Index) (flag : Index → Bool) (positions : List Nat) :
    containsKey (indexes.map fun i => { i with tuple.containsKey := flag i }) positions =
      containsKey indexes positions := by
  rw [containsKey, containsKey, List.any_map]
  rfl

/-- Each index of a table has a name of its own, and its flag says whether it contains a key. -/
structure Indexed (t : Table) : Prop where
  distinct : (t.indexes.map Index.name).Nodup
  flagged : ∀ i ∈ t.indexes, i.tuple.containsKey = containsKey t.indexes i.tuple.positions

theorem Indexed.index?_eq {t : Table} (h : t.Indexed) {i : Index} (hi : i ∈ t.indexes) :
    t.index? i.name = some i :=
  find?_key (List.nodup_iff_count_le_one.1 h.distinct _) hi

theorem indexed_root : root.Indexed := by
  refine ⟨by simp [root], ?_⟩
  intro i hi
  rw [root, List.mem_singleton] at hi
  subst hi
  decide

theorem mem_indexesOf {source : Catalog.Table} {i : Index} (h : i ∈ indexesOf columns source) :
    ∃ s ∈ source.indexes, i.name = s.name ∧ i.unique = s.unique ∧
      keyColumns? columns s = some i.tuple.columns := by
  obtain ⟨j, hj, rfl⟩ := List.mem_map.1 h
  obtain ⟨s, hs, key, known, rfl⟩ := (gathered_foldl columns source.indexes).made j hj
  exact ⟨s, hs, rfl, rfl, known⟩

theorem exists_mem_indexesOf {source : Catalog.Table} {s : Catalog.Index}
    (hs : s ∈ source.indexes) (known : (keyColumns? columns s).isSome) :
    ∃ i ∈ indexesOf columns source, i.name = s.name := by
  obtain ⟨i, hi, named⟩ := (gathered_foldl columns source.indexes).kept s hs known
  exact ⟨_, List.mem_map_of_mem hi, named⟩

theorem indexed_ofCatalog (id : TableId) (source : Catalog.Table) (abbreviation : String) :
    (ofCatalog id source abbreviation).Indexed := by
  have gathered := gathered_foldl (columnsOf source) source.indexes
  refine ⟨?_, ?_⟩
  · change ((indexesOf (columnsOf source) source).map Index.name).Nodup
    rw [indexesOf, List.map_map]
    exact gathered.distinct
  · intro i hi
    obtain ⟨j, hj, rfl⟩ := List.mem_map.1 hi
    exact (containsKey_map _ _ _).symm

end RelationAtlas.Table
