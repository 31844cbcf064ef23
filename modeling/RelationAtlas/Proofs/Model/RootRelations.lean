import RelationAtlas.Proofs.Model.Anchors

/-! # Relations of the root

The relations of the root to the tables are made before all others, and the simple names of the
tables are distinct. So each of them is kept under the simple name of its table. Every end with a
name leads to a table of the catalog, and none to the root. -/

namespace RelationAtlas.Model

open Table (tablesOf)

section Run

variable {tables : List Table} {ends : List RelationEnd}

theorem foldl_addRelation_append (tables : List Table) (relations : List RelationSpec)
    (ends : List RelationEnd) :
    ∃ more, relations.foldl (addRelation tables) ends = ends ++ more := by
  induction relations generalizing ends with
  | nil => exact ⟨[], (List.append_nil _).symm⟩
  | cons s relations ih =>
    obtain ⟨p, d, added, -⟩ := addRelation_eq tables ends s
    obtain ⟨more, rest⟩ := ih (ends ++ [p, d])
    exact ⟨[p, d] ++ more, by rw [List.foldl_cons, added, rest, List.append_assoc]⟩

theorem addEnd_named (tables : List Table) (ends : List RelationEnd) (s : EndSpec)
    (principal : Bool) (partner : TableId) (other : EndId) : ∃ e,
      addEnd tables ends s principal partner other = ends ++ [e] ∧ e.table = s.table ∧
        e.name = s.name.map (freeName tables ends s.table partner) :=
  ⟨_, rfl, rfl, rfl⟩

theorem addRelation_rootSpec {t : Table} (real : t.id ≠ 0)
    (free : t.name.simple ∉ takenNames ends 0) :
    ∃ p d, addRelation tables ends (rootSpec t) = ends ++ [p, d] ∧
      p.name = some t.name.simple ∧
        takenNames (ends ++ [p, d]) 0 = takenNames ends 0 ++ [t.name.simple] := by
  obtain ⟨p, hp, owner, named⟩ :=
    addEnd_named tables ends (rootSpec t).principal true t.id (ends.length + 1)
  obtain ⟨d, hd, partner, -⟩ :=
    addEnd_named tables (ends ++ [p]) (rootSpec t).dependent false 0 ends.length
  change p.table = 0 at owner
  change d.table = t.id at partner
  have kept : p.name = some t.name.simple := by
    rw [named]
    refine congrArg some ?_
    rw [freeName]
    exact if_neg (by simpa [rootSpec] using free)
  have both : ends ++ [p, d] = (ends ++ [p]) ++ [d] := by simp
  refine ⟨p, d, ?_, kept, ?_⟩
  · rw [both, ← hd, ← hp]
    rfl
  · rw [both, takenNames_append, takenNames_append, if_pos owner,
      if_neg (partner ▸ real), kept, List.append_nil]
    rfl

structure Rooted (ts : List Table) (ends : List RelationEnd) : Prop where
  length : ends.length = 2 * ts.length
  taken : takenNames ends 0 = ts.map fun t => t.name.simple
  named : ∀ (k : Nat) t, ts[k]? = some t →
    ∃ p, ends[2 * k]? = some p ∧ p.name = some t.name.simple

theorem Rooted.step {ts : List Table} (h : Rooted ts ends) {t : Table} (real : t.id ≠ 0)
    (new : t.name.simple ∉ ts.map fun t => t.name.simple) :
    Rooted (ts ++ [t]) (addRelation tables ends (rootSpec t)) := by
  obtain ⟨p, d, added, named, taken⟩ := addRelation_rootSpec real (h.taken ▸ new)
  rw [added]
  refine ⟨by simp [h.length]; omega, by rw [taken, h.taken]; simp, ?_⟩
  intro k u hu
  by_cases last : k = ts.length
  · subst last
    obtain rfl : t = u := by simpa using hu
    exact ⟨p, by simp [← h.length], named⟩
  · have early : k < ts.length := by
      have := (List.getElem?_eq_some_iff.1 hu).1
      simp only [List.length_append, List.length_singleton] at this
      omega
    rw [List.getElem?_append_left early] at hu
    obtain ⟨q, hq, own⟩ := h.named k u hu
    exact ⟨q, by rwa [List.getElem?_append_left (by rw [h.length]; omega)], own⟩

theorem rooted_foldl (tables ts : List Table) (real : ∀ t ∈ ts, t.id ≠ 0)
    (distinct : (ts.map fun t => t.name.simple).Nodup) :
    Rooted ts ((ts.map rootSpec).foldl (addRelation tables) []) := by
  induction ts using List.reverseRecOn with
  | nil => exact ⟨rfl, rfl, by simp⟩
  | append_singleton ts t ih =>
    rw [List.map_append, List.nodup_append] at distinct
    obtain ⟨before, -, apart⟩ := distinct
    rw [List.map_append, List.foldl_append]
    refine (ih (fun u hu => real u (List.mem_append_left _ hu)) before).step
      (real t (by simp)) fun again => ?_
    exact apart _ again _ (by simp) rfl

end Run

variable {options : BrowseOptions} {catalog : Catalog} {m : Model}
  {lists : List (List (TableId × ForeignKey))}

theorem ends_of_build (h : build options catalog = .ok m) : ∃ lists,
    Built options catalog lists m ∧ m.ends =
      (specs (keyed (bareTables options catalog) lists.flatten)).foldl
        (addRelation (keyed (bareTables options catalog) lists.flatten)) [] := by
  obtain ⟨bare, lists, hb, hr, rfl⟩ := build_eq_ok h
  obtain ⟨distinct, rfl⟩ := Table.allOfCatalog_eq_ok_iff.1 hb
  exact ⟨lists, ⟨distinct, hr, assembled_keyed hb hr catalog.fingerprint⟩, rfl⟩

theorem id_ne_zero {t : Table} (ht : t ∈ tablesOf (includedTables options catalog)) :
    t.id ≠ 0 := by
  obtain ⟨i, s, abbreviation, -, rfl⟩ := Table.mem_tablesOf ht
  exact Nat.succ_ne_zero i

theorem rooted_of_build (h : build options catalog = .ok m) : ∃ lists,
    Built options catalog lists m ∧ ∀ (k : Nat) t,
      (tablesOf (includedTables options catalog))[k]? = some t →
        ∃ p, m.ends[2 * k]? = some p ∧ p.name = some t.name.simple := by
  obtain ⟨lists, b, ends⟩ := ends_of_build h
  refine ⟨lists, b, fun k t at_k => ?_⟩
  let ts := (tablesOf (includedTables options catalog)).map fun t =>
    t.withForeignKeys lists.flatten
  have real : ∀ u ∈ ts, u.id ≠ 0 := by
    intro u hu
    obtain ⟨v, hv, rfl⟩ := List.mem_map.1 hu
    exact id_ne_zero (t := v) hv
  have distinct : (ts.map fun t => t.name.simple).Nodup := by
    have distinct := b.distinct
    rw [← Table.map_simple_tablesOf] at distinct
    rw [List.map_map]
    exact distinct
  have at_k : ts[k]? = some (t.withForeignKeys lists.flatten) := by
    rw [List.getElem?_map, at_k]
    rfl
  obtain ⟨p, at_p, named⟩ := (rooted_foldl _ ts real distinct).named k _ at_k
  obtain ⟨more, split⟩ := foldl_addRelation_append
    (keyed (bareTables options catalog) lists.flatten) _ ((ts.map rootSpec).foldl _ [])
  refine ⟨p, ?_, named⟩
  rw [ends, specs, List.foldl_append]
  change (List.foldl _ ((ts.map rootSpec).foldl _ []) _)[2 * k]? = some p
  rw [split, List.getElem?_append_left (List.getElem?_eq_some_iff.1 at_p).1]
  exact at_p

theorem getElem?_specs {k : Nat} {t : Table}
    (at_k : (tablesOf (includedTables options catalog))[k]? = some t) :
    (specs (keyed (bareTables options catalog) lists.flatten))[k]? =
      some (rootSpec (t.withForeignKeys lists.flatten)) := by
  have listed : (((keyed (bareTables options catalog) lists.flatten).drop 1).map rootSpec)[k]? =
      some (rootSpec (t.withForeignKeys lists.flatten)) := by
    change (((tablesOf (includedTables options catalog)).map fun t =>
      t.withForeignKeys lists.flatten).map rootSpec)[k]? = _
    rw [List.getElem?_map, List.getElem?_map, at_k]
    rfl
  rw [specs, List.getElem?_append_left (List.getElem?_eq_some_iff.1 listed).1, listed]

theorem exists_rootEnd (h : build options catalog = .ok m) : ∃ lists,
    Built options catalog lists m ∧ ∀ t ∈ tablesOf (includedTables options catalog),
      ∃ e < m.ends.length, (m.relationEnd e).table = rootId ∧
        (m.relationEnd e).name = some t.name.simple ∧ (m.otherEnd e).table = t.id := by
  obtain ⟨lists, b, rooted⟩ := rooted_of_build h
  refine ⟨lists, b, fun t ht => ?_⟩
  obtain ⟨k, at_k⟩ := List.mem_iff_getElem?.1 ht
  obtain ⟨p, at_p, named⟩ := rooted k t at_k
  obtain ⟨inside, -, principal, -, dependent⟩ := b.assembled.pair (getElem?_specs at_k)
  refine ⟨2 * k, by omega, principal.table, ?_, ?_⟩
  · rw [relationEnd_eq at_p, named]
  · rw [otherEnd, principal.other, dependent.table]
    rfl

namespace Built

theorem tables_eq (b : Built options catalog lists m) : m.tables.drop 1 =
    (tablesOf (includedTables options catalog)).map fun t =>
      closeUp m.ends (t.withForeignKeys lists.flatten) := by
  rw [b.assembled.finished, ← List.map_drop, drop_keyed, List.map_map]
  rfl

theorem rootId_lt (b : Built options catalog lists m) : rootId < m.tables.length := by
  rw [rootId, b.assembled.finished, List.length_map]
  exact Nat.succ_pos _

theorem exists_target (b : Built options catalog lists m) {e : EndId} (inside : e < m.ends.length)
    (named : (m.relationEnd e).name.isSome) :
    ∃ t ∈ tablesOf (includedTables options catalog), (m.otherEnd e).table = t.id ∧
      m.target e = closeUp m.ends (t.withForeignKeys lists.flatten) := by
  have reached : ∃ t ∈ tablesOf (includedTables options catalog), (m.otherEnd e).table = t.id := by
    obtain ⟨k, s, at_k, side⟩ := b.assembled.spec_of_lt inside
    obtain ⟨-, -, principal, -, dependent⟩ := b.assembled.pair at_k
    obtain ⟨t, ht, kind⟩ := b.spec_cases (List.mem_of_getElem? at_k)
    rcases side with rfl | rfl
    · refine ⟨t, ht, ?_⟩
      rw [otherEnd, principal.other, dependent.table]
      rcases kind with rfl | ⟨k, -, f, -, -, -, rfl⟩ <;> rfl
    · rcases kind with rfl | ⟨k, -, f, made, -, -, rfl⟩
      · rw [dependent.named] at named
        cases named
      · obtain ⟨r, hr, i, -, -, -, -, reference⟩ := index_of_resolve made
        refine ⟨r, hr, ?_⟩
        rw [otherEnd, dependent.other, principal.table, foreignKeySpec, reference]
  obtain ⟨t, ht, leads⟩ := reached
  exact ⟨t, ht, leads, by
    rw [target, leads]
    exact b.assembled.table_eq (b.getElem?_keyed ht)⟩

end Built

end RelationAtlas.Model
