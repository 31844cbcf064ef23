import RelationAtlas.Proofs.Model.ForeignKeys
import RelationAtlas.Proofs.Model.RootRelations
import RelationAtlas.Proofs.ObjectName.Parse

/-! # The root reaches each table once

The relations of the root are made first, one for each table in turn. So an end of the root stands
at twice the position of its table, and there is no other one. A table is found by its simple name,
which no other table has, and by its escaped name, which is the simple name of no table, since it
begins with a bracket. -/

namespace RelationAtlas

namespace ObjectName

theorem bracket_not_mem_simple (n : ObjectName) : '[' ∉ n.simple.toList := by
  intro opening
  rw [toList_simple] at opening
  rcases Text.mem_of_mem_intercalate opening with dot | ⟨piece, listed, inside⟩
  · exact absurd (List.mem_singleton.1 dot) (by decide)
  · rw [List.map_map] at listed
    obtain ⟨part, hp, rfl⟩ := List.mem_map.1 listed
    have real : n.isRoot = false := by
      rw [isRoot, List.isEmpty_eq_false_iff]
      exact List.ne_nil_of_mem hp
    have within : '[' ∈ part.toList := by
      obtain ⟨c, hc, same⟩ := List.mem_flatMap.1 inside
      split at same
      · simp at same
      · rwa [List.mem_singleton.1 same]
    exact absurd (not_reserved_of_partFault? (partFault?_eq_none real hp) within) (by decide)

theorem simple_ne_identity {n : ObjectName} (real : n.isRoot = false) (other : ObjectName) :
    other.simple ≠ n.identity := by
  intro same
  have absent := bracket_not_mem_simple other
  rw [same, toList_identity real] at absent
  exact absent List.mem_cons_self

end ObjectName

namespace Model

open Table (tablesOf)

structure ReachedOnce (m : Model) (t : TableId) (e : EndId) : Prop where
  inside : e < m.ends.length
  leads : (m.otherEnd e).table = t
  named : (m.relationEnd e).name = some (m.table t).name.simple
  kept : m.rootTable.relations.get? (m.table t).name.simple = some e
  only : ∀ i ∈ m.rootTable.relations.values, (m.otherEnd i).table = t → i = e
  returned : m.rootRelationTo t = .ok (m.relationEnd e)
  grouped : ∀ ids, (t, ids) ∈ m.relationsByTarget rootId ↔ ids = [e]

variable {options : BrowseOptions} {catalog : Catalog} {m : Model}
  {lists : List (List (TableId × ForeignKey))}

namespace Built

theorem exists_table (b : Built options catalog lists m) {t : TableId} (real : t ≠ rootId)
    (inside : t < m.tables.length) :
    ∃ u ∈ tablesOf (includedTables options catalog), u.id = t := by
  obtain ⟨k, rfl⟩ := Nat.exists_eq_succ_of_ne_zero real
  rw [b.assembled.tables_length] at inside
  have at_k := List.getElem?_eq_getElem inside
  rw [keyed_getElem?] at at_k
  obtain ⟨u, hu, -⟩ := Option.map_eq_some_iff.1 at_k
  exact ⟨u, List.mem_of_getElem? hu, (b.placed _ u hu).1⟩

theorem ne_root_of_foreignKeySpec {t : Table}
    (ht : t ∈ tablesOf (includedTables options catalog)) {k : Catalog.ForeignKey} {f : ForeignKey}
    (made : Table.resolve (bareTables options catalog) t k = .ok f) :
    (foreignKeySpec t f).principal.table ≠ rootId ∧
      (foreignKeySpec t f).dependent.table ≠ rootId := by
  obtain ⟨r, hr, i, -, -, -, -, reference⟩ := index_of_resolve made
  refine ⟨?_, id_ne_zero ht⟩
  rw [foreignKeySpec, reference]
  exact id_ne_zero hr

theorem rootEnd_eq (b : Built options catalog lists m) {e : EndId} (inside : e < m.ends.length)
    (own : (m.relationEnd e).table = rootId) : e + 2 = 2 * (m.otherEnd e).table := by
  obtain ⟨k, s, at_k, side⟩ := b.assembled.spec_of_lt inside
  obtain ⟨-, -, principal, -, dependent⟩ := b.assembled.pair at_k
  cases early : (tablesOf (includedTables options catalog))[k]? with
  | some u =>
    obtain rfl := Option.some.inj (at_k.symm.trans (getElem?_specs early))
    rcases side with rfl | rfl
    · have placed : u.id = k + 1 := (b.placed (k + 1) u early).1
      rw [otherEnd, principal.other, dependent.table]
      change 2 * k + 2 = 2 * u.id
      rw [placed, Nat.mul_add]
    · rw [dependent.table] at own
      exact absurd own (id_ne_zero (t := u) (List.mem_of_getElem? early))
  | none =>
    rw [specs, List.getElem?_append_right] at at_k
    · obtain ⟨t, ht, k, -, f, made, -, -, rfl⟩ :=
        b.foreignKeySpec_cases (List.mem_of_getElem? at_k)
      obtain ⟨notPrincipal, notDependent⟩ := ne_root_of_foreignKeySpec ht made
      rcases side with rfl | rfl
      · exact absurd (principal.table.symm.trans own) notPrincipal
      · exact absurd (dependent.table.symm.trans own) notDependent
    · rw [drop_keyed, List.length_map, List.length_map]
      exact List.getElem?_eq_none_iff.1 early

theorem tableBySimple?_eq (b : Built options catalog lists m) {u : Table}
    (hu : u ∈ tablesOf (includedTables options catalog)) :
    m.tableBySimple? u.name.simple = some (m.table u.id) := by
  rw [tableBySimple?, b.tables_eq, b.table_of_mem hu]
  refine find?_key (x := closeUp m.ends (u.withForeignKeys lists.flatten)) ?_
    (List.mem_map_of_mem hu)
  have distinct := b.distinct
  rw [← Table.map_simple_tablesOf] at distinct
  rw [List.map_map]
  exact List.nodup_iff_count_le_one.1 distinct _

theorem reachedOnce (b : Built options catalog lists m) {t : TableId} {e : EndId}
    (inside : e < m.ends.length) (own : (m.relationEnd e).table = rootId)
    (named : (m.relationEnd e).name = some (m.table t).name.simple)
    (leads : (m.otherEnd e).table = t) : m.ReachedOnce t e := by
  have kept : m.rootTable.relations.get? (m.table t).name.simple = some e :=
    (b.assembled.get?_relations b.rootId_lt _ e).2 ⟨inside, own, named⟩
  have only : ∀ i ∈ m.rootTable.relations.values, (m.otherEnd i).table = t → i = e := by
    intro i hi same
    obtain ⟨inside', own', -⟩ := (b.assembled.mem_values b.rootId_lt).1 hi
    have second := b.rootEnd_eq inside' own'
    rw [same, ← leads, ← b.rootEnd_eq inside own] at second
    exact Nat.add_right_cancel second
  have group : m.relationsTo rootId t = [e] := by
    have listed : e ∈ m.rootTable.relations.values :=
      (b.assembled.mem_values b.rootId_lt).2 ⟨inside, own, by simp [named]⟩
    have nodup : (m.relationsTo rootId t).Nodup :=
      (b.assembled.values_nodup b.rootId_lt).filter _
    rw [← List.perm_singleton, List.perm_ext_iff_of_nodup nodup (List.nodup_singleton e)]
    intro i
    rw [relationsTo, List.mem_filter, beq_iff_eq, List.mem_singleton]
    constructor
    · rintro ⟨hi, same⟩
      exact only i hi same
    · rintro rfl
      exact ⟨listed, leads⟩
  refine ⟨inside, leads, named, kept, only, relation_of_get? kept, fun ids => ?_⟩
  rw [b.assembled.mem_relationsByTarget b.rootId_lt, group]
  exact ⟨And.right, fun same => ⟨same ▸ List.cons_ne_nil e [], same⟩⟩

theorem findTable?_eq (b : Built options catalog lists m) {u : Table}
    (hu : u ∈ tablesOf (includedTables options catalog)) (real : u.name.isRoot = false) :
    m.findTable? u.name.simple = some (m.table u.id) ∧
      m.findTable? u.name.identity = some (m.table u.id) := by
  have found := b.tableBySimple?_eq hu
  refine ⟨by rw [findTable?, found], ?_⟩
  have absent : m.tableBySimple? u.name.identity = none := by
    refine List.find?_eq_none.2 fun t _ => ?_
    simpa using ObjectName.simple_ne_identity real t.name
  rw [findTable?, absent, ObjectName.parse_identity real]
  exact found

end Built

/-- The root reaches every table of the catalog by one relation and nothing else, no end with a name
leads back to the root, and a table with a name is found by each form of it. -/
theorem root_reaches (h : build options catalog = .ok m) :
    (∀ t < m.tables.length, t ≠ rootId → ∃ e, m.ReachedOnce t e) ∧
    (∀ e ∈ m.rootTable.relations.values,
      ∃ t < m.tables.length, t ≠ rootId ∧ m.ReachedOnce t e) ∧
    (∀ e < m.ends.length, (m.relationEnd e).name.isSome → (m.otherEnd e).table ≠ rootId) ∧
    ∀ t < m.tables.length, t ≠ rootId → (m.table t).name.isRoot = false →
      m.findTable? (m.table t).name.simple = some (m.table t) ∧
        ∃ text, (m.table t).name.escaped = .ok text ∧ m.findTable? text = some (m.table t) := by
  obtain ⟨lists, b, rootEnd⟩ := exists_rootEnd h
  have reached : ∀ t < m.tables.length, t ≠ rootId → ∃ e, m.ReachedOnce t e := by
    intro t inside real
    obtain ⟨u, hu, rfl⟩ := b.exists_table real inside
    obtain ⟨e, within, own, named, leads⟩ := rootEnd u hu
    refine ⟨e, b.reachedOnce within own ?_ leads⟩
    rw [b.table_of_mem hu]
    exact named
  have forward : ∀ e < m.ends.length, (m.relationEnd e).name.isSome →
      (m.otherEnd e).table ≠ rootId := by
    intro e inside named
    obtain ⟨t, ht, leads, -⟩ := b.exists_target inside named
    rw [leads]
    exact id_ne_zero ht
  refine ⟨reached, fun e listed => ?_, forward, fun t inside real named => ?_⟩
  · obtain ⟨within, -, named⟩ := (b.assembled.mem_values b.rootId_lt).1 listed
    have target := b.assembled.table_lt (b.assembled.other_lt within)
    have real := forward e within named
    obtain ⟨e', once⟩ := reached _ target real
    obtain rfl := once.only e listed rfl
    exact ⟨_, target, real, once⟩
  · obtain ⟨u, hu, rfl⟩ := b.exists_table real inside
    have own := b.table_of_mem hu
    have name : (m.table u.id).name = u.name := by rw [own]; rfl
    rw [name] at named ⊢
    obtain ⟨simple, escaped⟩ := b.findTable?_eq hu named
    exact ⟨simple, _, ObjectName.escaped_of_not_root named, escaped⟩

theorem root_reaches_staff : (∃ e, staffModel.ReachedOnce 3 e) ∧
    staffModel.rootTable.relations.names = ["dbo.person", "hr.review", "ops.review"] ∧
      staffModel.findTable? "[ops].[review]" = some (staffModel.table 3) := by
  obtain ⟨reached, -, -, lookups⟩ := root_reaches build_staff
  have inside : 3 < staffModel.tables.length := by decide +kernel
  obtain ⟨-, text, escaped, found⟩ := lookups 3 inside (by decide) (by decide +kernel)
  have bracketed : (staffModel.table 3).name.escaped.toOption = some "[ops].[review]" := by
    decide +kernel
  rw [escaped] at bracketed
  refine ⟨reached 3 inside (by decide), by decide +kernel, ?_⟩
  rw [← Option.some.inj bracketed, found]

end Model

end RelationAtlas
