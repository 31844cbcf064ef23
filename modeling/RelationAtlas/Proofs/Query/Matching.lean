import Mathlib.Data.List.Infix
import RelationAtlas.Proofs.Model.RelationGraph
import RelationAtlas.Proofs.Query.Compiled
import RelationAtlas.Proofs.Query.Seek

/-! # The matching flag

The flag of a row is 1 if the row equals all given values, NULL among them. A row marked in this way
stands at the seek position itself, so the conditions of the position are true of it as well. The
converse holds if all given values are keys: then the position asks for equality only. -/

namespace RelationAtlas.Query

variable {V : Type} {r : Reading V} {tableAlias : String}

def Meets (r : Reading V) (tableAlias : String) (p : Option String × OrderColumn) : Prop :=
  r.cell ⟨tableAlias, p.2.name⟩ = r.given ⟨tableAlias, p.2.name⟩ p.1

def Marked (r : Reading V) (tableAlias : String) (hop : Hop) : Prop :=
  ∀ (i : Nat) text, hop.values[i]? = some text →
    ∃ o, hop.order[i]? = some o ∧ Meets r tableAlias (text, o)

theorem marked_iff {hop : Hop} (aligned : hop.values.length ≤ hop.order.length) :
    Marked r tableAlias hop ↔ ∀ p ∈ hop.values.zip hop.order, Meets r tableAlias p := by
  constructor
  · rintro h ⟨text, o⟩ hp
    obtain ⟨i, at_i⟩ := List.mem_iff_getElem?.1 hp
    obtain ⟨ht, ho⟩ := List.getElem?_zip_eq_some.1 at_i
    obtain ⟨o', ho', meets⟩ := h i text ht
    rw [ho] at ho'
    cases ho'
    exact meets
  · intro h i text ht
    have inside : i < hop.order.length := by
      have := (List.getElem?_eq_some_iff.1 ht).1
      omega
    have ho := List.getElem?_eq_getElem inside
    refine ⟨_, ho, h _ (List.mem_of_getElem? (i := i) ?_)⟩
    exact List.getElem?_zip_eq_some.2 ⟨ht, ho⟩

variable [LinearOrder V]

/-- What `case when .. then 1 else 0 end` gives for a row: conditions that are unknown count as
those that are false. -/
def Reading.flag (r : Reading V) (cs : List Condition) : Nat := if r.Satisfies cs then 1 else 0

theorem Reading.flag_eq_one_iff {cs : List Condition} : r.flag cs = 1 ↔ r.Satisfies cs := by
  rw [flag]
  split_ifs with h <;> simp [h]

theorem satisfies_matchConditions {position : List (Option String × OrderColumn)} :
    r.Satisfies (matchConditions tableAlias position) ↔ ∀ p ∈ position, Meets r tableAlias p := by
  rw [Reading.satisfies_iff, matchConditions, List.forall_mem_map]
  apply forall₂_congr
  intro p _
  exact Reading.truth_equality

theorem atOrAfter_self (direction : Direction) (v : Option V) : AtOrAfter direction v v := by
  rw [AtOrAfter]
  split_ifs <;> exact le_rfl

/-- A row with the given value is neither before it nor, where NULL is overlooked, NULL. -/
theorem satisfies_atOrAfter_of_meets {p : Option String × OrderColumn} (h : Meets r tableAlias p) :
    r.Satisfies (atOrAfter ⟨tableAlias, p.2.name⟩ p.2.direction p.1) := by
  rw [satisfies_atOrAfter, h]
  refine ⟨atOrAfter_self _ _, ?_⟩
  rintro ⟨-, given, null⟩
  rw [Reading.given, Option.map_eq_none_iff] at null
  rw [null] at given
  cases given

theorem satisfies_seekConditions_of_meets (keys : Nat)
    {position : List (Option String × OrderColumn)} (h : ∀ p ∈ position, Meets r tableAlias p) :
    r.Satisfies (seekConditions tableAlias keys position) := by
  rw [satisfies_seekConditions]
  intro i p at_i
  have meets := h p (List.mem_of_getElem? at_i)
  exact ⟨fun _ => meets, fun _ => satisfies_atOrAfter_of_meets meets⟩

theorem meets_of_keys {keys : Nat} {position : List (Option String × OrderColumn)}
    (bound : position.length ≤ keys) (h : r.Satisfies (seekConditions tableAlias keys position)) :
    ∀ p ∈ position, Meets r tableAlias p := by
  rw [satisfies_seekConditions] at h
  intro p hp
  obtain ⟨i, hi, rfl⟩ := List.getElem_of_mem hp
  have fixed : i < keys ∨ i + 1 ≠ position.length := by omega
  exact (asked_iff_of_fixed fixed).1 (h i _ (List.getElem?_eq_getElem hi))

theorem matchConditions_ne_nil {hop : Hop} (aligned : hop.values.length ≤ hop.order.length)
    (given : hop.values ≠ []) : matchConditions tableAlias (hop.values.zip hop.order) ≠ [] := by
  intro none
  have length := congrArg List.length none
  rw [matchConditions, List.length_map, List.length_zip, min_eq_left aligned] at length
  exact given (List.eq_nil_of_length_eq_zero length)

theorem flagTokens_mem_firstItems {s : Selection} (conditions : s.matching ≠ []) :
    flagTokens s.matching ∈ s.firstItems := by
  rw [Selection.firstItems, if_neg (by rwa [List.isEmpty_iff])]
  exact List.mem_append_right _ List.mem_cons_self

/-- The query of every extent with filter values selects a flag, which is 1 for the rows that have
all given values, and the conditions of the position are true of these rows. If all values are keys,
they are true of no other rows. -/
theorem flag_coherent {m : Model} {parent : TableId} {parentAlias : Option String} {hop : Hop}
    {children : List Extent} {q : Subquery}
    (compiled : compile m parent parentAlias tableAlias ⟨hop, children⟩ = .ok q)
    (given : hop.values ≠ []) (r : Reading V) :
    let position := seekConditions tableAlias hop.keyCount (hop.values.zip hop.order)
    flagTokens q.matching ∈ q.firstItems ∧ position.map Predicate.condition <:+: q.predicates ∧
      (r.flag q.matching = 1 ↔ Marked r tableAlias hop) ∧
        (r.flag q.matching = 1 → r.Satisfies position) ∧
          (hop.values.length ≤ hop.keyCount → r.Satisfies position → r.flag q.matching = 1) := by
  obtain ⟨e, columns, names, subqueries, -, selected, -, -, rfl⟩ := compile_eq_ok compiled
  have aligned := selectedColumns_eq_ok selected
  have marks : r.flag (matchConditions tableAlias (hop.values.zip hop.order)) = 1 ↔
      ∀ p ∈ hop.values.zip hop.order, Meets r tableAlias p :=
    Reading.flag_eq_one_iff.trans satisfies_matchConditions
  refine ⟨flagTokens_mem_firstItems (matchConditions_ne_nil aligned given), ?_,
    marks.trans (marked_iff aligned).symm, ?_, ?_⟩
  · rw [selection, predicates, List.map_append]
    exact List.infix_append _ _ _
  · intro marked
    exact satisfies_seekConditions_of_meets _ (marks.1 marked)
  · intro keys sought
    apply marks.2
    apply meets_of_keys _ sought
    rw [List.length_zip]
    omega

def bossless : Hop where
  relation := some "dbo.person"
  flavor := ⟨.table, 0⟩
  columns := ["name"]
  order := [⟨"boss_id", .ascending⟩, ⟨"id", .descending⟩]
  values := [none, some "7"]

def person7 : Reading String :=
  ⟨fun c => if c.column = "id" then some "7" else none, fun _ text => text, fun _ _ => false⟩

theorem flag_coherent_bossless : ∃ q,
    compile Model.staffModel Model.rootId none "p" ⟨bossless, []⟩ = .ok q ∧
      bossless.values ≠ [] ∧ person7.flag q.matching = 1 ∧
        person7.Satisfies (seekConditions "p" bossless.keyCount
          (bossless.values.zip bossless.order)) := by
  have succeeds : (compile Model.staffModel Model.rootId none "p" ⟨bossless, []⟩).isOk = true := by
    decide +kernel
  obtain ⟨q, compiled⟩ := exists_ok_of_isOk succeeds
  have given : bossless.values ≠ [] := by decide
  obtain ⟨-, -, marks, sought, -⟩ := flag_coherent compiled given person7
  have marked : person7.flag q.matching = 1 := by
    rw [marks, marked_iff (by decide)]
    simp [bossless, Meets, person7, Reading.given]
  exact ⟨q, compiled, given, marked, sought marked⟩

end RelationAtlas.Query
