import Mathlib.Data.String.Basic
import Mathlib.Order.WithBot
import RelationAtlas.Proofs.Query.Truth

/-! # Seek positions

The conditions of a seek position are true of the rows that stand at the position or after it in
the order of the extent, NULL before all values. In descending order, where NULL comes last, they
miss the rows that follow a value only by being NULL: no comparison with a value is true of NULL. -/

namespace RelationAtlas.Query

variable {V : Type}

/-- The place of a value among all values. NULL comes first. -/
def rank : Option V → WithBot V
  | none => ⊥
  | some v => v

section Positions

variable [LinearOrder V]

def AtOrAfter (direction : Direction) (position cell : Option V) : Prop :=
  if direction = .descending then rank cell ≤ rank position else rank position ≤ rank cell

/-- Rows have to equal the value at a place: it is a bound key, or not the last value. -/
def Fixed (hop : Hop) (i : Nat) : Prop := i < hop.keyCount ∨ i + 1 ≠ hop.values.length

structure Sought (r : Reading V) (tableAlias : String) (hop : Hop) : Prop where
  fixed : ∀ (i : Nat) text o, hop.values[i]? = some text → hop.order[i]? = some o → Fixed hop i →
    r.cell ⟨tableAlias, o.name⟩ = r.given ⟨tableAlias, o.name⟩ text
  last : ∀ (i : Nat) text o, hop.values[i]? = some text → hop.order[i]? = some o → ¬Fixed hop i →
    AtOrAfter o.direction (r.given ⟨tableAlias, o.name⟩ text) (r.cell ⟨tableAlias, o.name⟩)

/-- A row that has NULL where a value is given to begin at in descending order. -/
def Overlooked (r : Reading V) (tableAlias : String) (hop : Hop) : Prop :=
  ∃ (i : Nat) (text : String) (o : OrderColumn), hop.values[i]? = some (some text) ∧
    hop.order[i]? = some o ∧ ¬Fixed hop i ∧ o.direction = .descending ∧
      r.cell ⟨tableAlias, o.name⟩ = none

variable {r : Reading V} {tableAlias : String}

theorem satisfies_atOrAfter {c : ColumnRef} {direction : Direction} {text : Option String} :
    r.Satisfies (atOrAfter c direction text) ↔ AtOrAfter direction (r.given c text) (r.cell c) ∧
      ¬(direction = .descending ∧ text.isSome ∧ r.cell c = none) := by
  rw [Reading.satisfies_iff, AtOrAfter]
  cases text with
  | none =>
    by_cases d : direction = .descending
    · cases h : r.cell c <;> simp [atOrAfter, Reading.truth, Reading.given, rank, d, h]
    · simp [atOrAfter, Reading.given, rank, d]
  | some text =>
    by_cases d : direction = .descending
    · cases h : r.cell c <;>
        simp [atOrAfter, Reading.truth, Truth.compare, Reading.given, rank, d, h]
    · cases h : r.cell c <;>
        simp [atOrAfter, Reading.truth, Truth.compare, Reading.given, rank, d, h]

def Asked (r : Reading V) (tableAlias : String) (fixed : Prop) (p : Option String × OrderColumn) :
    Prop :=
  (fixed → r.cell ⟨tableAlias, p.2.name⟩ = r.given ⟨tableAlias, p.2.name⟩ p.1) ∧
    (¬fixed → r.Satisfies (atOrAfter ⟨tableAlias, p.2.name⟩ p.2.direction p.1))

theorem asked_iff_of_fixed {fixed : Prop} (h : fixed) {p : Option String × OrderColumn} :
    Asked r tableAlias fixed p ↔
      r.cell ⟨tableAlias, p.2.name⟩ = r.given ⟨tableAlias, p.2.name⟩ p.1 := by
  simp [Asked, h]

theorem asked_iff_of_free {fixed : Prop} (h : ¬fixed) {p : Option String × OrderColumn} :
    Asked r tableAlias fixed p ↔
      r.Satisfies (atOrAfter ⟨tableAlias, p.2.name⟩ p.2.direction p.1) := by
  simp [Asked, h]

theorem forall_getElem?_cons {α : Type} {x : α} {xs : List α} {P : Nat → α → Prop} :
    (∀ i y, (x :: xs)[i]? = some y → P i y) ↔ P 0 x ∧ ∀ i y, xs[i]? = some y → P (i + 1) y := by
  constructor
  · intro h
    exact ⟨h 0 x rfl, fun i y hy => h (i + 1) y (by simpa using hy)⟩
  · rintro ⟨first, later⟩ i y hy
    cases i with
    | zero =>
      cases hy
      exact first
    | succ i => exact later i y (by simpa using hy)

theorem satisfies_seekConditions (keys : Nat) (position : List (Option String × OrderColumn)) :
    r.Satisfies (seekConditions tableAlias keys position) ↔ ∀ (i : Nat) p, position[i]? = some p →
      Asked r tableAlias (i < keys ∨ i + 1 ≠ position.length) p := by
  induction position generalizing keys with
  | nil => simp [seekConditions, Reading.satisfies_iff]
  | cons first rest ih =>
    obtain ⟨text, o⟩ := first
    rw [seekConditions, forall_getElem?_cons]
    split_ifs with free
    · -- the last value, and no key
      obtain ⟨rfl, last⟩ := free
      obtain rfl := List.isEmpty_iff.1 last
      rw [asked_iff_of_free (by simp)]
      simp
    · have fixed : 0 < keys ∨ 0 + 1 ≠ ((text, o) :: rest).length := by
        rw [List.isEmpty_iff_length_eq_zero] at free
        rw [List.length_cons]
        omega
      rw [asked_iff_of_fixed fixed, Reading.satisfies_iff, List.forall_mem_cons,
        Reading.truth_equality, ← Reading.satisfies_iff, ih]
      refine and_congr_right fun _ => forall_congr' fun i => forall_congr' fun p => ?_
      have same : (i + 1 < keys ∨ i + 1 + 1 ≠ ((text, o) :: rest).length) ↔
          (i < keys - 1 ∨ i + 1 ≠ rest.length) := by
        rw [List.length_cons]
        omega
      rw [same]

/-- The conditions of a seek position are true of the rows at or after it, but for those that they
overlook. -/
theorem seek_satisfies_iff (r : Reading V) (tableAlias : String) (hop : Hop)
    (aligned : hop.values.length ≤ hop.order.length) :
    r.Satisfies (seekConditions tableAlias hop.keyCount (hop.values.zip hop.order)) ↔
      Sought r tableAlias hop ∧ ¬Overlooked r tableAlias hop := by
  have length : (hop.values.zip hop.order).length = hop.values.length := by
    rw [List.length_zip, min_eq_left aligned]
  rw [satisfies_seekConditions, length]
  constructor
  · intro h
    have at_place : ∀ (i : Nat) text o, hop.values[i]? = some text → hop.order[i]? = some o →
        Asked r tableAlias (Fixed hop i) (text, o) := fun i text o ht ho =>
      h i (text, o) (List.getElem?_zip_eq_some.2 ⟨ht, ho⟩)
    refine ⟨⟨?_, ?_⟩, ?_⟩
    · intro i text o ht ho fixed
      exact (at_place i text o ht ho).1 fixed
    · intro i text o ht ho free
      exact (satisfies_atOrAfter.1 ((at_place i text o ht ho).2 free)).1
    · rintro ⟨i, text, o, ht, ho, free, descending, null⟩
      exact (satisfies_atOrAfter.1 ((at_place i _ o ht ho).2 free)).2 ⟨descending, rfl, null⟩
  · rintro ⟨sought, seen⟩ i ⟨text, o⟩ h
    obtain ⟨ht, ho⟩ := List.getElem?_zip_eq_some.1 h
    refine ⟨sought.fixed i text o ht ho, fun free => satisfies_atOrAfter.2 ⟨?_, ?_⟩⟩
    · exact sought.last i text o ht ho free
    · rintro ⟨descending, given, null⟩
      obtain ⟨text, rfl⟩ := Option.isSome_iff_exists.1 given
      exact seen ⟨i, text, o, ht, ho, free, descending, null⟩

end Positions

def backwardsSeek : Hop where
  relation := some "customer"
  flavor := ⟨.table, 0⟩
  order := [⟨"name", .descending⟩]
  values := [some "m"]

def rowOf (name : Option String) : Reading String :=
  ⟨fun _ => name, fun _ text => text, fun _ _ => false⟩

def nullRow : Reading String := rowOf none

theorem sought_backwards {name : Option String} (place : rank name ≤ rank (some "m")) :
    Sought (rowOf name) "c" backwardsSeek := by
  have only : ∀ {i : Nat} {text}, backwardsSeek.values[i]? = some text →
      i = 0 ∧ text = some "m" := by
    intro i text ht
    cases i with
    | zero => exact ⟨rfl, (Option.some.inj ht).symm⟩
    | succ i => cases ht
  refine ⟨fun i text o ht ho fixed => ?_, fun i text o ht ho free => ?_⟩
  · obtain ⟨rfl, -⟩ := only ht
    rcases fixed with key | more
    · cases key
    · exact absurd rfl more
  · obtain ⟨rfl, rfl⟩ := only ht
    cases ho
    exact place

theorem seek_satisfies_iff_backwards : backwardsSeek.values.length ≤ backwardsSeek.order.length ∧
    (rowOf (some "k")).Satisfies (seekConditions "c" backwardsSeek.keyCount
      (backwardsSeek.values.zip backwardsSeek.order)) ∧
    ¬nullRow.Satisfies (seekConditions "c" backwardsSeek.keyCount
      (backwardsSeek.values.zip backwardsSeek.order)) := by
  have aligned : backwardsSeek.values.length ≤ backwardsSeek.order.length := by decide
  refine ⟨aligned, (seek_satisfies_iff _ "c" backwardsSeek aligned).2 ⟨?_, ?_⟩, fun found => ?_⟩
  · exact sought_backwards (WithBot.coe_le_coe.2 (by decide))
  · rintro ⟨i, text, o, -, -, -, -, null⟩
    cases null
  · refine ((seek_satisfies_iff nullRow "c" backwardsSeek aligned).1 found).2 ?_
    exact ⟨0, "m", _, rfl, rfl, by rw [Fixed]; decide, rfl, rfl⟩

/-- A row without a name comes after `m` in descending order, and yet it is not found. -/
theorem backwards_seek_misses_null : Sought nullRow "c" backwardsSeek ∧
    ¬nullRow.Satisfies (seekConditions "c" backwardsSeek.keyCount
      (backwardsSeek.values.zip backwardsSeek.order)) :=
  ⟨sought_backwards bot_le, by decide⟩

end RelationAtlas.Query
