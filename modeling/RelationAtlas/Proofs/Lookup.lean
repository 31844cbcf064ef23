import Mathlib.Data.List.Count
import Mathlib.Data.List.NodupEquivFin

/-! # Lookup by a key

A member of a list whose key no other member has is found by it, from either end. -/

namespace RelationAtlas

variable {α κ : Type} [BEq κ] [LawfulBEq κ] {key : α → κ} {xs : List α} {x : α}

theorem filter_key (once : (xs.map key).count (key x) ≤ 1) (member : x ∈ xs) :
    xs.filter (fun y => key y == key x) = [x] := by
  rw [List.count, List.countP_map, List.countP_eq_length_filter] at once
  change (xs.filter fun y => key y == key x).length ≤ 1 at once
  have kept : x ∈ xs.filter fun y => key y == key x :=
    List.mem_filter.2 ⟨member, beq_self_eq_true _⟩
  cases found : xs.filter fun y => key y == key x with
  | nil =>
    rw [found] at kept
    cases kept
  | cons y rest =>
    rw [found, List.length_cons] at once
    obtain rfl : rest = [] := List.eq_nil_of_length_eq_zero (by omega)
    rw [found, List.mem_singleton] at kept
    rw [kept]

theorem find?_key (once : (xs.map key).count (key x) ≤ 1) (member : x ∈ xs) :
    xs.find? (fun y => key y == key x) = some x := by
  rw [← List.head?_filter, filter_key once member]
  rfl

theorem findRev?_key (once : (xs.map key).count (key x) ≤ 1) (member : x ∈ xs) :
    xs.findRev? (fun y => key y == key x) = some x := by
  rw [List.findRev?_eq_find?_reverse]
  refine find?_key ?_ (List.mem_reverse.2 member)
  rwa [List.map_reverse, List.count_reverse]

theorem mem_of_findRev? {p : α → Bool} (h : xs.findRev? p = some x) : x ∈ xs := by
  rw [List.findRev?_eq_find?_reverse] at h
  exact List.mem_reverse.1 (List.mem_of_find?_eq_some h)

theorem flatMap_filter_of_nil {β : Type} {f : α → List β} {p : α → Bool}
    (h : ∀ x ∈ xs, p x = false → f x = []) : (xs.filter p).flatMap f = xs.flatMap f := by
  induction xs with
  | nil => rfl
  | cons x xs ih =>
    obtain ⟨first, later⟩ := List.forall_mem_cons.1 h
    rw [List.filter_cons, List.flatMap_cons, ← ih later]
    cases hx : p x with
    | true => rfl
    | false => simp [first hx]

theorem nil_of_flatMap_filter {β : Type} {f : α → List β} {p : α → Bool}
    (all : ((xs.filter p).flatMap f).length = (xs.flatMap f).length) (member : x ∈ xs)
    (out : p x = false) : f x = [] := by
  have parts := ((List.filter_append_perm p xs).flatMap_right f).length_eq
  rw [List.flatMap_append, List.length_append, all] at parts
  have none : (xs.filter fun x => !p x).flatMap f = [] :=
    List.eq_nil_of_length_eq_zero (Nat.add_eq_left.1 parts)
  exact List.flatMap_eq_nil_iff.1 none x (List.mem_filter.2 ⟨member, by simp [out]⟩)

theorem count_flatMap_key {β : Type} [BEq β] [LawfulBEq β] {f : α → List β} {y : β}
    (once : (xs.map key).count (key x) ≤ 1) (member : x ∈ xs)
    (others : ∀ z ∈ xs, key z ≠ key x → y ∉ f z) : (xs.flatMap f).count y = (f x).count y := by
  have nothing : ∀ z ∈ xs, (key z == key x) = false → (f z).filter (· == y) = [] := by
    intro z hz ne
    rw [List.filter_eq_nil_iff]
    intro w hw same
    rw [beq_iff_eq] at same
    exact others z hz (by simpa using ne) (same ▸ hw)
  rw [List.count_eq_length_filter, List.count_eq_length_filter, List.filter_flatMap,
    ← flatMap_filter_of_nil nothing, filter_key once member, List.flatMap_singleton]

theorem index_unique {ks : List κ} {k : κ} (once : ks.count k ≤ 1) {i j : Nat}
    (hi : ks[i]? = some k) (hj : ks[j]? = some k) : i = j := by
  obtain ⟨at_i, hi⟩ := List.getElem?_eq_some_iff.1 hi
  obtain ⟨at_j, hj⟩ := List.getElem?_eq_some_iff.1 hj
  have single : ¬ks.Duplicate k := by
    rw [List.duplicate_iff_sublist]
    change ¬(List.replicate 2 k).Sublist ks
    rw [List.replicate_sublist_iff]
    omega
  rw [List.duplicate_iff_exists_distinct_get] at single
  rcases Nat.lt_trichotomy i j with less | same | more
  · exact absurd ⟨⟨i, at_i⟩, ⟨j, at_j⟩, less, hi.symm, hj.symm⟩ single
  · exact same
  · exact absurd ⟨⟨j, at_j⟩, ⟨i, at_i⟩, more, hj.symm, hi.symm⟩ single

end RelationAtlas
