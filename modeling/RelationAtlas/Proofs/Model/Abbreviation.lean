import Mathlib.Data.List.Perm.Basic
import Mathlib.Tactic.SplitIfs
import RelationAtlas.Model.Abbreviation
import RelationAtlas.Proofs.Text.Basic

/-! # Abbreviations are unique and depend on the names only

What a name claims differs up to case from all that is claimed before, since one of the numbered
initials is free. The names claim in ascending order. So the abbreviations are handed out along a
list that is the same for all orders of the names, and each name gets the one that was handed out
for it. -/

namespace RelationAtlas.Abbreviation

open Text

def numberedInitials (name : String) (n : Nat) : String := (suggestions name).1 ++ toString (n + 2)

inductive Candidate (name : String) : String → Prop
  | initials : Candidate name (suggestions name).1
  | letters {s : String} (later : s ∈ (suggestions name).2) : Candidate name s
  | numbered (n : Nat) : Candidate name (numberedInitials name n)

theorem initials_ne_empty (name : String) : (suggestions name).1 ≠ "" := by
  change initials (words name) ≠ ""
  rw [initials]
  split_ifs with none
  · decide
  · intro empty
    exact none (by simpa using empty)

theorem Candidate.ne_empty {name s : String} (h : Candidate name s) : s ≠ "" := by
  cases h with
  | initials => exact initials_ne_empty name
  | letters later =>
    intro empty
    subst empty
    rw [suggestions] at later
    split at later
    · cases later
    · rw [List.mem_append, List.mem_map, List.mem_map] at later
      obtain ⟨c, -, empty⟩ | ⟨c, -, empty⟩ := later
      all_goals
        have pair := congrArg String.toList empty
        simp [lower_ne_nil] at pair
  | numbered n =>
    intro empty
    exact initials_ne_empty name (String.append_eq_empty_iff.1 empty).1

theorem toLower_numberedInitials_injective (name : String) :
    Function.Injective fun n => toLower (numberedInitials name n) := by
  intro i j same
  simp only [numberedInitials, toLower_append_toString] at same
  have counters := toString_injective ((String.append_right_inj _).1 same)
  omega

/-- The search for a counter ends. -/
theorem exists_numberedInitials_free (claimed : List String) (name : String) :
    ∃ n ∈ List.range (claimed.length + 1), toLower (numberedInitials name n) ∉ claimed :=
  exists_free (toLower_numberedInitials_injective name) claimed

theorem choose_spec (claimed : List String) (name : String) :
    Candidate name (choose claimed name) ∧ toLower (choose claimed name) ∉ claimed := by
  rw [choose]
  split
  · rename_i s found
    refine ⟨?_, by simpa using List.find?_some found⟩
    rcases List.mem_cons.1 (List.mem_of_find?_eq_some found) with rfl | later
    · exact .initials
    · exact .letters later
  · refine ⟨.numbered _, ?_⟩
    obtain ⟨n, inside, free⟩ := exists_numberedInitials_free claimed name
    cases found : (List.range (claimed.length + 1)).find? fun n =>
        !claimed.contains (toLower (numberedInitials name n)) with
    | none =>
      have taken := List.find?_eq_none.1 found n inside
      simp [free] at taken
    | some k =>
      have chosen := List.find?_some found
      change toLower (numberedInitials name ((List.find? (fun n =>
        !claimed.contains (toLower (numberedInitials name n))) _).getD 0)) ∉ claimed
      rw [found]
      simpa using chosen

def choices (claimed : List String) : List String → List String
  | [] => []
  | name :: rest => choose claimed name :: choices (toLower (choose claimed name) :: claimed) rest

section Choices

variable {claimed names : List String}

theorem length_choices (claimed names : List String) :
    (choices claimed names).length = names.length := by
  induction names generalizing claimed with
  | nil => rfl
  | cons name rest ih => rw [choices, List.length_cons, List.length_cons, ih]

theorem candidate_of_mem_zip {p : String × String} (h : p ∈ names.zip (choices claimed names)) :
    Candidate p.1 p.2 := by
  induction names generalizing claimed with
  | nil => cases h
  | cons name rest ih =>
    rw [choices, List.zip_cons_cons, List.mem_cons] at h
    rcases h with rfl | later
    · exact (choose_spec claimed name).1
    · exact ih later

theorem choices_distinct (claimed names : List String) :
    ((choices claimed names).map toLower).Nodup ∧
      ∀ s ∈ (choices claimed names).map toLower, s ∉ claimed := by
  induction names generalizing claimed with
  | nil => exact ⟨List.nodup_nil, nofun⟩
  | cons name rest ih =>
    obtain ⟨distinct, apart⟩ := ih (toLower (choose claimed name) :: claimed)
    rw [choices, List.map_cons]
    refine ⟨List.nodup_cons.2 ⟨fun again => apart _ again List.mem_cons_self, distinct⟩, ?_⟩
    refine List.forall_mem_cons.2 ⟨(choose_spec claimed name).2, fun s hs old => ?_⟩
    exact apart s hs (List.mem_cons_of_mem _ old)

theorem map_lookup_claimAll {ι : Type} [BEq ι] [LawfulBEq ι] {claimants : List (String × ι)}
    (marks : (claimants.map Prod.snd).Nodup) (claimed : List String) :
    (claimants.map fun p => (p.1, ((claimAll claimed claimants).lookup p.2).getD "")) =
      (claimants.map Prod.fst).zip (choices claimed (claimants.map Prod.fst)) := by
  induction claimants generalizing claimed with
  | nil => rfl
  | cons p rest ih =>
    obtain ⟨name, i⟩ := p
    obtain ⟨new, marks⟩ := List.nodup_cons.1 marks
    rw [List.map_cons, List.map_cons, choices, List.zip_cons_cons, ← ih marks]
    refine List.cons_eq_cons.2 ⟨by simp [claimAll], List.map_congr_left fun q hq => ?_⟩
    have other : (q.2 == i) = false := beq_eq_false_iff_ne.2 fun same =>
      new (List.mem_map.2 ⟨q, hq, same⟩)
    simp [claimAll, List.lookup_cons, other]

end Choices

section Order

def claimants (names : List String) : List (String × Nat) :=
  names.zipIdx.mergeSort fun a b => decide (a.1 < b.1) || (a.1 == b.1 && a.2 ≤ b.2)

theorem claimants_perm (names : List String) : (claimants names).Perm names.zipIdx :=
  List.mergeSort_perm _ _

theorem claimants_ascending (names : List String) :
    ((claimants names).map Prod.fst).Pairwise (· ≤ ·) := by
  let before : String × Nat → String × Nat → Bool :=
    fun a b => decide (a.1 < b.1) || (a.1 == b.1 && a.2 ≤ b.2)
  have before_iff : ∀ a b, before a b = true ↔ a.1 < b.1 ∨ a.1 = b.1 ∧ a.2 ≤ b.2 := by
    simp [before]
  have transitive : ∀ a b c, before a b = true → before b c = true → before a c = true := by
    intro a b c hab hbc
    rw [before_iff] at hab hbc ⊢
    rcases hab with hab | ⟨same, le⟩ <;> rcases hbc with hbc | ⟨same', le'⟩
    · exact .inl (String.lt_trans hab hbc)
    · exact .inl (same' ▸ hab)
    · exact .inl (same ▸ hbc)
    · exact .inr ⟨same.trans same', le.trans le'⟩
  have total : ∀ a b, (before a b || before b a) = true := by
    intro a b
    rw [Bool.or_eq_true, before_iff, before_iff]
    by_cases less : a.1 < b.1
    · exact .inl (.inl less)
    by_cases more : b.1 < a.1
    · exact .inr (.inl more)
    have same : a.1 = b.1 := String.le_antisymm (String.not_lt.1 more) (String.not_lt.1 less)
    exact (Nat.le_total a.2 b.2).imp (fun le => .inr ⟨same, le⟩) fun le => .inr ⟨same.symm, le⟩
  refine List.pairwise_map.2 ((List.pairwise_mergeSort transitive total names.zipIdx).imp ?_)
  intro a b hab
  rcases (before_iff a b).1 hab with less | ⟨same, -⟩
  · exact String.not_lt.1 fun more => String.lt_irrefl _ (String.lt_trans less more)
  · exact String.not_lt.1 fun more => String.lt_irrefl _ (same ▸ more)

theorem map_fst_claimants_eq {names others : List String} (same : others.Perm names) :
    (claimants others).map Prod.fst = (claimants names).map Prod.fst := by
  have listed : ∀ names : List String, ((claimants names).map Prod.fst).Perm names := by
    intro names
    have perm := (claimants_perm names).map Prod.fst
    rwa [List.zipIdx_map_fst] at perm
  refine List.Perm.eq_of_pairwise ?_ (claimants_ascending others) (claimants_ascending names)
    (((listed others).trans same).trans (listed names).symm)
  intro a b _ _ le ge
  exact String.le_antisymm le ge

end Order

theorem zip_abbreviate_eq (names : List String) : names.zip (abbreviate names) =
    names.zipIdx.map fun p => (p.1, ((claimAll [] (claimants names)).lookup p.2).getD "") := by
  rw [List.zipIdx_eq_zip_range', ← List.range_eq_range']
  exact List.zip_map_right

theorem zip_abbreviate_perm (names : List String) : (names.zip (abbreviate names)).Perm
    (((claimants names).map Prod.fst).zip (choices [] ((claimants names).map Prod.fst))) := by
  have marks : ((claimants names).map Prod.snd).Nodup := by
    have perm := (claimants_perm names).map Prod.snd
    rw [List.zipIdx_map_snd] at perm
    exact perm.nodup_iff.2 List.nodup_range'
  rw [zip_abbreviate_eq, ← map_lookup_claimAll marks]
  exact ((claimants_perm names).map _).symm

theorem length_abbreviate (names : List String) : (abbreviate names).length = names.length := by
  simp [abbreviate]

theorem map_snd_zip_abbreviate (names : List String) :
    (names.zip (abbreviate names)).map Prod.snd = abbreviate names :=
  List.map_snd_zip (length_abbreviate names).le

theorem map_fst_zip_abbreviate (names : List String) :
    (names.zip (abbreviate names)).map Prod.fst = names :=
  List.map_fst_zip (length_abbreviate names).ge

theorem zip_abbreviate_perm_of_perm {names others : List String} (same : others.Perm names) :
    (others.zip (abbreviate others)).Perm (names.zip (abbreviate names)) := by
  have claims := zip_abbreviate_perm others
  rw [map_fst_claimants_eq same] at claims
  exact claims.trans (zip_abbreviate_perm names).symm

theorem abbreviate_getElem?_eq {names others : List String} (same : others.Perm names)
    (distinct : names.Nodup) {i j : Nat} (here : others[i]? = names[j]?) :
    (abbreviate others)[i]? = (abbreviate names)[j]? := by
  cases at_j : names[j]? with
  | none =>
    rw [at_j] at here
    rw [List.getElem?_eq_none_iff] at here at_j
    rw [List.getElem?_eq_none (by rwa [length_abbreviate]),
      List.getElem?_eq_none (by rwa [length_abbreviate])]
  | some name =>
    rw [at_j] at here
    have abbreviated : ∀ {ns : List String} {k : Nat}, ns[k]? = some name → ∃ s,
        (abbreviate ns)[k]? = some s ∧ (name, s) ∈ ns.zip (abbreviate ns) := by
      intro ns k at_k
      have inside := (List.getElem?_eq_some_iff.1 at_k).1
      rw [← length_abbreviate] at inside
      have at_s := List.getElem?_eq_getElem inside
      exact ⟨_, at_s, List.mem_of_getElem? (List.getElem?_zip_eq_some.2 ⟨at_k, at_s⟩)⟩
    obtain ⟨s, at_i, hs⟩ := abbreviated here
    obtain ⟨s', at_j', hs'⟩ := abbreviated at_j
    have nodup : ((names.zip (abbreviate names)).map Prod.fst).Nodup := by
      rwa [map_fst_zip_abbreviate]
    have one := List.inj_on_of_nodup_map nodup
      ((zip_abbreviate_perm_of_perm same).mem_iff.1 hs) hs' rfl
    rw [at_i, at_j', (Prod.mk.inj one).2]

/-- Every name gets an abbreviation of its own, up to case, and all the same whatever the order of
the names. A counter that makes the initials free is always found. -/
theorem abbreviate_stable (names : List String) :
    (abbreviate names).length = names.length ∧
    (∀ p ∈ names.zip (abbreviate names), Candidate p.1 p.2 ∧ p.2 ≠ "") ∧
    ((abbreviate names).map toLower).Nodup ∧
    (∀ others : List String, others.Perm names →
      (others.zip (abbreviate others)).Perm (names.zip (abbreviate names)) ∧
        (names.Nodup → ∀ i j : Nat, others[i]? = names[j]? →
          (abbreviate others)[i]? = (abbreviate names)[j]?)) ∧
    ∀ (claimed : List String) (name : String),
      ∃ n ≤ claimed.length, toLower (numberedInitials name n) ∉ claimed := by
  have claims := zip_abbreviate_perm names
  refine ⟨length_abbreviate names, fun p hp => ?_, ?_, fun others same => ?_, ?_⟩
  · have candidate := candidate_of_mem_zip (claims.mem_iff.1 hp)
    exact ⟨candidate, candidate.ne_empty⟩
  · have lowered := (claims.map Prod.snd).map toLower
    rw [map_snd_zip_abbreviate, List.map_snd_zip (length_choices _ _).le] at lowered
    exact lowered.nodup_iff.2 (choices_distinct _ _).1
  · exact ⟨zip_abbreviate_perm_of_perm same, fun distinct _ _ =>
      abbreviate_getElem?_eq same distinct⟩
  · intro claimed name
    obtain ⟨n, inside, free⟩ := exists_numberedInitials_free claimed name
    exact ⟨n, Nat.lt_succ_iff.1 (List.mem_range.1 inside), free⟩

theorem abbreviate_stable_orders :
    ((abbreviate ["OrderLine", "a", "A", "Ärger"]).map toLower).Nodup ∧
      (abbreviate ["Ärger", "A", "a", "OrderLine"])[2]? =
        (abbreviate ["OrderLine", "a", "A", "Ärger"])[1]? := by
  obtain ⟨-, -, distinct, stable, -⟩ := abbreviate_stable ["OrderLine", "a", "A", "Ärger"]
  obtain ⟨-, kept⟩ := stable ["Ärger", "A", "a", "OrderLine"] (by decide)
  exact ⟨distinct, kept (by decide) 2 1 rfl⟩

end RelationAtlas.Abbreviation
