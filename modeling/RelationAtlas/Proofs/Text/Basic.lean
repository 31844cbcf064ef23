import Mathlib.Data.List.Basic
import Mathlib.Data.List.DropRight
import Mathlib.Data.List.Nodup
import Mathlib.Data.List.Perm.Subperm
import RelationAtlas.Proofs.Text.Numeral
import RelationAtlas.Text.Basic
import RelationAtlas.Text.Case

/-! # Blanks, free names and case

Trimmed texts, the names that counters make free, and the lower case of a text before a number. -/

namespace RelationAtlas.Text

/-! ## Trimmed texts

A text whose ends are not blank is not changed by trimming, and what is trimmed is such a text. -/

section Trim

variable {cs : List Char}

theorem trimList_eq_self (first : ∀ c ∈ cs.head?, isBlank c = false)
    (last : ∀ c ∈ cs.getLast?, isBlank c = false) : trimList cs = cs := by
  have front : cs.dropWhile isBlank = cs := by
    cases cs with
    | nil => rfl
    | cons c cs => simp [first c rfl]
  have back : cs.reverse.dropWhile isBlank = cs.reverse := by
    rw [← List.head?_reverse] at last
    generalize cs.reverse = ds at last
    cases ds with
    | nil => rfl
    | cons d ds => simp [last d rfl]
  rw [trimList, front, back, List.reverse_reverse]

theorem trim_eq_self {s : String} (first : ∀ c ∈ s.toList.head?, isBlank c = false)
    (last : ∀ c ∈ s.toList.getLast?, isBlank c = false) : trim s = s := by
  rw [trim, trimList_eq_self first last, String.ofList_toList]

theorem trim_of_no_blank {s : String} (none_blank : ∀ c ∈ s.toList, isBlank c = false) :
    trim s = s :=
  trim_eq_self (fun c hc => none_blank c (List.mem_of_mem_head? hc))
    fun c hc => none_blank c (List.mem_of_mem_getLast? hc)

theorem trimList_trimList (cs : List Char) : trimList (trimList cs) = trimList cs := by
  have prefixed : trimList cs <+: cs.dropWhile isBlank := List.rdropWhile_prefix _ _
  apply trimList_eq_self
  · intro c hc
    obtain ⟨rest, split⟩ := prefixed
    have stopped := List.head?_dropWhile_not isBlank cs
    rw [← split, List.head?_append, Option.mem_def.1 hc] at stopped
    simpa using stopped
  · intro c hc
    obtain ⟨some_left, rfl⟩ := List.mem_getLast?_eq_getLast hc
    exact Bool.eq_false_iff.2 (List.rdropWhile_last_not isBlank _ some_left)

theorem mem_trimList {c : Char} (h : c ∈ trimList cs) : c ∈ cs := by
  rw [trimList, List.mem_reverse] at h
  have front := (List.dropWhile_sublist _).subset h
  exact (List.dropWhile_sublist _).subset (List.mem_reverse.1 front)

@[simp]
theorem trim_trim (s : String) : trim (trim s) = trim s := by
  rw [trim, trim, String.toList_ofList, trimList_trimList]

theorem isBlank_of_isDigit {c : Char} (h : c.isDigit = true) : isBlank c = false := by
  obtain ⟨least, most⟩ := isDigit_iff.1 h
  have : '0'.toNat ≤ c.toNat := least
  have : c.toNat ≤ '9'.toNat := most
  have zero : '0'.toNat = 48 := rfl
  have nine : '9'.toNat = 57 := rfl
  rw [← Bool.not_eq_true]
  simp only [isBlank, Bool.or_eq_true, Bool.and_eq_true, decide_eq_true_eq, beq_iff_eq]
  omega

theorem trim_toString (n : Int) : trim (toString n) = toString n := by
  apply trim_of_no_blank
  cases n with
  | ofNat n =>
    rw [toList_ofNat]
    exact fun c hc => isBlank_of_isDigit (areDigits_toDigits n c hc)
  | negSucc n =>
    rw [toList_negSucc, List.forall_mem_cons]
    exact ⟨rfl, fun c hc => isBlank_of_isDigit (areDigits_toDigits _ c hc)⟩

end Trim

/-! ## Free names are free

Among the first candidates of a family of different names, one more than there are taken ones, one
is not taken. -/

theorem toString_injective : Function.Injective (toString : Nat → String) := by
  intro i j h
  have digits := congrArg (fun s => Nat.ofDigitChars 10 s.toList 0) h
  simpa only [Nat.toString_eq_repr, Nat.toList_repr, Nat.ofDigitChars_ten_toDigits] using digits

theorem base_ne_numbered (base : String) (n : Nat) : base ≠ base ++ toString n := by
  intro h
  have empty : "" = toString n := (String.append_right_inj base).1 (String.append_empty.trans h)
  simp [Nat.toString_eq_repr] at empty

theorem numbered_injective (base : String) : Function.Injective (numbered base) := by
  intro i j h
  rcases i with _ | i <;> rcases j with _ | j
  · rfl
  · exact absurd h (base_ne_numbered base _)
  · exact absurd h.symm (base_ne_numbered base _)
  · have counters := toString_injective ((String.append_right_inj base).1 h)
    omega

theorem exists_free {name : Nat → String} (distinct : Function.Injective name)
    (taken : List String) : ∃ n ∈ List.range (taken.length + 1), name n ∉ taken := by
  by_contra h
  have sub : (List.range (taken.length + 1)).map name ⊆ taken := by
    intro s hs
    obtain ⟨n, hn, rfl⟩ := List.mem_map.1 hs
    by_contra free
    exact h ⟨n, hn, free⟩
  -- more different candidates than there are taken names
  have short := (List.subperm_of_subset (List.Nodup.map distinct List.nodup_range) sub).length_le
  simp only [List.length_map, List.length_range] at short
  omega

theorem firstFree_spec {name : Nat → String} (distinct : Function.Injective name)
    (taken : List String) :
    ∃ n, firstFree name taken = name n ∧ name n ∉ taken ∧ ∀ k < n, name k ∈ taken := by
  cases found : (List.range (taken.length + 1)).find? fun n => !taken.contains (name n) with
  | none =>
    obtain ⟨n, hn, free⟩ := exists_free distinct taken
    have := List.find?_eq_none.1 found n hn
    simp [free] at this
  | some n =>
    obtain ⟨free, -, before⟩ := List.find?_range_eq_some.1 found
    refine ⟨n, by rw [firstFree, found, Option.getD_some], by simpa using free, ?_⟩
    intro k hk
    simpa using before k hk

theorem firstFree_numbered_spec (base : String) (taken : List String) :
    ∃ n, firstFree (numbered base) taken = numbered base n ∧ numbered base n ∉ taken ∧
      ∀ k < n, numbered base k ∈ taken :=
  firstFree_spec (numbered_injective base) taken

theorem firstFree_numbered_not_mem (base : String) (taken : List String) :
    firstFree (numbered base) taken ∉ taken := by
  obtain ⟨n, same, free, -⟩ := firstFree_numbered_spec base taken
  rwa [same]

theorem numbered_append (s t : String) (n : Nat) : numbered (s ++ t) n = s ++ numbered t n := by
  cases n with
  | zero => rfl
  | succ n => exact String.append_assoc

theorem numbered_ne_empty {base : String} (some : base ≠ "") (n : Nat) : numbered base n ≠ "" := by
  cases n with
  | zero => exact some
  | succ n =>
    intro empty
    exact some (String.append_eq_empty_iff.1 empty).1

/-! ## Lower case before a number

Digits have no case, and no word is read through them. So the letters of a text have the lower case
that they have without the digits that follow, a capital sigma at the end included. -/

variable {cs ds : List Char}

/-- A character that has no case and ends the word before it. -/
structure Caseless (d : Char) : Prop where
  lower : lower d = [d]
  sigma : d ≠ 'Σ'
  cased : isCased d = false
  ignorable : isCaseIgnorable d = false

theorem caseless_of_isDigit {d : Char} (h : d.isDigit = true) : Caseless d := by
  have each : ∀ n < 58, (Char.ofNat n).isDigit = true → lower (Char.ofNat n) = [Char.ofNat n] ∧
      Char.ofNat n ≠ 'Σ' ∧ isCased (Char.ofNat n) = false ∧
        isCaseIgnorable (Char.ofNat n) = false := by decide +kernel
  have small : d.toNat < 58 := Nat.lt_succ_of_le (isDigit_iff.1 h).2
  have here := each d.toNat small
  rw [Char.ofNat_toNat] at here
  obtain ⟨same, sigma, cased, ignorable⟩ := here h
  exact ⟨same, sigma, cased, ignorable⟩

theorem leadsCased_append (h : ∀ d ∈ ds, Caseless d) : leadsCased (cs ++ ds) = leadsCased cs := by
  induction cs with
  | nil =>
    cases ds with
    | nil => rfl
    | cons d ds =>
      have first := h d List.mem_cons_self
      simp [leadsCased, first.ignorable, first.cased]
  | cons c cs ih =>
    unfold leadsCased at ih ⊢
    rw [List.cons_append, List.dropWhile_cons, List.dropWhile_cons]
    split_ifs
    · exact ih
    · rfl

theorem lowerAfter_of_caseless (before : List Char) (h : ∀ d ∈ ds, Caseless d) :
    lowerAfter before ds = ds := by
  induction ds generalizing before with
  | nil => rfl
  | cons d ds ih =>
    obtain ⟨first, later⟩ := List.forall_mem_cons.1 h
    rw [lowerAfter, if_neg first.sigma, first.lower, ih _ later]
    rfl

theorem lowerAfter_append (before : List Char) (h : ∀ d ∈ ds, Caseless d) :
    lowerAfter before (cs ++ ds) = lowerAfter before cs ++ ds := by
  induction cs generalizing before with
  | nil => exact lowerAfter_of_caseless before h
  | cons c cs ih =>
    rw [List.cons_append, lowerAfter, lowerAfter, leadsCased_append h, ih, List.append_assoc]

theorem toLower_append_toString (base : String) (n : Nat) :
    toLower (base ++ toString n) = toLower base ++ toString n := by
  have digits : ∀ d ∈ Nat.toDigits 10 n, Caseless d := fun d hd =>
    caseless_of_isDigit (areDigits_toDigits n d hd)
  have numeral : (toString n).toList = Nat.toDigits 10 n := by simp [Nat.toString_eq_repr]
  rw [← String.toList_inj, toLower, toLower, String.toList_append, String.toList_append,
    String.toList_ofList, String.toList_ofList, numeral, lowerList, lowerList,
    lowerAfter_append [] digits]

theorem lower_ne_nil (c : Char) : lower c ≠ [] := by
  have filled : ∀ e ∈ Table.toLowerSequence, e.2 ≠ [] := by decide
  rw [lower]
  split_ifs
  · exact List.cons_ne_nil _ _
  · split
    · rename_i ns found
      obtain ⟨before, after, split, -⟩ := List.lookup_eq_some_iff.1 found
      have listed : (c.toNat, ns) ∈ Table.toLowerSequence := by
        rw [split]
        exact List.mem_append_right _ List.mem_cons_self
      simpa using filled _ listed
    · split <;> exact List.cons_ne_nil _ _

end RelationAtlas.Text
