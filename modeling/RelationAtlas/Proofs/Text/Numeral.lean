import Mathlib.Data.List.Forall2
import Mathlib.Data.String.Basic
import Mathlib.Tactic.Ring
import RelationAtlas.Text.Basic

/-! # Numerals of a fixed width

Digits of one length are ordered as the numbers they denote, so a number padded to a width is told
by its text, and texts that begin with padded numbers compare by the numbers first. -/

namespace RelationAtlas.Text

/-! ## The order of texts

Texts of one length compare piece by piece. The texts that begin with a given one are those between
its two fillings with the least and the greatest character. -/

section Order

variable {α : Type} [LinearOrder α] {a b : List α}

theorem cons_le_cons_iff {x y : α} : x :: a ≤ y :: b ↔ x < y ∨ x = y ∧ a ≤ b := by
  rw [← not_lt, ← not_lt, List.cons_lt_cons_iff]
  constructor
  · intro h
    simp only [not_or, not_and, not_lt] at h
    rcases lt_or_eq_of_le h.1 with less | same
    · exact .inl less
    · exact .inr ⟨same, not_lt.2 (h.2 same.symm)⟩
  · rintro (less | ⟨rfl, later⟩) (more | ⟨same, after⟩)
    · exact lt_asymm less more
    · exact less.ne same.symm
    · exact lt_irrefl _ more
    · exact later after

theorem cons_le_cons_iff_of_le (h : a ≤ b) {x y : α} : x :: a ≤ y :: b ↔ x ≤ y := by
  rw [cons_le_cons_iff, and_iff_left h, le_iff_lt_or_eq]

/-- Only what begins alike lies between texts that begin alike. -/
theorem cons_between_iff {c : List α} {x y : α} :
    x :: a ≤ y :: b ∧ y :: b ≤ x :: c ↔ x = y ∧ a ≤ b ∧ b ≤ c := by
  rw [cons_le_cons_iff, cons_le_cons_iff]
  constructor
  · rintro ⟨less | ⟨same, left⟩, more | ⟨same', right⟩⟩
    · exact absurd less (lt_asymm more)
    · exact absurd same'.symm less.ne
    · exact absurd same.symm more.ne
    · exact ⟨same, left, right⟩
  · rintro ⟨same, left, right⟩
    exact ⟨.inr ⟨same, left⟩, .inr ⟨same.symm, right⟩⟩

theorem append_le_append_iff (c d : List α) (same : a.length = b.length) :
    a ++ c ≤ b ++ d ↔ a < b ∨ a = b ∧ c ≤ d := by
  induction a generalizing b with
  | nil =>
    have hb : b = [] := List.eq_nil_of_length_eq_zero same.symm
    subst hb
    simp
  | cons x a ih =>
    cases b with
    | nil => simp at same
    | cons y b =>
      have later := ih (by simpa using same)
      simp only [List.cons_append, cons_le_cons_iff, List.cons_lt_cons_iff, later, List.cons.injEq]
      tauto

theorem le_of_forall₂ (h : List.Forall₂ (· ≤ ·) a b) : a ≤ b := by
  induction h with
  | nil => exact le_refl _
  | cons first _ ih => exact (cons_le_cons_iff_of_le ih).2 first

omit [LinearOrder α] in
theorem forall₂_replicate_left {r : α → α → Prop} {x : α} (h : ∀ y ∈ a, r x y) :
    List.Forall₂ r (List.replicate a.length x) a := by
  induction a with
  | nil => exact .nil
  | cons y a ih => exact .cons (h y (by simp)) (ih fun z hz => h z (by simp [hz]))

theorem between_fills_iff {low high : α} {given full : List α} {n : Nat}
    (length : full.length = given.length + n) (within : ∀ x ∈ full, low ≤ x ∧ x ≤ high) :
    given ++ List.replicate n low ≤ full ∧ full ≤ given ++ List.replicate n high ↔
      given <+: full := by
  induction given generalizing full with
  | nil =>
    obtain rfl : full.length = n := by simpa using length
    have left := forall₂_replicate_left fun x hx => (within x hx).1
    have right := forall₂_replicate_left (r := fun x y => y ≤ x) fun x hx => (within x hx).2
    simpa using ⟨le_of_forall₂ left, le_of_forall₂ right.flip⟩
  | cons g given ih =>
    cases full with
    | nil =>
      simp only [List.length_nil, List.length_cons] at length
      omega
    | cons x full =>
      simp only [List.length_cons] at length
      have later := @ih full (by omega) fun y hy => within y (by simp [hy])
      simp only [List.cons_append, cons_between_iff, List.cons_prefix_cons, ← later]

end Order

/-! ## Numerals -/

def AreDigits (ds : List Char) : Prop := ∀ d ∈ ds, d.isDigit = true

variable {as bs ds : List Char} {n w : Nat}

theorem isDigit_iff {c : Char} : c.isDigit = true ↔ '0' ≤ c ∧ c ≤ '9' := by
  simp [Char.isDigit, Char.le_def]

theorem digitValue_lt {c : Char} (h : c.isDigit = true) : digitValue c < 10 := by
  obtain ⟨-, most⟩ := isDigit_iff.1 h
  have : c.toNat ≤ '9'.toNat := most
  have nine : '9'.toNat = 57 := rfl
  rw [digitValue]
  omega

theorem digitValue_lt_digitValue {c d : Char} (h : c.isDigit = true) (less : c < d) :
    digitValue c < digitValue d := by
  obtain ⟨least, -⟩ := isDigit_iff.1 h
  have : '0'.toNat ≤ c.toNat := least
  have : c.toNat < d.toNat := less
  have zero : '0'.toNat = 48 := rfl
  rw [digitValue, digitValue]
  omega

theorem digitsValue_append (as bs : List Char) :
    digitsValue (as ++ bs) = digitsValue as * 10 ^ bs.length + digitsValue bs := by
  have shifted : ∀ n, bs.foldl (fun n c => 10 * n + digitValue c) n =
      n * 10 ^ bs.length + digitsValue bs := by
    induction bs with
    | nil => simp [digitsValue]
    | cons b bs ih =>
      intro n
      rw [digitsValue, List.foldl_cons, List.foldl_cons, ih, ih (10 * 0 + _), List.length_cons]
      ring
  rw [digitsValue, List.foldl_append, shifted, ← digitsValue]

theorem digitsValue_cons (c : Char) (cs : List Char) :
    digitsValue (c :: cs) = digitValue c * 10 ^ cs.length + digitsValue cs := by
  have split := digitsValue_append [c] cs
  simpa [digitsValue] using split

theorem digitsValue_lt (h : AreDigits ds) : digitsValue ds < 10 ^ ds.length := by
  induction ds with
  | nil => simp [digitsValue]
  | cons d ds ih =>
    obtain ⟨first, later⟩ := List.forall_mem_cons.1 h
    have one := Nat.mul_le_mul_right (10 ^ ds.length) (digitValue_lt first)
    have rest := ih later
    rw [digitsValue_cons, List.length_cons, Nat.pow_succ]
    rw [Nat.succ_mul] at one
    omega

theorem digitsValue_lt_digitsValue (same : as.length = bs.length) (ha : AreDigits as)
    (less : as < bs) : digitsValue as < digitsValue bs := by
  induction as generalizing bs with
  | nil =>
    obtain rfl : bs = [] := List.eq_nil_of_length_eq_zero same.symm
    exact absurd less (lt_irrefl _)
  | cons a as ih =>
    cases bs with
    | nil => simp at same
    | cons b bs =>
      obtain ⟨first, later⟩ := List.forall_mem_cons.1 ha
      have equal : as.length = bs.length := by simpa using same
      rw [digitsValue_cons, digitsValue_cons, equal]
      rcases List.cons_lt_cons_iff.1 less with smaller | ⟨rfl, smaller⟩
      · have one := Nat.mul_le_mul_right (10 ^ bs.length) (digitValue_lt_digitValue first smaller)
        have rest := digitsValue_lt later
        rw [equal] at rest
        rw [Nat.succ_mul] at one
        omega
      · have := ih equal later smaller
        omega

theorem digitsValue_le_iff (same : as.length = bs.length) (ha : AreDigits as) (hb : AreDigits bs) :
    digitsValue as ≤ digitsValue bs ↔ as ≤ bs := by
  constructor
  · intro h
    by_contra more
    have := digitsValue_lt_digitsValue same.symm hb (not_le.1 more)
    omega
  · intro h
    rcases lt_or_eq_of_le h with less | rfl
    · exact (digitsValue_lt_digitsValue same ha less).le
    · exact le_rfl

theorem AreDigits.fill {c : Char} (h : AreDigits ds) (hc : c.isDigit = true) (k : Nat) :
    AreDigits (ds ++ List.replicate k c) := by
  intro d hd
  rcases List.mem_append.1 hd with given | filled
  · exact h d given
  · rwa [List.eq_of_mem_replicate filled]

theorem areDigits_toDigits (n : Nat) : AreDigits (Nat.toDigits 10 n) :=
  fun _ hc => Nat.isDigit_of_mem_toDigits (by decide) (by decide) hc

theorem digitsValue_toDigits (n : Nat) : digitsValue (Nat.toDigits 10 n) = n :=
  Nat.ofDigitChars_toDigits (by decide) (by decide)

theorem areDigits_padded (w n : Nat) : AreDigits (padded w n).toList := by
  intro c hc
  simp only [padded, String.toList_ofList, List.mem_append, List.mem_replicate] at hc
  rcases hc with ⟨-, rfl⟩ | hc
  · rfl
  · exact areDigits_toDigits n c hc

theorem length_padded (positive : 0 < w) (fits : n < 10 ^ w) : (padded w n).toList.length = w := by
  have := (Nat.length_toDigits_le_iff (b := 10) (by decide) positive).2 fits
  simp only [padded, String.toList_ofList, List.length_append, List.length_replicate]
  omega

theorem digitsValue_replicate_zero (k : Nat) : digitsValue (List.replicate k '0') = 0 := by
  induction k with
  | zero => rfl
  | succ k ih =>
    rw [List.replicate_succ, digitsValue_cons, ih]
    simp [digitValue]

theorem digitsValue_replicate_nine (k : Nat) :
    digitsValue (List.replicate k '9') + 1 = 10 ^ k := by
  induction k with
  | zero => rfl
  | succ k ih =>
    have nine : digitValue '9' = 9 := rfl
    rw [List.replicate_succ, digitsValue_cons, nine, List.length_replicate, Nat.pow_succ]
    omega

theorem digitsValue_padded (w n : Nat) : digitsValue (padded w n).toList = n := by
  simp only [padded, String.toList_ofList]
  rw [digitsValue_append, digitsValue_replicate_zero, Nat.zero_mul, Nat.zero_add,
    digitsValue_toDigits]

theorem padded_lt_iff {m : Nat} (positive : 0 < w) (hm : m < 10 ^ w) (hn : n < 10 ^ w) :
    (padded w m).toList < (padded w n).toList ↔ m < n := by
  have same : (padded w n).toList.length = (padded w m).toList.length := by
    rw [length_padded positive hn, length_padded positive hm]
  have order := digitsValue_le_iff same (areDigits_padded w n) (areDigits_padded w m)
  rw [digitsValue_padded, digitsValue_padded] at order
  rw [← not_le, ← not_le, order]

theorem padded_le_iff {m : Nat} (positive : 0 < w) (hm : m < 10 ^ w) (hn : n < 10 ^ w) :
    (padded w m).toList ≤ (padded w n).toList ↔ m ≤ n := by
  rw [← not_lt, padded_lt_iff positive hn hm, not_lt]

theorem padded_append_le_iff {m : Nat} (positive : 0 < w) (hm : m < 10 ^ w) (hn : n < 10 ^ w)
    (s t : List Char) :
    (padded w m).toList ++ s ≤ (padded w n).toList ++ t ↔ m < n ∨ m = n ∧ s ≤ t := by
  have same : (padded w m).toList.length = (padded w n).toList.length := by
    rw [length_padded positive hm, length_padded positive hn]
  have equal : (padded w m).toList = (padded w n).toList ↔ m = n := by
    constructor
    · intro h
      rw [← digitsValue_padded w m, h, digitsValue_padded]
    · rintro rfl
      rfl
  rw [append_le_append_iff s t same, padded_lt_iff positive hm hn, equal]

/-- A number of a fixed width begins with the given digits if it lies between their two fillings. -/
theorem prefix_padded_iff (h : AreDigits ds) (short : ds.length ≤ w) (positive : 0 < w)
    (fits : n < 10 ^ w) : ds <+: (padded w n).toList ↔
      digitsValue (ds ++ List.replicate (w - ds.length) '0') ≤ n ∧
        n ≤ digitsValue (ds ++ List.replicate (w - ds.length) '9') := by
  have length := length_padded positive fits
  have digits := areDigits_padded w n
  have within : ∀ c ∈ (padded w n).toList, '0' ≤ c ∧ c ≤ '9' :=
    fun c hc => isDigit_iff.1 (digits c hc)
  have filled : ∀ c, (ds ++ List.replicate (w - ds.length) c).length = w := by
    intro c
    rw [List.length_append, List.length_replicate]
    omega
  have zeros := h.fill (c := '0') rfl (w - ds.length)
  have nines := h.fill (c := '9') rfl (w - ds.length)
  have zerosLength := filled '0'
  have ninesLength := filled '9'
  have least := digitsValue_le_iff (by omega) zeros digits
  have most := digitsValue_le_iff (by omega) digits nines
  rw [digitsValue_padded] at least most
  have split : (padded w n).toList.length = ds.length + (w - ds.length) := by omega
  rw [← between_fills_iff split within, least, most]

theorem padded_prefix_iff {v w k n : Nat} (positive : 0 < v) (short : v ≤ w) (hk : k < 10 ^ v)
    (hn : n < 10 ^ w) : (padded v k).toList <+: (padded w n).toList ↔ n / 10 ^ (w - v) = k := by
  have length := length_padded positive hk
  have digits := areDigits_padded v k
  have nines := digitsValue_replicate_nine (w - v)
  rw [prefix_padded_iff digits (by omega) (by omega) hn, length, digitsValue_append,
    digitsValue_append, digitsValue_padded, digitsValue_replicate_zero, List.length_replicate,
    List.length_replicate, Nat.div_eq_iff (Nat.pow_pos (by decide))]
  rw [Nat.add_zero]
  omega

theorem digits?_toDigits (n : Nat) : digits? (Nat.toDigits 10 n) = some n := by
  have digits : (Nat.toDigits 10 n).all Char.isDigit = true :=
    List.all_eq_true.2 (areDigits_toDigits n)
  simp [digits?, digits, digitsValue_toDigits, Nat.toDigits_ne_nil]

theorem toList_negSucc (n : Nat) :
    (toString (Int.negSucc n)).toList = '-' :: Nat.toDigits 10 (n + 1) := by
  rw [← Nat.toList_repr]
  exact String.toList_append

theorem toList_ofNat (n : Nat) : (toString (Int.ofNat n)).toList = Nat.toDigits 10 n :=
  Nat.toList_repr

theorem signed?_toString (n : Int) : signed? (toString n) = some n := by
  cases n with
  | ofNat n =>
    have read := digits?_toDigits n
    have digits := areDigits_toDigits n
    rw [signed?, toList_ofNat]
    split
    case h_1 same => cases digits '+' (by simp [same])
    case h_2 same => cases digits '-' (by simp [same])
    case h_3 => simp [read]
  | negSucc n =>
    rw [signed?, toList_negSucc]
    simp only [digits?_toDigits]
    rfl

theorem toString_ne_empty (n : Int) : (toString n).isEmpty = false := by
  rw [Bool.eq_false_iff, ne_eq, String.isEmpty_iff, ← String.toList_eq_nil_iff]
  cases n with
  | ofNat n =>
    rw [toList_ofNat]
    exact Nat.toDigits_ne_nil
  | negSucc n =>
    rw [toList_negSucc]
    exact List.cons_ne_nil _ _

end RelationAtlas.Text
