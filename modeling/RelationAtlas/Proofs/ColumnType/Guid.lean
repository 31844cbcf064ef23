import Mathlib.Data.List.TakeDrop
import Mathlib.Data.List.TakeWhile
import RelationAtlas.ColumnType.Range
import RelationAtlas.Proofs.Text.Numeral

/-! # Ranges of guids

A guid is 32 digits in five groups. The dashes stand at the same places in all guids, so guids are
ordered as their digits, and the first digits of a guid stand for the guids between the two that
fill them up. -/

namespace RelationAtlas.Guid

/-- The digits stand in the text, with braces around them and dashes anywhere. -/
def Encloses (trimmed digits : List Char) : Prop :=
  ∃ opening closing inner, trimmed =
      List.replicate opening '\x7b' ++ inner ++ List.replicate closing '\x7d' ∧
    inner.head? ≠ some '\x7b' ∧ inner.getLast? ≠ some '\x7d' ∧ digits = inner.filter (· != '-')

def isLowerHex (c : Char) : Bool := c.isDigit || ('a' ≤ c && c ≤ 'f')

/-- The guid has these digits, in groups of 8, 4, 4, 4 and 12 with dashes between them. -/
def Spells (guid : String) (digits : List Char) : Prop :=
  ∃ groups : List (List Char), guid.toList = ['-'].intercalate groups ∧
    groups.map List.length = [8, 4, 4, 4, 12] ∧ groups.flatten = digits ∧
      ∀ d ∈ digits, isLowerHex d = true

section Digits

theorem exists_dropWhile_eq (c : Char) (cs : List Char) :
    ∃ n, cs = List.replicate n c ++ cs.dropWhile (· == c) ∧
      (cs.dropWhile (· == c)).head? ≠ some c := by
  refine ⟨(cs.takeWhile (· == c)).length, ?_, ?_⟩
  · have same : cs.takeWhile (· == c) = List.replicate (cs.takeWhile (· == c)).length c := by
      refine List.eq_replicate_length.2 fun d hd => ?_
      simpa using List.mem_takeWhile_imp hd
    rw [← same, List.takeWhile_append_dropWhile]
  · intro first
    have stopped := List.head?_dropWhile_not (· == c) cs
    simp [first] at stopped

theorem dropWhile_replicate_append {c : Char} (n : Nat) {rest : List Char}
    (stops : rest.head? ≠ some c) :
    (List.replicate n c ++ rest).dropWhile (· == c) = rest := by
  rw [List.dropWhile_append_of_pos fun d hd => by simpa using List.eq_of_mem_replicate hd]
  cases rest with
  | nil => rfl
  | cons d rest =>
    have other : d ≠ c := by simpa using stops
    simp [other]

theorem encloses_iff {cs ds : List Char} : Encloses cs ds ↔ ds = digitsOf cs := by
  constructor
  · rintro ⟨opening, closing, inner, rfl, front, back, rfl⟩
    have front' : (inner ++ List.replicate closing '\x7d').head? ≠ some '\x7b' := by
      cases inner with
      | nil => cases closing <;> simp [List.replicate_succ]
      | cons c inner => simpa using front
    have back' : inner.reverse.head? ≠ some '\x7d' := by rwa [List.head?_reverse]
    rw [digitsOf, List.append_assoc, dropWhile_replicate_append opening front',
      List.reverse_append, List.reverse_replicate, dropWhile_replicate_append closing back',
      List.reverse_reverse]
  · rintro rfl
    obtain ⟨opening, opened, front⟩ := exists_dropWhile_eq '\x7b' cs
    obtain ⟨closing, closed, back⟩ :=
      exists_dropWhile_eq '\x7d' (cs.dropWhile (· == '\x7b')).reverse
    have split := congrArg List.reverse closed
    rw [List.reverse_reverse, List.reverse_append, List.reverse_replicate] at split
    refine ⟨opening, closing, _, ?_, ?_, ?_, rfl⟩
    · rw [List.append_assoc, ← split]
      exact opened
    · intro first
      rw [split, List.head?_append, first] at front
      exact front rfl
    · rwa [List.getLast?_reverse]

theorem isHexDigit_toNat_lt {c : Char} (h : isHexDigit c = true) : c.toNat < 103 := by
  simp only [isHexDigit, Char.isDigit, Bool.or_eq_true, Bool.and_eq_true, decide_eq_true_eq,
    Char.le_def, UInt32.le_iff_toNat_le] at h
  have digit : '9'.val.toNat = 57 := rfl
  have lower : 'f'.val.toNat = 102 := rfl
  have upper : 'F'.val.toNat = 70 := rfl
  change c.val.toNat < 103
  omega

theorem isHexDigit_induction {p : Char → Prop}
    (h : ∀ n < 103, isHexDigit (Char.ofNat n) = true → p (Char.ofNat n)) {c : Char}
    (hex : isHexDigit c = true) : p c := by
  have small := h c.toNat (isHexDigit_toNat_lt hex)
  rw [Char.ofNat_toNat] at small
  exact small hex

theorem isLowerHex_toLower {c : Char} (h : isHexDigit c = true) : isLowerHex c.toLower = true :=
  isHexDigit_induction (p := fun c => isLowerHex c.toLower = true) (by decide) h

theorem isLowerHex_within {c : Char} (h : isLowerHex c = true) : '0' ≤ c ∧ c ≤ 'f' := by
  simp only [isLowerHex, Char.isDigit, Bool.or_eq_true, Bool.and_eq_true, decide_eq_true_eq,
    Char.le_def, UInt32.le_iff_toNat_le] at h ⊢
  have zero : '0'.val.toNat = 48 := rfl
  have nine : '9'.val.toNat = 57 := rfl
  have first : 'a'.val.toNat = 97 := rfl
  have last : 'f'.val.toNat = 102 := rfl
  omega

theorem utf8ByteSize_of_hex {ds : List Char} (hex : ∀ d ∈ ds, isHexDigit d = true) :
    (String.ofList ds).utf8ByteSize = ds.length := by
  induction ds with
  | nil => rfl
  | cons d ds ih =>
    obtain ⟨first, later⟩ := List.forall_mem_cons.1 hex
    have small := isHexDigit_toNat_lt first
    have one : d.utf8Size = 1 := by
      rw [Char.utf8Size_eq_one_iff, UInt32.le_iff_toNat_le]
      exact Nat.le_trans small.le (by decide)
    rw [String.ofList_cons, String.utf8ByteSize_append, String.utf8ByteSize_singleton, one,
      ih later, List.length_cons, Nat.add_comm]

end Digits

section Order

theorem intercalate_le_iff {gs hs : List (List Char)}
    (same : gs.map List.length = hs.map List.length) :
    ['-'].intercalate gs ≤ ['-'].intercalate hs ↔ gs.flatten ≤ hs.flatten := by
  induction gs generalizing hs with
  | nil =>
    obtain rfl : hs = [] := by simpa using same.symm
    simp
  | cons g gs ih =>
    cases hs with
    | nil => simp at same
    | cons h hs =>
      obtain ⟨first, later⟩ := List.cons.inj same
      have order := ih later
      cases gs with
      | nil =>
        obtain rfl : hs = [] := by simpa using later.symm
        simp
      | cons g' gs =>
        cases hs with
        | nil => simp at later
        | cons h' hs =>
          rw [List.intercalate_cons_cons, List.intercalate_cons_cons, List.append_assoc,
            List.append_assoc, Text.append_le_append_iff _ _ first, @List.flatten_cons _ g,
            @List.flatten_cons _ h, Text.append_le_append_iff _ _ first, ← order]
          simp [Text.cons_le_cons_iff]

variable {g h : String} {ds es : List Char}

theorem Spells.le_iff (hg : Spells g ds) (hh : Spells h es) : g ≤ h ↔ ds ≤ es := by
  obtain ⟨gs, joined, lengths, rfl, -⟩ := hg
  obtain ⟨hs, joined', lengths', rfl, -⟩ := hh
  rw [String.le_iff_toList_le, joined, joined', intercalate_le_iff (lengths.trans lengths'.symm)]

theorem Spells.length_eq (spelled : Spells g ds) : ds.length = 32 := by
  obtain ⟨gs, -, lengths, rfl, -⟩ := spelled
  rw [List.length_flatten, lengths]
  rfl

theorem Spells.digits (spelled : Spells g ds) : ∀ d ∈ ds, isLowerHex d = true := by
  obtain ⟨-, -, -, -, digits⟩ := spelled
  exact digits

theorem spells_canonical (length : ds.length = 32) (hex : ∀ d ∈ ds, isHexDigit d = true) :
    Spells (canonical ds) (ds.map Char.toLower) := by
  have lower : ∀ d ∈ ds.map Char.toLower, isLowerHex d = true := by
    intro d hd
    obtain ⟨c, hc, rfl⟩ := List.mem_map.1 hd
    exact isLowerHex_toLower (hex c hc)
  have length' : (ds.map Char.toLower).length = 32 := by rw [List.length_map, length]
  rw [canonical]
  generalize ds.map Char.toLower = d at lower length'
  have split : ∀ k n, (d.drop k).take n ++ d.drop (k + n) = d.drop k := fun k n => by
    rw [← List.drop_drop, List.take_append_drop]
  refine ⟨[d.take 8, (d.drop 8).take 4, (d.drop 12).take 4, (d.drop 16).take 4, d.drop 20],
    ?_, ?_, ?_, lower⟩
  · simp
  · simp [length']
  · simp only [List.flatten_cons, List.flatten_nil, List.append_nil, split 16 4, split 12 4,
      split 8 4, List.take_append_drop]

end Order

section Validation

variable {c : Char} {ds : List Char}

theorem spells_fill (short : ds.length ≤ 32) (hex : ∀ d ∈ ds, isHexDigit d = true)
    (hc : isHexDigit c = true) (same : c.toLower = c) :
    Spells (canonical (fill c ds)) (ds.map Char.toLower ++ List.replicate (32 - ds.length) c) := by
  have filled : (fill c ds).map Char.toLower =
      ds.map Char.toLower ++ List.replicate (32 - ds.length) c := by
    rw [fill, List.map_append, List.map_replicate, same]
  rw [← filled]
  apply spells_canonical
  · simp only [fill, List.length_append, List.length_replicate]
    omega
  · intro d hd
    rcases List.mem_append.1 hd with given | added
    · exact hex d given
    · rwa [List.eq_of_mem_replicate added]

theorem between_fills_canonical {g : String} {es : List Char} (short : ds.length ≤ 32)
    (hex : ∀ d ∈ ds, isHexDigit d = true) (spelled : Spells g es) :
    canonical (fill '0' ds) ≤ g ∧ g ≤ canonical (fill 'f' ds) ↔ ds.map Char.toLower <+: es := by
  have least := spells_fill short hex (c := '0') rfl rfl
  have most := spells_fill short hex (c := 'f') rfl rfl
  have within : ∀ e ∈ es, '0' ≤ e ∧ e ≤ 'f' := fun e he => isLowerHex_within (spelled.digits e he)
  have length : es.length = (ds.map Char.toLower).length + (32 - ds.length) := by
    rw [spelled.length_eq, List.length_map]
    omega
  rw [least.le_iff spelled, spelled.le_iff most]
  exact Text.between_fills_iff length within

theorem validate_isOk_iff (text : String) : (∃ range, validate text = .ok range) ↔
    (digitsOf (Text.trim text).toList).length ≤ 32 ∧
      ∀ d ∈ digitsOf (Text.trim text).toList, isHexDigit d = true := by
  rw [validate]
  generalize digitsOf (Text.trim text).toList = digits
  have size := @utf8ByteSize_of_hex digits
  by_cases empty : digits = []
  · simp [empty]
  · by_cases hex : ∀ d ∈ digits, isHexDigit d = true
    · rw [size hex]
      have all : digits.all isHexDigit = true := List.all_eq_true.2 hex
      by_cases long : 32 < digits.length
      · simp [empty, long]
      · have right : digits.length ≤ 32 ∧ ∀ d ∈ digits, isHexDigit d = true := ⟨by omega, hex⟩
        refine iff_of_true ?_ right
        by_cases full : digits.length = 32 <;> simp [empty, long, all, full]
    · have some_other : digits.all isHexDigit = false := by simpa using hex
      by_cases long : 32 < (String.ofList digits).utf8ByteSize <;>
        simp [empty, long, some_other, hex]

end Validation

/-- A text is read as a guid exactly if at most 32 hex digits are left of it without blanks, braces
and dashes. All of them are that guid, fewer are the guids that begin with them, and none leave both
sides open. -/
theorem validate_denotes (text : String) : ∃ digits,
    (∀ left, Encloses (Text.trim text).toList left ↔ left = digits) ∧
    ((∃ range, validate text = .ok range) ↔
      digits.length ≤ 32 ∧ ∀ d ∈ digits, isHexDigit d = true) ∧
    ∀ range, validate text = .ok range →
      (digits = [] → range = .unbounded) ∧
      (digits.length = 32 →
        ∃ guid, Spells guid (digits.map Char.toLower) ∧ range = .exact guid) ∧
      (0 < digits.length → digits.length < 32 → ∃ lower upper least most,
        range = .between lower upper ∧ Spells lower least ∧ Spells upper most ∧
          ∀ guid ds, Spells guid ds →
            (lower ≤ guid ∧ guid ≤ upper ↔ digits.map Char.toLower <+: ds)) := by
  refine ⟨digitsOf (Text.trim text).toList, fun left => encloses_iff, validate_isOk_iff text,
    fun range read => ?_⟩
  obtain ⟨short, hex⟩ := (validate_isOk_iff text).1 ⟨range, read⟩
  rw [validate] at read
  generalize digitsOf (Text.trim text).toList = digits at short hex read
  have size : ¬32 < (String.ofList digits).utf8ByteSize := by
    rw [utf8ByteSize_of_hex hex]
    omega
  have all : digits.all isHexDigit = true := List.all_eq_true.2 hex
  refine ⟨fun empty => ?_, fun full => ?_, fun some_left short' => ?_⟩
  · simpa [empty] using read.symm
  · have some_left : digits ≠ [] := by
      rintro rfl
      cases full
    refine ⟨canonical digits, spells_canonical full hex, ?_⟩
    simpa [some_left, size, all, full] using read.symm
  · have some_left : digits ≠ [] := List.length_pos_iff.1 some_left
    refine ⟨_, _, _, _, ?_, spells_fill short hex (c := '0') rfl rfl,
      spells_fill short hex (c := 'f') rfl rfl,
      fun guid ds spelled => between_fills_canonical short hex spelled⟩
    simpa [some_left, size, all, short'.ne] using read.symm

end RelationAtlas.Guid
