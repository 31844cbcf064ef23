import Mathlib.Tactic.SplitIfs
import RelationAtlas.XmlName

/-! # Encoded names are names of XML

The characters that XML 1.0 allows in a name (productions `NameStartChar` and `NameChar`), without
the colon. What encoding leaves as it is can stand where it is, and what it writes for anything
else is an underscore, letters and digits. So every name but the empty one becomes a name of XML,
and no two become the same. -/

namespace RelationAtlas.XmlName

/-! ## Decoding undoes encoding

What stands in an encoded name for one character is read as one piece, or as the two halves of a
pair, whatever follows it. So decoding gives every name back, and no two names are encoded
alike. -/

theorem hexValue?_hexDigit : ∀ n < 16, hexValue? (hexDigit n) = some n := by decide

theorem pieces_group {u : Nat} (hu : u < 0x10000) (rest : List Char) :
    pieces (group u ++ rest) = .unit u :: pieces rest := by
  have digits : unit? (hexDigit (u / 0x1000 % 16)) (hexDigit (u / 0x100 % 16))
      (hexDigit (u / 0x10 % 16)) (hexDigit (u % 16)) = some u := by
    simp only [unit?, hexValue?_hexDigit _ (Nat.mod_lt _ (by decide : 0 < 16))]
    refine congrArg some ?_
    omega
  rw [group]
  simp only [List.cons_append, List.nil_append]
  rw [pieces, digits]

theorem toNat_range (c : Char) : c.toNat < 0xD800 ∨ 0xDFFF < c.toNat ∧ c.toNat < 0x110000 := c.valid

theorem units_lt (c : Char) : ∀ u ∈ units c, u < 0x10000 := by
  have := toNat_range c
  intro u hu
  rw [units] at hu
  split_ifs at hu
  · rw [List.mem_singleton] at hu
    omega
  · simp only [List.mem_cons, List.not_mem_nil, or_false] at hu
    omega

theorem pieces_groups {us : List Nat} (hus : ∀ u ∈ us, u < 0x10000) (rest : List Char) :
    pieces (us.flatMap group ++ rest) = us.map .unit ++ pieces rest := by
  induction us with
  | nil => rfl
  | cons u us ih =>
    rw [List.flatMap_cons, List.append_assoc, pieces_group (hus u List.mem_cons_self),
      ih fun v hv => hus v (List.mem_cons_of_mem _ hv)]
    rfl

theorem pieces_literal {c : Char} {rest : List Char} (h : c = '_' → rest.head? ≠ some 'x') :
    pieces (c :: rest) = .literal c :: pieces rest := by
  rw [pieces]
  rintro a b c' d rest' rfl rfl
  exact h rfl rfl

theorem head?_encodeFrom {valid : Char → Bool} {cs : List Char} (h : cs.head? ≠ some 'x') :
    (encodeFrom valid cs).head? ≠ some 'x' := by
  cases cs with
  | nil => simp [encodeFrom]
  | cons c rest =>
    have other : c ≠ 'x' := by simpa using h
    rw [encodeFrom, units]
    split_ifs <;> simp [group, other]

def piecesOf (valid : Char → Bool) : List Char → List Piece
  | [] => []
  | c :: rest =>
    (if valid c && !(c == '_' && rest.head? == some 'x') then [.literal c]
      else (units c).map .unit) ++ piecesOf isInner rest

theorem pieces_encodeFrom (valid : Char → Bool) (cs : List Char) :
    pieces (encodeFrom valid cs) = piecesOf valid cs := by
  induction cs generalizing valid with
  | nil => rfl
  | cons c rest ih =>
    rw [encodeFrom, piecesOf]
    split_ifs with plain
    · have apart : c = '_' → (encodeFrom isInner rest).head? ≠ some 'x' := by
        rintro rfl
        refine head?_encodeFrom ?_
        simp only [beq_self_eq_true, Bool.true_and, Bool.and_eq_true, Bool.not_eq_true'] at plain
        simpa using plain.2
      rw [List.singleton_append, List.singleton_append, pieces_literal apart, ih]
    · rw [pieces_groups (units_lt c), ih]

theorem ofPieces_unit {u : Nat} (low : isHighHalf u = false) (rest : List Piece) :
    ofPieces (.unit u :: rest) = ofUnit u :: ofPieces rest := by
  cases rest with
  | nil => rfl
  | cons p rest =>
    cases p with
    | literal c => rfl
    | unit v =>
      rw [ofPieces, low]
      rfl

theorem ofPieces_units (c : Char) (rest : List Piece) :
    ofPieces ((units c).map .unit ++ rest) = c :: ofPieces rest := by
  have range := toNat_range c
  rw [units]
  split_ifs with small
  · have high : isHighHalf c.toNat = false := by
      simp only [isHighHalf, Bool.and_eq_false_iff, decide_eq_false_iff_not]
      omega
    have low : isLowHalf c.toNat = false := by
      simp only [isLowHalf, Bool.and_eq_false_iff, decide_eq_false_iff_not]
      omega
    simp only [List.map_cons, List.map_nil, List.singleton_append]
    rw [ofPieces_unit high, ofUnit, high, low]
    exact congrArg (· :: _) (Char.ofNat_toNat c)
  · have high : isHighHalf (0xD800 + (c.toNat - 0x10000) / 0x400) = true := by
      simp only [isHighHalf, Bool.and_eq_true, decide_eq_true_eq]
      omega
    have low : isLowHalf (0xDC00 + (c.toNat - 0x10000) % 0x400) = true := by
      simp only [isLowHalf, Bool.and_eq_true, decide_eq_true_eq]
      omega
    have joined : 0x10000 + (0xD800 + (c.toNat - 0x10000) / 0x400 - 0xD800) * 0x400 +
        (0xDC00 + (c.toNat - 0x10000) % 0x400 - 0xDC00) = c.toNat := by omega
    simp only [List.map_cons, List.map_nil, List.cons_append, List.nil_append]
    rw [ofPieces, high, low, ofPair, joined]
    exact congrArg (· :: _) (Char.ofNat_toNat c)

theorem ofPieces_piecesOf (valid : Char → Bool) (cs : List Char) :
    ofPieces (piecesOf valid cs) = cs := by
  induction cs generalizing valid with
  | nil => rfl
  | cons c rest ih =>
    rw [piecesOf]
    split_ifs
    · rw [List.singleton_append, ofPieces, ih]
    · rw [ofPieces_units, ih]

theorem decode_encode (name : String) : decode (encode name) = name := by
  rw [decode, encode, String.toList_ofList, pieces_encodeFrom, ofPieces_piecesOf,
    String.ofList_toList]

theorem encode_injective {a b : String} (h : encode a = encode b) : a = b := by
  rw [← decode_encode a, h, decode_encode]

/-! ## Names of XML -/

def legalStart : List (Nat × Nat) := [
  (0x41, 0x5A), (0x5F, 0x5F), (0x61, 0x7A), (0xC0, 0xD6), (0xD8, 0xF6), (0xF8, 0x2FF),
  (0x370, 0x37D), (0x37F, 0x1FFF), (0x200C, 0x200D), (0x2070, 0x218F), (0x2C00, 0x2FEF),
  (0x3001, 0xD7FF), (0xF900, 0xFDCF), (0xFDF0, 0xFFFD), (0x10000, 0xEFFFF)]

def legalInner : List (Nat × Nat) :=
  legalStart ++ [(0x2D, 0x2E), (0x30, 0x39), (0xB7, 0xB7), (0x300, 0x36F), (0x203F, 0x2040)]

structure IsLegal (name : List Char) : Prop where
  start : name.head?.any (within legalStart)
  inner : ∀ c ∈ name, within legalInner c

theorem IsLegal.colon_not_mem {name : List Char} (h : IsLegal name) : ':' ∉ name := fun colon =>
  absurd (h.inner ':' colon) (by decide)

theorem within_mono {rs ss : List (Nat × Nat)} (sub : ∀ r ∈ rs, ∃ s ∈ ss, s.1 ≤ r.1 ∧ r.2 ≤ s.2)
    {c : Char} (h : within rs c) : within ss c := by
  obtain ⟨r, hr, bounds⟩ := List.any_eq_true.1 h
  obtain ⟨s, hs, below, above⟩ := sub r hr
  refine List.any_eq_true.2 ⟨s, hs, ?_⟩
  simp only [Bool.and_eq_true, decide_eq_true_eq] at bounds ⊢
  omega

theorem legalStart_of_isStart {c : Char} (h : isStart c) : within legalStart c :=
  within_mono (by decide) h

theorem legalInner_of_legalStart {c : Char} (h : within legalStart c) : within legalInner c :=
  within_mono (by decide) h

theorem legalInner_of_isInner {c : Char} (h : isInner c) : within legalInner c := by
  rcases Bool.or_eq_true_iff.1 h with start | inner
  · exact legalInner_of_legalStart (legalStart_of_isStart start)
  · exact within_mono (by decide) inner

theorem legalInner_hexDigit : ∀ n < 16, within legalInner (hexDigit n) := by decide

theorem legalInner_group (u : Nat) : ∀ c ∈ group u, within legalInner c := by
  have digit : ∀ n, within legalInner (hexDigit (n % 16)) := fun n =>
    legalInner_hexDigit _ (Nat.mod_lt n (by decide))
  simp only [group, List.forall_mem_cons]
  exact ⟨by decide, by decide, digit _, digit _, digit _, digit _, by decide, List.forall_mem_nil _⟩

theorem legalInner_encodeFrom {valid : Char → Bool} {cs : List Char}
    (legal : ∀ c, valid c → within legalInner c) :
    ∀ c ∈ encodeFrom valid cs, within legalInner c := by
  induction cs generalizing valid with
  | nil => exact List.forall_mem_nil _
  | cons d cs ih =>
    rw [encodeFrom]
    refine List.forall_mem_append.2 ⟨?_, ih fun c => legalInner_of_isInner⟩
    split_ifs with plain
    · have stands := (Bool.and_eq_true_iff.1 plain).1
      exact List.forall_mem_singleton.2 (legal d stands)
    · intro c hc
      obtain ⟨u, -, written⟩ := List.mem_flatMap.1 hc
      exact legalInner_group u c written

theorem legalStart_head?_encodeFrom {valid : Char → Bool} {c : Char} {cs : List Char}
    (legal : ∀ c, valid c → within legalStart c) :
    (encodeFrom valid (c :: cs)).head?.any (within legalStart) := by
  have underscore : within legalStart '_' := by decide
  rw [encodeFrom, units]
  split_ifs with plain
  · exact legal c (Bool.and_eq_true_iff.1 plain).1
  · simpa [group] using underscore
  · simpa [group] using underscore

theorem isLegal_encode_iff {name : String} : IsLegal (encode name).toList ↔ name ≠ "" := by
  rw [encode, String.toList_ofList]
  constructor
  · rintro ⟨start, -⟩ rfl
    cases start
  · intro filled
    obtain ⟨c, cs, split⟩ := List.exists_cons_of_ne_nil (mt String.toList_eq_nil_iff.1 filled)
    rw [split]
    have starts : ∀ c, isStart c → within legalStart c := fun c => legalStart_of_isStart
    exact ⟨legalStart_head?_encodeFrom starts,
      legalInner_encodeFrom fun c h => legalInner_of_legalStart (starts c h)⟩

theorem colon_not_mem_encode (name : String) : ':' ∉ (encode name).toList := by
  by_cases empty : name = ""
  · subst empty
    decide
  · exact (isLegal_encode_iff.2 empty).colon_not_mem

/-- Decoding gives every name back, so that no two names are encoded alike, and all but the empty
one are encoded as names of XML without a colon. -/
theorem encode_faithful : Function.Injective encode ∧ ∀ name, decode (encode name) = name ∧
    (IsLegal (encode name).toList ↔ name ≠ "") ∧ ':' ∉ (encode name).toList :=
  ⟨fun _ _ => encode_injective,
    fun name => ⟨decode_encode name, isLegal_encode_iff, colon_not_mem_encode name⟩⟩

end RelationAtlas.XmlName
