import RelationAtlas.ColumnType.Basic
import RelationAtlas.Proofs.ColumnType.Guid
import RelationAtlas.Proofs.ColumnType.MomentText

/-! # Canonical bounds

Each bound of a range is a complete value in the form in which the program writes it. Reading it
again gives that value alone, whichever way the range came about. -/

namespace RelationAtlas

namespace ValueRange

/-- Each bound is read as itself alone. -/
def IsCanonical (range : ValueRange) (validate : String → Except ValueFault ValueRange) : Prop :=
  ∀ bound, range.lower = some bound ∨ range.upper = some bound → validate bound = .ok (.exact bound)

namespace IsCanonical

variable {validate : String → Except ValueFault ValueRange} {lower upper value : String}

theorem unbounded : IsCanonical .unbounded validate := by
  simp [IsCanonical, ValueRange.unbounded]

theorem between (low : validate lower = .ok (.exact lower))
    (high : validate upper = .ok (.exact upper)) : IsCanonical (.between lower upper) validate := by
  rintro bound (same | same)
  · exact Option.some.inj same ▸ low
  · exact Option.some.inj same ▸ high

theorem exact (read : validate value = .ok (.exact value)) : IsCanonical (.exact value) validate :=
  between read read

end IsCanonical

end ValueRange

namespace IntegerKind

theorem validate_toString {kind : IntegerKind} {n : Int} (least : kind.least ≤ n)
    (most : n ≤ kind.greatest) : kind.validate (toString n) = .ok (.exact (toString n)) := by
  have wide : bigInt.least ≤ kind.least ∧ kind.greatest ≤ bigInt.greatest := by
    cases kind <;> decide
  have within : Text.signedWithin? bigInt.least bigInt.greatest (toString n) = some n := by
    rw [Text.signedWithin?, Text.signed?_toString, Option.filter_some, if_pos]
    simp only [Bool.and_eq_true, decide_eq_true_eq]
    omega
  have inside : ¬(n < kind.least ∨ kind.greatest < n) := by omega
  rw [validate, Text.trim_toString, Text.toString_ne_empty, if_neg Bool.false_ne_true, within]
  exact if_neg inside

theorem isCanonical {kind : IntegerKind} {text : String} {range : ValueRange}
    (accepted : kind.validate text = .ok range) : range.IsCanonical kind.validate := by
  have ordered : kind.least ≤ kind.greatest := by cases kind <;> decide
  rw [validate] at accepted
  split at accepted
  · cases accepted
    exact .between (validate_toString le_rfl ordered) (validate_toString ordered le_rfl)
  · split at accepted
    · cases accepted
    · split at accepted
      · cases accepted
      case isFalse inside =>
        cases accepted
        exact .exact (validate_toString (by omega) (by omega))

end IntegerKind

theorem isCanonical_of_kept (validate : String → Except ValueFault ValueRange)
    (ok : String → Bool) (fault : String → ValueFault) {text : String} {range : ValueRange}
    (steps : ∀ text, validate text = if (Text.trim text).isEmpty then .ok .unbounded
      else if ok (Text.trim text) then .ok (.exact (Text.trim text))
      else .error (fault (Text.trim text)))
    (accepted : validate text = .ok range) : range.IsCanonical validate := by
  rw [steps] at accepted
  split at accepted
  · cases accepted
    exact .unbounded
  case isFalse some_left =>
    split at accepted
    case isTrue read =>
      cases accepted
      apply ValueRange.IsCanonical.exact
      rw [steps, Text.trim_trim, if_neg some_left, if_pos read]
    case isFalse => cases accepted

namespace Guid

variable {g : String} {ds : List Char}

theorem isHexDigit_of_isLowerHex {c : Char} (h : isLowerHex c = true) : isHexDigit c = true := by
  rw [isHexDigit, ← isLowerHex, h, Bool.true_or]

theorem toLower_of_isLowerHex {c : Char} (h : isLowerHex c = true) : c.toLower = c :=
  isHexDigit_induction (p := fun c => isLowerHex c = true → c.toLower = c) (by decide)
    (isHexDigit_of_isLowerHex h) h

theorem plain_of_isHexDigit {c : Char} (h : isHexDigit c = true) :
    Text.isBlank c = false ∧ c ≠ '\x7b' ∧ c ≠ '\x7d' :=
  isHexDigit_induction (p := fun c => Text.isBlank c = false ∧ c ≠ '\x7b' ∧ c ≠ '\x7d')
    (by decide) h

theorem filter_intercalate {groups : List (List Char)} (plain : '-' ∉ groups.flatten) :
    (['-'].intercalate groups).filter (· != '-') = groups.flatten := by
  induction groups with
  | nil => rfl
  | cons g groups ih =>
    rw [List.flatten_cons, List.mem_append, not_or] at plain
    have kept : g.filter (· != '-') = g := List.filter_eq_self.2 fun c hc => by
      simpa using ne_of_mem_of_not_mem hc plain.1
    cases groups with
    | nil => simpa using kept
    | cons g' groups =>
      rw [List.intercalate_cons_cons, List.filter_append, List.filter_append, ih plain.2, kept,
        @List.flatten_cons _ g]
      simp

theorem digitsOf_of_plain {cs : List Char} (plain : ∀ c ∈ cs, c ≠ '\x7b' ∧ c ≠ '\x7d') :
    digitsOf cs = cs.filter (· != '-') := by
  have opened : cs.dropWhile (· == '\x7b') = cs := by
    cases cs with
    | nil => rfl
    | cons c cs => simp [(plain c (by simp)).1]
  have closed : cs.reverse.dropWhile (· == '\x7d') = cs.reverse := by
    have plain' : ∀ c ∈ cs.reverse, c ≠ '\x7d' := fun c hc => (plain c (by simpa using hc)).2
    generalize cs.reverse = ds at plain'
    cases ds with
    | nil => rfl
    | cons d ds => simp [plain' d (by simp)]
  rw [digitsOf, opened, closed, List.reverse_reverse]

theorem canonical_of_spells (spelled : Spells g ds) : canonical ds = g := by
  have hex : ∀ d ∈ ds, isHexDigit d = true :=
    fun d hd => isHexDigit_of_isLowerHex (spelled.digits d hd)
  have lower : ds.map Char.toLower = ds := by
    rw [List.map_congr_left fun d hd => toLower_of_isLowerHex (spelled.digits d hd), List.map_id']
  have other := spells_canonical spelled.length_eq hex
  rw [lower] at other
  exact le_antisymm ((other.le_iff spelled).2 le_rfl) ((spelled.le_iff other).2 le_rfl)

theorem validate_of_spells (spelled : Spells g ds) : validate g = .ok (.exact g) := by
  have length := spelled.length_eq
  have hex : ∀ d ∈ ds, isHexDigit d = true :=
    fun d hd => isHexDigit_of_isLowerHex (spelled.digits d hd)
  have dashes : g.toList.filter (· != '-') = ds := by
    obtain ⟨groups, joined, -, rfl, digits⟩ := spelled
    rw [joined]
    exact filter_intercalate fun dash => by cases digits '-' dash
  have chars : ∀ c ∈ g.toList, c = '-' ∨ isHexDigit c = true := by
    intro c hc
    by_cases dash : c = '-'
    · exact .inl dash
    · exact .inr (hex c (by simpa [← dashes, hc] using dash))
  have plain : ∀ c ∈ g.toList, Text.isBlank c = false ∧ c ≠ '\x7b' ∧ c ≠ '\x7d' := by
    intro c hc
    rcases chars c hc with rfl | digit
    · decide
    · exact plain_of_isHexDigit digit
  have trimmed : Text.trim g = g := Text.trim_of_no_blank fun c hc => (plain c hc).1
  have digits : digitsOf g.toList = ds :=
    (digitsOf_of_plain fun c hc => (plain c hc).2).trans dashes
  have some_left : ds.isEmpty = false := by
    rw [List.isEmpty_eq_false_iff]
    rintro rfl
    cases length
  have all : ds.all isHexDigit = true := List.all_eq_true.2 hex
  rw [validate, trimmed, digits, some_left, utf8ByteSize_of_hex hex, all, length]
  rw [if_neg Bool.false_ne_true, if_neg (lt_irrefl _), if_neg (by simp), if_pos rfl,
    canonical_of_spells spelled]

theorem isCanonical {text : String} {range : ValueRange} (accepted : validate text = .ok range) :
    range.IsCanonical validate := by
  obtain ⟨short, hex⟩ := (validate_isOk_iff text).1 ⟨range, accepted⟩
  have least := validate_of_spells (spells_fill short hex (c := '0') rfl rfl)
  have most := validate_of_spells (spells_fill short hex (c := 'f') rfl rfl)
  rw [validate] at accepted
  split at accepted
  · cases accepted
    exact .unbounded
  · split at accepted
    · cases accepted
    · split at accepted
      · cases accepted
      · split at accepted
        case isTrue full =>
          cases accepted
          exact .exact (validate_of_spells (spells_canonical full hex))
        case isFalse =>
          cases accepted
          exact .between least most

end Guid

theorem DateTimeKind.isCanonical {kind : DateTimeKind} {text : String} {range : ValueRange}
    (accepted : kind.validate text = .ok range) : range.IsCanonical kind.validate := by
  obtain ⟨given, gives⟩ := exists_gives_of_validate accepted
  rcases validate_of_gives gives with ⟨fault, refused, -⟩ | ⟨lower, upper, read, ends⟩
  · cases refused.symm.trans accepted
  · cases read.symm.trans accepted
    exact .between (validate_format ends.low) (validate_format ends.high)

namespace ColumnType

theorem isCanonical_validateText (text : String) :
    (validateText text).IsCanonical fun text => .ok (validateText text) := by
  rw [validateText]
  split
  · exact .unbounded
  case isFalse some_left => exact .exact (by rw [validateText, if_neg some_left])

theorem isCanonical {type : ColumnType} {text : String} {range : ValueRange}
    (accepted : type.validate text = .ok range) : range.IsCanonical type.validate := by
  intro bound given
  cases type <;> rw [validate] at accepted ⊢
  case character =>
    cases accepted
    exact isCanonical_validateText text bound given
  case integer => exact IntegerKind.isCanonical accepted bound given
  case decimal =>
    exact isCanonical_of_kept validateDecimal isDecimal .notDecimal (fun _ => rfl) accepted bound
      given
  case float =>
    exact isCanonical_of_kept validateFloat isFiniteFloat .notFloat (fun _ => rfl) accepted bound
      given
  case guid => exact Guid.isCanonical accepted bound given
  case dateTime => exact DateTimeKind.isCanonical accepted bound given
  all_goals cases accepted

theorem exactValue?_eq_some_iff {read : Except ValueFault ValueRange} {value : String} :
    exactValue? read = some value ↔ read = .ok (.exact value) := by
  cases read with
  | error fault => simp [exactValue?]
  | ok range =>
    obtain ⟨lower, upper⟩ := range
    rw [exactValue?, Option.ite_none_right_eq_some, Except.ok.injEq, ValueRange.exact,
      ValueRange.mk.injEq]
    constructor
    · rintro ⟨same, given : lower = some value⟩
      subst given
      rw [ValueRange.isExact, Bool.and_eq_true, beq_iff_eq] at same
      exact ⟨rfl, same.2.symm⟩
    · rintro ⟨rfl, rfl⟩
      simp [ValueRange.isExact]

theorem lower_of_exactValue? {read : Except ValueFault ValueRange} {value : String}
    (given : exactValue? read = some value) :
    ∃ range, read = .ok range ∧ range.lower = some value :=
  ⟨.exact value, exactValue?_eq_some_iff.1 given, rfl⟩

theorem exactValue?_of_scanOption? {type : ColumnType} {text value : String}
    (searched : type.scanOption? text = some (.equal value)) :
    exactValue? (type.validate text) = some value := by
  cases type <;> simp_all [scanOption?]

/-- Every bound is read as itself alone, and so is the value of a search for equality. -/
theorem validate_canonical (type : ColumnType) (text : String) :
    (∀ range, type.validate text = .ok range →
        ∀ bound, range.lower = some bound ∨ range.upper = some bound →
          type.validate bound = .ok (.exact bound)) ∧
      ∀ value, type.scanOption? text = some (.equal value) →
        type.validate value = .ok (.exact value) := by
  refine ⟨fun range accepted => isCanonical accepted, fun value searched => ?_⟩
  obtain ⟨range, accepted, lower⟩ := lower_of_exactValue? (exactValue?_of_scanOption? searched)
  exact isCanonical accepted value (.inl lower)

end ColumnType

end RelationAtlas
