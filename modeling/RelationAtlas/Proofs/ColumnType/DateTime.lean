import RelationAtlas.Proofs.ColumnType.MomentPrefix

/-! # Ranges of dates and times

A range reaches over every stored value that agrees with the text. Where the text of a value shows
all of it the range holds nothing else, and a text is only refused if no value agrees with it. -/

namespace RelationAtlas

namespace DateTimeKind

open MomentPrefix

structure Holds (kind : DateTimeKind) (m : Moment) : Prop where
  valid : m.isValid = true
  least : kind.least ≤ m
  most : m ≤ kind.greatest

structure Stores (kind : DateTimeKind) (m : Moment) : Prop extends kind.Holds m where
  precise : kind.IsPrecise m

variable {kind : DateTimeKind} {m n lower upper : Moment} {p : MomentPrefix} {text : String}

theorem stores_least (kind : DateTimeKind) : kind.Stores kind.least := by
  cases kind <;> exact ⟨⟨by decide, by decide, by decide⟩, by simp [IsPrecise, least]⟩

theorem holds_greatest (kind : DateTimeKind) : kind.Holds kind.greatest := by
  cases kind <;> exact ⟨by decide, by decide, by decide⟩

namespace Holds

theorem fits (held : kind.Holds m) : m.Fits := by
  apply Moment.fits_of_isValid held.valid
  have most := held.most
  rw [Moment.le_iff_key] at most
  cases kind <;> simp only [greatest, Moment.key, Text.cons_le_cons_iff] at most <;> omega

theorem sameDay (held : time.Holds m) : m.SameDay time.least := by
  have least := held.least
  have most := held.most
  rw [Moment.le_iff_key] at least most
  simp only [DateTimeKind.least, greatest, Moment.key, Text.cons_le_cons_iff, le_refl] at least most
  simp only [Moment.SameDay, DateTimeKind.least]
  omega

end Holds

theorem Holds.sameDay_of_time (held : kind.Holds m) (other : kind.Holds n) (timed : kind = time) :
    m.SameDay n := by
  subst timed
  obtain ⟨year, month, day⟩ := held.sameDay
  obtain ⟨year', month', day'⟩ := other.sameDay
  exact ⟨year.trans year'.symm, month.trans month'.symm, day.trans day'.symm⟩

theorem format_le_format (hm : kind.Holds m) (hn : kind.Holds n) (h : m ≤ n) :
    kind.format m ≤ kind.format n :=
  (format_le_iff hm.fits hn.fits).2 (shown_le_shown h (hm.sameDay_of_time hn))

theorem le_of_format_le (hm : kind.Stores m) (hn : kind.Holds n)
    (h : kind.format m ≤ kind.format n) : m ≤ n :=
  le_of_shown_le hm.precise ((format_le_iff hm.fits hn.fits).1 h) (hm.sameDay_of_time hn)

theorem validate_of_empty (none_left : (Text.trim text).toList = []) :
    kind.validate text = .ok (.between (kind.format kind.least) (kind.format kind.greatest)) := by
  have empty : (Text.trim text).isEmpty = true := by simpa using none_left
  simp [validate, empty]

theorem validate_of_prefixOf (some_left : (Text.trim text).toList ≠ [])
    (read : kind.prefixOf (Text.trim text) = .ok p) :
    kind.validate text =
      if p.first.isValid = true ∧ p.last.isValid = true then
        if max p.first kind.least ≤ min p.last kind.greatest then
          .ok (.between (kind.format (max p.first kind.least))
            (kind.format (min p.last kind.greatest)))
        else .error (.momentOutOfRange (Text.trim text) kind.sqlName)
      else .error (.notMoment (Text.trim text) kind.sqlName) := by
  have full : (Text.trim text).isEmpty = false := by simpa using some_left
  simp only [validate, full, read, Moment.later_eq_max, Moment.earlier_eq_min]
  have crossed : (min p.last kind.greatest).isBefore (max p.first kind.least) = true ↔
      ¬max p.first kind.least ≤ min p.last kind.greatest := by
    rw [Moment.isBefore_eq_true_iff, not_le]
  by_cases valid : p.first.isValid = true ∧ p.last.isValid = true
  · by_cases ordered : max p.first kind.least ≤ min p.last kind.greatest
    · simp [bind, Except.bind, valid, crossed, ordered]
      rfl
    · simp [bind, Except.bind, valid, crossed, ordered]
      rfl
  · have invalid : (!p.first.isValid || !p.last.isValid) = true := by
      rw [not_and_or] at valid
      simpa using valid
    simp [bind, Except.bind, invalid, valid]
    rfl

theorem isValid_max_min (hm : m.isValid = true) (hn : n.isValid = true) :
    (max m n).isValid = true ∧ (min m n).isValid = true := by
  rcases le_total m n with h | h <;> simp [h, hm, hn]

theorem holds_bounds (first : m.isValid = true) (last : n.isValid = true)
    (ordered : max m kind.least ≤ min n kind.greatest) :
    kind.Holds (max m kind.least) ∧ kind.Holds (min n kind.greatest) := by
  have least := (isValid_max_min first (stores_least kind).valid).1
  have most := (isValid_max_min last (holds_greatest kind).valid).2
  exact ⟨⟨least, le_max_right _ _, ordered.trans (min_le_right _ _)⟩,
    ⟨most, (le_max_right _ _).trans ordered, min_le_right _ _⟩⟩

def Gives (kind : DateTimeKind) (text : String) (given : Components) : Prop :=
  (Text.trim text).toList = [] ∧ given = [] ∨ Written kind.fields given (Text.trim text).toList

def IsFine (kind : DateTimeKind) : Prop := kind ≠ smallDateTime ∧ kind ≠ dateTime

/-- The moments of the kind that agree with the components are those between the two. -/
structure Encloses (kind : DateTimeKind) (given : Components) (lower upper : Moment) : Prop where
  low : kind.Holds lower
  high : kind.Holds upper
  ordered : lower ≤ upper
  agrees_iff : ∀ m, kind.Holds m → ((∀ g ∈ given, m.Agrees g) ↔ lower ≤ m ∧ m ≤ upper)
  precise : kind.IsFine → kind.IsPrecise lower

theorem timed_of_written {given : Components} {cs : List Char}
    (written : Written kind.fields given cs) (absent : (ofGiven given).years = none) :
    kind = time := by
  cases kind with
  | time => rfl
  | _ => cases written <;> simp [ofGiven, withTime] at absent

theorem nanos_zero_mod (formed : p.WellFormed) : p.nanos '0' % 100 = 0 := by
  have two : 9 - (p.fraction.getD []).length = 7 - (p.fraction.getD []).length + 2 := by
    have := formed.short
    omega
  rw [MomentPrefix.nanos, Text.digitsValue_append, Text.digitsValue_replicate_zero,
    List.length_replicate, two, Nat.pow_add, ← Nat.mul_assoc, Nat.add_zero]
  exact Nat.mul_mod_left _ _

theorem isPrecise_first {given : Components} {cs : List Char}
    (written : Written kind.fields given cs) (fine : kind.IsFine) :
    kind.IsPrecise (ofGiven given).first := by
  have formed := wellFormed_of_written written
  have units : (ofGiven given).first.nano % 100 = 0 := nanos_zero_mod formed
  cases kind with
  | date =>
    have hour : (ofGiven given).hour = none := by
      simp [ofGiven, withTime, written.lookup_eq_none (f := .hour) (by decide)]
    have minute := formed.minute hour
    have second := formed.second minute
    have fraction := formed.fraction second
    simp [IsPrecise, MomentPrefix.first, hour, minute, second, MomentPrefix.nanos, fraction]
    decide
  | smallDateTime => exact absurd rfl fine.1
  | dateTime => exact absurd rfl fine.2
  | _ => exact units

theorem agrees_iff {given : Components} {cs : List Char} (written : Written kind.fields given cs)
    (held : kind.Holds m) :
    (∀ g ∈ given, m.Agrees g) ↔ max (ofGiven given).first kind.least ≤ m ∧
      m ≤ min (ofGiven given).last kind.greatest := by
  have formed := wellFormed_of_written written
  have day : (ofGiven given).years = none → m.SameDay time.least := by
    intro absent
    cases timed_of_written written absent
    exact held.sameDay
  rw [agrees_iff_admits written held.fits, ← between_iff_admits formed held.valid day, max_le_iff,
    le_min_iff]
  simp [held.least, held.most]

theorem encloses_of_written {given : Components} {cs : List Char}
    (written : Written kind.fields given cs) (first : (ofGiven given).first.isValid = true)
    (last : (ofGiven given).last.isValid = true)
    (ordered : max (ofGiven given).first kind.least ≤ min (ofGiven given).last kind.greatest) :
    kind.Encloses given (max (ofGiven given).first kind.least)
      (min (ofGiven given).last kind.greatest) := by
  obtain ⟨lower, upper⟩ := holds_bounds first last ordered
  refine ⟨lower, upper, ordered, fun m held => agrees_iff written held, fun fine => ?_⟩
  rcases max_choice (ofGiven given).first kind.least with same | same
  · rw [same]
    exact isPrecise_first written fine
  · rw [same]
    exact (stores_least kind).precise

theorem validate_of_gives {given : Components} (gives : kind.Gives text given) :
    (∃ fault, kind.validate text = .error fault ∧
        ∀ m, kind.Holds m → ¬∀ g ∈ given, m.Agrees g) ∨
      ∃ lower upper, kind.validate text = .ok (.between (kind.format lower) (kind.format upper)) ∧
        kind.Encloses given lower upper := by
  rcases gives with ⟨none_left, rfl⟩ | written
  · have ends := stores_least kind
    exact .inr ⟨_, _, validate_of_empty none_left, ends.toHolds, holds_greatest kind, ends.most,
      fun m held => by simp [held.least, held.most], fun _ => ends.precise⟩
  · rcases prefixOf_of_written written with read | ⟨month, fault, some_month, outside, refused⟩
    · rw [validate_of_prefixOf written.ne_nil read]
      split
      case isTrue valid =>
        split
        case isTrue ordered =>
          exact .inr ⟨_, _, rfl, encloses_of_written written valid.1 valid.2 ordered⟩
        case isFalse crossed =>
          refine .inl ⟨_, rfl, fun m held agrees => ?_⟩
          obtain ⟨left, right⟩ := (agrees_iff written held).1 agrees
          exact crossed (left.trans right)
      case isFalse invalid =>
        refine .inl ⟨_, rfl, fun m held agrees => ?_⟩
        have admits := (agrees_iff_admits written held.fits).1 agrees
        exact invalid (isValid_of_admits (wellFormed_of_written written) held.valid admits)
    · have full : (Text.trim text).isEmpty = false := by simpa using written.ne_nil
      refine .inl ⟨fault, by simp [validate, full, refused, bind, Except.bind], ?_⟩
      intro m held agrees
      have admits := (agrees_iff_admits written held.fits).1 agrees
      have same := admits.month month some_month
      obtain ⟨least, most, -⟩ := Moment.isValid_iff.1 held.valid
      omega

theorem exists_gives_of_validate {range : ValueRange} (accepted : kind.validate text = .ok range) :
    ∃ given, kind.Gives text given := by
  by_cases none_left : (Text.trim text).toList = []
  · exact ⟨[], .inl ⟨none_left, rfl⟩⟩
  · cases read : kind.prefixOf (Text.trim text) with
    | error fault =>
      have full : (Text.trim text).isEmpty = false := by simpa using none_left
      simp [validate, full, read, bind, Except.bind] at accepted
    | ok p =>
      obtain ⟨given, written⟩ := written_of_prefixOf read
      exact ⟨given, .inr written⟩

/-- The stored values that agree with the components lie between the texts, and if the text of a
value shows all of it, then no others do. -/
structure Covers (kind : DateTimeKind) (given : Components) (lower upper : String) : Prop where
  within : ∀ m, kind.Stores m → (∀ g ∈ given, m.Agrees g) →
    lower ≤ kind.format m ∧ kind.format m ≤ upper
  exactly : kind.IsFine → ∀ m, kind.Stores m → lower ≤ kind.format m → kind.format m ≤ upper →
    ∀ g ∈ given, m.Agrees g

theorem Encloses.covers {given : Components} (ends : kind.Encloses given lower upper) :
    kind.Covers given (kind.format lower) (kind.format upper) := by
  constructor
  · intro m stored agrees
    obtain ⟨left, right⟩ := (ends.agrees_iff m stored.toHolds).1 agrees
    exact ⟨format_le_format ends.low stored.toHolds left,
      format_le_format stored.toHolds ends.high right⟩
  · intro fine m stored left right
    have after := le_of_format_le ⟨ends.low, ends.precise fine⟩ stored.toHolds left
    exact (ends.agrees_iff m stored.toHolds).2 ⟨after, le_of_format_le stored ends.high right⟩

/-- Validation is exact. A text is refused only if no value agrees with it, and else the range
covers the values that do. -/
theorem validate_covers {given : Components} (gives : kind.Gives text given) :
    (∀ fault, kind.validate text = .error fault → ∀ m, kind.Stores m → ¬∀ g ∈ given, m.Agrees g) ∧
      ∀ range, kind.validate text = .ok range →
        ∃ lower upper, range = .between lower upper ∧ kind.Covers given lower upper := by
  rcases validate_of_gives gives with ⟨fault, refused, disagree⟩ | ⟨lower, upper, accepted, ends⟩
  · rw [refused]
    exact ⟨fun _ _ m stored => disagree m stored.toHolds, by simp⟩
  · rw [accepted]
    refine ⟨by simp, fun range same => ?_⟩
    exact ⟨_, _, (Except.ok.inj same).symm, ends.covers⟩

theorem validate_covers_february :
    dateTime2.validate " 2024-2 " =
        .ok (.between "2024-02-01 00:00:00.0000000" "2024-02-29 23:59:59.9999999") ∧
      dateTime2.Covers [(.year, ['2', '0', '2', '4']), (.month, ['2'])]
        "2024-02-01 00:00:00.0000000" "2024-02-29 23:59:59.9999999" := by
  have accepted : dateTime2.validate " 2024-2 " =
      .ok (.between "2024-02-01 00:00:00.0000000" "2024-02-29 23:59:59.9999999") := rfl
  have year : MomentField.year.Takes ['2', '0', '2', '4'] :=
    ⟨by simp [Text.AreDigits], by decide, by decide⟩
  have month : MomentField.month.Takes ['2'] := ⟨by simp [Text.AreDigits], by decide, by decide⟩
  have trimmed : (Text.trim " 2024-2 ").toList = ['2', '0', '2', '4'] ++ '-' :: ['2'] := rfl
  have gives : dateTime2.Gives " 2024-2 " [(.year, ['2', '0', '2', '4']), (.month, ['2'])] := by
    right
    rw [trimmed]
    exact .more year (fun _ => rfl) (by decide) (.last month)
  obtain ⟨lower, upper, same, covers⟩ := (validate_covers gives).2 _ accepted
  obtain ⟨rfl, rfl⟩ : _ = lower ∧ _ = upper := by simpa [ValueRange.between] using same
  exact ⟨accepted, covers⟩

end DateTimeKind

end RelationAtlas
