import RelationAtlas.Proofs.ColumnType.DateTime
import RelationAtlas.Proofs.Text.Basic

/-! # Texts of moments

The text of a moment is a spelling of the components that it shows. The moments that agree with it
are those that are shown alike, so it is read as itself alone. -/

namespace RelationAtlas

open Text (padded)

theorem MomentField.Takes.padded {f : MomentField} {w n : Nat} (positive : 0 < w)
    (fits : n < 10 ^ w) (short : w ≤ f.width) : f.Takes (padded w n).toList := by
  have length := Text.length_padded positive fits
  refine ⟨Text.areDigits_padded w n, ?_, by omega⟩
  intro empty
  rw [empty] at length
  cases length
  cases positive

theorem Written.ends {fs : List MomentField} {given : Components} {cs : List Char}
    (written : Written fs given cs) :
    (∀ c ∈ cs.head?, c.isDigit = true) ∧ ∀ c ∈ cs.getLast?, c.isDigit = true := by
  induction written with
  | last takes =>
    exact ⟨fun c hc => takes.digits c (List.mem_of_mem_head? hc),
      fun c hc => takes.digits c (List.mem_of_mem_getLast? hc)⟩
  | more takes _ _ written ih =>
    obtain ⟨d, ds, rfl⟩ := List.exists_cons_of_ne_nil takes.some_left
    obtain ⟨c, cs, rfl⟩ := List.exists_cons_of_ne_nil written.ne_nil
    constructor
    · simpa using takes.digits d (by simp)
    · intro e he
      rw [List.getLast?_append, List.getLast?_cons_cons] at he
      apply ih.2 e
      simpa [List.getLast?_cons] using he

namespace Moment

def spelledDate (m : Moment) : Components :=
  [(.year, (padded 4 m.year).toList), (.month, (padded 2 m.month).toList),
    (.day, (padded 2 m.day).toList)]

def spelledMinute (m : Moment) : Components :=
  [(.hour, (padded 2 m.hour).toList), (.minute, (padded 2 m.minute).toList)]

def spelledTime (m : Moment) (fraction : List Char) : Components :=
  m.spelledMinute ++ [(.second, (padded 2 m.second).toList), (.fraction, fraction)]

theorem SameDay.symm {m n : Moment} (h : m.SameDay n) : n.SameDay m :=
  ⟨h.1.symm, h.2.1.symm, h.2.2.symm⟩

theorem SameDay.trans {k m n : Moment} (h : k.SameDay m) (h' : m.SameDay n) : k.SameDay n :=
  ⟨h.1.trans h'.1, h.2.1.trans h'.2.1, h.2.2.trans h'.2.2⟩

end Moment

namespace DateTimeKind

def spelled (kind : DateTimeKind) (m : Moment) : Components :=
  match kind with
  | date => m.spelledDate
  | time => m.spelledTime (padded 7 (m.nano / 100)).toList
  | smallDateTime => m.spelledDate ++ m.spelledMinute
  | dateTime => m.spelledDate ++ m.spelledTime (padded 3 (min (m.nano / 1000000) 997)).toList
  | dateTime2 | dateTimeOffset => m.spelledDate ++ m.spelledTime (padded 7 (m.nano / 100)).toList

variable {kind : DateTimeKind} {m n : Moment}

theorem written_time (fits : m.Fits) {fraction : List Char}
    (takes : MomentField.fraction.Takes fraction) :
    Written MomentField.times (m.spelledTime fraction)
      (m.secondText.toList ++ '.' :: fraction) := by
  have hour : MomentField.hour.Takes _ := .padded (by decide) fits.hour (by decide)
  have minute : MomentField.minute.Takes _ := .padded (by decide) fits.minute (by decide)
  have second : MomentField.second.Takes _ := .padded (by decide) fits.second (by decide)
  have colon : ":".toList = [':'] := rfl
  simp only [Moment.secondText, Moment.minuteText, String.toList_append, List.append_assoc, colon,
    List.cons_append, List.nil_append]
  exact .beside hour (by decide) (by decide) (.beside minute (by decide) (by decide)
    (.beside second (by decide) (by decide) (.last takes)))

theorem written_minute (fits : m.Fits) :
    Written MomentField.times m.spelledMinute m.minuteText.toList := by
  have hour : MomentField.hour.Takes _ := .padded (by decide) fits.hour (by decide)
  have minute : MomentField.minute.Takes _ := .padded (by decide) fits.minute (by decide)
  have colon : ":".toList = [':'] := rfl
  simp only [Moment.minuteText, String.toList_append, List.append_assoc, colon, List.cons_append,
    List.nil_append]
  exact .beside hour (by decide) (by decide) (.last minute)

theorem written_date (fits : m.Fits) {fs : List MomentField} {given : Components} {cs : List Char}
    (written : Written (.hour :: fs) given cs) :
    Written (MomentField.dates ++ .hour :: fs) (m.spelledDate ++ given)
      (m.dateText.toList ++ ' ' :: cs) := by
  have year : MomentField.year.Takes _ := .padded (by decide) fits.year (by decide)
  have month : MomentField.month.Takes _ := .padded (by decide) fits.month (by decide)
  have day : MomentField.day.Takes _ := .padded (by decide) fits.day (by decide)
  have four := Text.length_padded (by decide) fits.year
  have dash : "-".toList = ['-'] := rfl
  simp only [Moment.dateText, String.toList_append, List.append_assoc, dash, List.cons_append,
    List.nil_append]
  exact .more year (fun _ => four) (by decide) (.beside month (by decide) (by decide)
    (.beside day (by decide) (by decide) written))

theorem written_format (fits : m.Fits) :
    Written kind.fields (kind.spelled m) (kind.format m).toList := by
  have nano := fits.nano
  have units : MomentField.fraction.Takes (padded 7 (m.nano / 100)).toList :=
    .padded (by decide) (by omega) (by decide)
  have millis : MomentField.fraction.Takes (padded 3 (min (m.nano / 1000000) 997)).toList :=
    .padded (by decide) (by omega) (by decide)
  have dash : "-".toList = ['-'] := rfl
  have blank : " ".toList = [' '] := rfl
  have point : ".".toList = ['.'] := rfl
  cases kind <;> simp only [format, String.toList_append, List.append_assoc, blank, point,
    List.cons_append, List.nil_append]
  case time => exact written_time fits units
  case dateTime => exact written_date fits (written_time fits millis)
  case dateTime2 => exact written_date fits (written_time fits units)
  case dateTimeOffset => exact written_date fits (written_time fits units)
  case smallDateTime => exact written_date fits (written_minute fits)
  case date =>
    have year : MomentField.year.Takes _ := .padded (by decide) fits.year (by decide)
    have month : MomentField.month.Takes _ := .padded (by decide) fits.month (by decide)
    have day : MomentField.day.Takes _ := .padded (by decide) fits.day (by decide)
    have four := Text.length_padded (by decide) fits.year
    simp only [Moment.dateText, String.toList_append, List.append_assoc, dash, List.cons_append,
      List.nil_append]
    exact .more year (fun _ => four) (by decide)
      (.beside month (by decide) (by decide) (.last day))

/-- The moments that agree with a text are those that are shown as it is. -/
theorem agrees_spelled_iff (hm : m.Fits) (hn : n.Fits) : (∀ g ∈ kind.spelled m, n.Agrees g) ↔
    kind.shown n = kind.shown m ∧ (kind = dateTime → n.nano / 1000000 ≤ 997) := by
  have nano := hm.nano
  have year := Text.padded_prefix_iff (by decide) le_rfl hm.year hn.year
  have units : (padded 7 (m.nano / 100)).toList <+: (padded 9 n.nano).toList ↔ _ :=
    Text.padded_prefix_iff (by decide) (by decide) (by omega) hn.nano
  have millis : (padded 3 (min (m.nano / 1000000) 997)).toList <+: (padded 9 n.nano).toList ↔ _ :=
    Text.padded_prefix_iff (by decide) (by decide) (by omega) hn.nano
  cases kind <;> simp [spelled, Moment.spelledDate, Moment.spelledMinute, Moment.spelledTime,
    Moment.Agrees, Text.digitsValue_padded, year, units, millis, shown]
  all_goals omega

def stored (kind : DateTimeKind) (m : Moment) : Moment :=
  match kind with
  | date => { m with hour := 0, minute := 0, second := 0, nano := 0 }
  | smallDateTime => { m with second := 0, nano := 0 }
  | dateTime => { m with nano := min (m.nano / 1000000) 997 * 1000000 }
  | time | dateTime2 | dateTimeOffset => { m with nano := m.nano / 100 * 100 }

theorem shown_stored (kind : DateTimeKind) (m : Moment) :
    kind.shown (kind.stored m) = kind.shown m := by
  cases kind <;> simp [shown, stored]

theorem isPrecise_stored (kind : DateTimeKind) (m : Moment) : kind.IsPrecise (kind.stored m) := by
  cases kind <;> simp [IsPrecise, stored]
  omega

theorem isValid_stored (valid : m.isValid = true) : (kind.stored m).isValid = true := by
  rw [Moment.isValid_iff] at *
  cases kind <;> simp only [stored] <;> omega

theorem sameDay_stored (kind : DateTimeKind) (m : Moment) : (kind.stored m).SameDay m := by
  cases kind <;> exact ⟨rfl, rfl, rfl⟩

theorem stores_stored (held : kind.Holds m) : kind.Stores (kind.stored m) := by
  have day := sameDay_stored kind m
  have precise := isPrecise_stored kind m
  have ends := stores_least kind
  refine ⟨⟨isValid_stored held.valid, ?_, ?_⟩, precise⟩
  · apply le_of_shown_le ends.precise
    · rw [shown_stored]
      exact shown_le_shown held.least (ends.toHolds.sameDay_of_time held)
    · intro timed
      exact (ends.toHolds.sameDay_of_time held timed).trans day.symm
  · apply le_of_shown_le precise
    · rw [shown_stored]
      exact shown_le_shown held.most (held.sameDay_of_time (holds_greatest kind))
    · intro timed
      exact day.trans (held.sameDay_of_time (holds_greatest kind) timed)

theorem agrees_stored (held : kind.Holds m) : ∀ g ∈ kind.spelled m, (kind.stored m).Agrees g := by
  rw [agrees_spelled_iff held.fits (stores_stored held).fits]
  refine ⟨shown_stored kind m, ?_⟩
  rintro rfl
  simp only [stored]
  omega

theorem trimList_of_written {fs : List MomentField} {given : Components} {cs : List Char}
    (written : Written fs given cs) : Text.trimList cs = cs := by
  obtain ⟨first, last⟩ := written.ends
  exact Text.trimList_eq_self (fun c hc => Text.isBlank_of_isDigit (first c hc))
    fun c hc => Text.isBlank_of_isDigit (last c hc)

theorem validate_format (held : kind.Holds m) :
    kind.validate (kind.format m) = .ok (.exact (kind.format m)) := by
  have written := @written_format kind _ held.fits
  have trimmed : Text.trim (kind.format m) = kind.format m := by
    rw [Text.trim, trimList_of_written written, String.ofList_toList]
  have gives : kind.Gives (kind.format m) (kind.spelled m) := by
    right
    rwa [trimmed]
  rcases validate_of_gives gives with ⟨_, _, disagree⟩ | ⟨lower, upper, accepted, ends⟩
  · exact absurd (agrees_stored held) (disagree _ (stores_stored held).toHolds)
  · have same : ∀ n, kind.Holds n → lower ≤ n ∧ n ≤ upper → kind.format n = kind.format m := by
      intro n other between
      have agrees := (ends.agrees_iff n other).2 between
      exact format_eq_of_shown_eq other.fits held.fits
        ((agrees_spelled_iff held.fits other.fits).1 agrees).1
    rw [accepted, same lower ends.low ⟨le_rfl, ends.ordered⟩,
      same upper ends.high ⟨ends.ordered, le_rfl⟩]
    rfl

end DateTimeKind
end RelationAtlas
