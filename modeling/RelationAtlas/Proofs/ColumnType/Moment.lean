import RelationAtlas.ColumnType.DateTime
import RelationAtlas.Proofs.Text.Numeral

/-! # The order of written moments

The text of a moment shows numbers of fixed widths, so texts of one kind are ordered as these
numbers. Moments in order are shown in order, and what is shown in order is in order as far as the
earlier moment is stored as it is. -/

namespace RelationAtlas

theorem daysInMonth_between (year month : Nat) :
    28 ≤ daysInMonth year month ∧ daysInMonth year month ≤ 31 := by
  unfold daysInMonth
  grind

namespace Moment

theorem key_injective : Function.Injective Moment.key := by
  rintro ⟨_, _, _, _, _, _, _⟩ ⟨_, _, _, _, _, _, _⟩ same
  simpa [key] using same

instance : LinearOrder Moment := LinearOrder.lift' key key_injective

variable {m n : Moment}

theorem isBefore_eq_true_iff : m.isBefore n = true ↔ m < n := decide_eq_true_iff

theorem isBefore_eq_false_iff : m.isBefore n = false ↔ n ≤ m := by
  rw [← not_lt, ← isBefore_eq_true_iff, Bool.not_eq_true]

theorem later_eq_max (m n : Moment) : m.later n = max m n := by
  cases order : m.isBefore n with
  | true => simp [later, order, max_eq_right (isBefore_eq_true_iff.1 order).le]
  | false => simp [later, order, max_eq_left (isBefore_eq_false_iff.1 order)]

theorem earlier_eq_min (m n : Moment) : m.earlier n = min m n := by
  cases order : m.isBefore n with
  | true => simp [earlier, order, min_eq_left (isBefore_eq_true_iff.1 order).le]
  | false => simp [earlier, order, min_eq_right (isBefore_eq_false_iff.1 order)]

theorem le_iff_key : m ≤ n ↔ m.key ≤ n.key := Iff.rfl

theorem isValid_iff : m.isValid = true ↔ 1 ≤ m.month ∧ m.month ≤ 12 ∧ 1 ≤ m.day ∧
    m.day ≤ daysInMonth m.year m.month ∧ m.hour ≤ 23 ∧ m.minute ≤ 59 ∧ m.second ≤ 59 ∧
      m.nano ≤ 999999999 := by
  simp [Moment.isValid, Nat.lt_succ_iff, and_assoc]

structure Fits (m : Moment) : Prop where
  year : m.year < 10 ^ 4
  month : m.month < 10 ^ 2
  day : m.day < 10 ^ 2
  hour : m.hour < 10 ^ 2
  minute : m.minute < 10 ^ 2
  second : m.second < 10 ^ 2
  nano : m.nano < 10 ^ 9

theorem fits_of_isValid (valid : m.isValid = true) (year : m.year < 10 ^ 4) : m.Fits := by
  obtain ⟨-, month, -, day, hour, minute, second, nano⟩ := isValid_iff.1 valid
  obtain ⟨-, long⟩ := daysInMonth_between m.year m.month
  constructor <;> omega

def SameDay (m n : Moment) : Prop := m.year = n.year ∧ m.month = n.month ∧ m.day = n.day

end Moment

namespace DateTimeKind

open Moment (Fits)

def shown (kind : DateTimeKind) (m : Moment) : List Nat :=
  match kind with
  | date => [m.year, m.month, m.day]
  | time => [m.hour, m.minute, m.second, m.nano / 100]
  | smallDateTime => [m.year, m.month, m.day, m.hour, m.minute]
  | dateTime =>
    [m.year, m.month, m.day, m.hour, m.minute, m.second, min (m.nano / 1000000) 997]
  | dateTime2 | dateTimeOffset =>
    [m.year, m.month, m.day, m.hour, m.minute, m.second, m.nano / 100]

/-- The moment is stored as it is: days, minutes, milliseconds up to 997, or units of 100 ns. -/
def IsPrecise (kind : DateTimeKind) (m : Moment) : Prop :=
  match kind with
  | date => m.hour = 0 ∧ m.minute = 0 ∧ m.second = 0 ∧ m.nano = 0
  | smallDateTime => m.second = 0 ∧ m.nano = 0
  | dateTime => m.nano % 1000000 = 0 ∧ m.nano ≤ 997000000
  | time | dateTime2 | dateTimeOffset => m.nano % 100 = 0

variable {kind : DateTimeKind} {m n : Moment}

theorem shown_le_shown (h : m ≤ n) (day : kind = time → m.SameDay n) :
    kind.shown m ≤ kind.shown n := by
  rw [Moment.le_iff_key] at h
  cases kind with
  | time =>
    obtain ⟨year, month, day⟩ := day rfl
    simp only [Moment.key, shown, Text.cons_le_cons_iff, le_refl, and_true] at *
    omega
  | _ =>
    simp only [Moment.key, shown, Text.cons_le_cons_iff, le_refl, and_true] at *
    omega

theorem le_of_shown_le (precise : kind.IsPrecise m) (h : kind.shown m ≤ kind.shown n)
    (day : kind = time → m.SameDay n) : m ≤ n := by
  rw [Moment.le_iff_key]
  cases kind with
  | time =>
    obtain ⟨year, month, day⟩ := day rfl
    simp only [IsPrecise, Moment.key, shown, Text.cons_le_cons_iff, le_refl, and_true] at *
    omega
  | _ =>
    simp only [IsPrecise, Moment.key, shown, Text.cons_le_cons_iff, le_refl, and_true] at *
    omega

theorem format_le_iff (hm : m.Fits) (hn : n.Fits) :
    kind.format m ≤ kind.format n ↔ kind.shown m ≤ kind.shown n := by
  have apart : ∀ (mark s t : List Char), mark ++ s ≤ mark ++ t ↔ s ≤ t := fun mark s t => by
    simp [Text.append_le_append_iff s t rfl]
  have year := Text.padded_append_le_iff (by decide) hm.year hn.year
  have month := Text.padded_append_le_iff (by decide) hm.month hn.month
  have day := Text.padded_append_le_iff (by decide) hm.day hn.day
  have hour := Text.padded_append_le_iff (by decide) hm.hour hn.hour
  have minute := Text.padded_append_le_iff (by decide) hm.minute hn.minute
  have second := Text.padded_append_le_iff (by decide) hm.second hn.second
  have lastDay := Text.padded_le_iff (by decide) hm.day hn.day
  have lastMinute := Text.padded_le_iff (by decide) hm.minute hn.minute
  have nanos := hm.nano
  have nanos' := hn.nano
  have units : (Text.padded 7 (m.nano / 100)).toList ≤ (Text.padded 7 (n.nano / 100)).toList ↔
      m.nano / 100 ≤ n.nano / 100 := Text.padded_le_iff (by decide) (by omega) (by omega)
  have millis : (Text.padded 3 (min (m.nano / 1000000) 997)).toList ≤
      (Text.padded 3 (min (n.nano / 1000000) 997)).toList ↔
        min (m.nano / 1000000) 997 ≤ min (n.nano / 1000000) 997 :=
    Text.padded_le_iff (by decide) (by omega) (by omega)
  rw [String.le_iff_toList_le]
  cases kind <;>
    simp only [format, Moment.dateText, Moment.secondText, Moment.minuteText, String.toList_append,
      List.append_assoc, year, month, day, hour, minute, second, lastDay, lastMinute, units, millis,
      apart, shown, Text.cons_le_cons_iff, le_refl, and_true, ← le_iff_lt_or_eq]

theorem format_eq_of_shown_eq (hm : m.Fits) (hn : n.Fits) (same : kind.shown m = kind.shown n) :
    kind.format m = kind.format n := by
  apply le_antisymm
  · exact (format_le_iff hm hn).2 same.le
  · exact (format_le_iff hn hm).2 same.ge

end DateTimeKind

end RelationAtlas
