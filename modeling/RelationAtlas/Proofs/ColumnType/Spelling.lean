import Mathlib.Data.List.TakeWhile
import RelationAtlas.ColumnType.DateTime
import RelationAtlas.Proofs.Text.Numeral

/-! # Spellings of moments

A text gives the components of a moment from the largest on, as far as it goes. Reading it finds
these components, and refuses no more than a month that is none. Nothing else is read. -/

namespace RelationAtlas

inductive MomentField
  | year
  | month
  | day
  | hour
  | minute
  | second
  | fraction
deriving DecidableEq

namespace MomentField

def width : MomentField → Nat
  | year => 4
  | fraction => 7
  | _ => 2

def marks : MomentField → List Char
  | year => []
  | month | day => ['-']
  | hour => [' ', 'T']
  | minute | second => [':']
  | fraction => ['.']

structure Takes (f : MomentField) (ds : List Char) : Prop where
  digits : Text.AreDigits ds
  some_left : ds ≠ []
  short : ds.length ≤ f.width

def times : List MomentField := [hour, minute, second, fraction]

def dates : List MomentField := [year, month, day]

end MomentField

abbrev Components := List (MomentField × List Char)

/-- The text gives the first of the fields and any number of those after it, without a gap. A year
with a month after it has four digits. -/
inductive Written : List MomentField → Components → List Char → Prop
  | last {f : MomentField} {fs : List MomentField} {ds : List Char} (takes : f.Takes ds) :
      Written (f :: fs) [(f, ds)] ds
  | more {f g : MomentField} {fs : List MomentField} {ds cs : List Char} {mark : Char}
      {given : Components} (takes : f.Takes ds) (full : f = .year → ds.length = 4)
      (marked : mark ∈ g.marks) (later : Written (g :: fs) given cs) :
      Written (f :: g :: fs) ((f, ds) :: given) (ds ++ mark :: cs)

theorem Written.beside {f g : MomentField} {fs : List MomentField} {ds cs : List Char}
    {mark : Char} {given : Components} (takes : f.Takes ds) (other : f ≠ .year)
    (marked : mark ∈ g.marks) (later : Written (g :: fs) given cs) :
    Written (f :: g :: fs) ((f, ds) :: given) (ds ++ mark :: cs) :=
  .more takes (fun same => absurd same other) marked later

namespace MomentPrefix

open MomentField (times dates)

def yearsOf (ds : List Char) : Nat × Nat :=
  (Text.digitsValue (ds ++ List.replicate (4 - ds.length) '0'),
    Text.digitsValue (ds ++ List.replicate (4 - ds.length) '9'))

def withTime (p : MomentPrefix) (given : Components) : MomentPrefix :=
  { p with
    hour := (given.lookup .hour).map Text.digitsValue
    minute := (given.lookup .minute).map Text.digitsValue
    second := (given.lookup .second).map Text.digitsValue
    fraction := given.lookup .fraction }

def ofGiven (given : Components) : MomentPrefix :=
  withTime
    { years := (given.lookup .year).map yearsOf
      month := (given.lookup .month).map Text.digitsValue
      day := (given.lookup .day).map Text.digitsValue } given

section Reading

variable {f : MomentField} {ds cs rest : List Char} {given : Components}

theorem digits?_append (takes : f.Takes ds) (stops : rest.head?.all fun c => !c.isDigit) :
    digits? f.width (ds ++ rest) = some (ds, rest) := by
  have word : (ds ++ rest).takeWhile Char.isDigit = ds := by
    rw [List.takeWhile_append_of_pos takes.digits]
    cases rest with
    | nil => simp
    | cons c rest => simp_all
  have after : (ds ++ rest).dropWhile Char.isDigit = rest := by
    rw [List.dropWhile_append_of_pos takes.digits]
    cases rest with
    | nil => simp
    | cons c rest => simp_all
  have short := takes.short
  have some_left := takes.some_left
  simp [digits?, word, after, some_left, Nat.not_lt.2 short]

theorem not_isDigit_of_mark {mark : Char} (marked : mark ∈ f.marks) : mark.isDigit = false := by
  cases f <;> simp [MomentField.marks] at marked
  all_goals first | (subst marked; rfl) | (rcases marked with rfl | rfl <;> rfl)

theorem digits?_last (takes : f.Takes ds) : digits? f.width ds = some (ds, []) := by
  have read : digits? f.width (ds ++ []) = some (ds, []) := digits?_append takes rfl
  rwa [List.append_nil] at read

theorem digits?_more {g : MomentField} {mark : Char} (takes : f.Takes ds)
    (marked : mark ∈ g.marks) (cs : List Char) :
    digits? f.width (ds ++ mark :: cs) = some (ds, mark :: cs) :=
  digits?_append takes (by simp [not_isDigit_of_mark marked])

theorem pair?_last (two : f.width = 2) (takes : f.Takes ds) :
    pair? ds = some (Text.digitsValue ds, []) := by
  have read := digits?_last takes
  rw [two] at read
  rw [pair?, read]
  rfl

theorem pair?_more {g : MomentField} {mark : Char} (two : f.width = 2) (takes : f.Takes ds)
    (marked : mark ∈ g.marks) (cs : List Char) :
    pair? (ds ++ mark :: cs) = some (Text.digitsValue ds, mark :: cs) := by
  have read := digits?_more takes marked cs
  rw [two] at read
  rw [pair?, read]
  rfl

theorem time?_of_written {years : Option (Nat × Nat)} {month day : Option Nat}
    (written : Written times given cs) :
    time? { years, month, day } cs = some (withTime { years, month, day } given) := by
  cases written with
  | last takes =>
    simp only [time?, pair?_last rfl takes, Option.bind_eq_bind, Option.bind_some]
    rfl
  | more takes _ marked later =>
    have hourRead := pair?_more rfl takes marked
    obtain rfl : _ = ':' := by simpa [MomentField.marks] using marked
    cases later with
    | last takes =>
      simp only [time?, hourRead, pair?_last rfl takes, Option.bind_eq_bind, Option.bind_some]
      rfl
    | more takes _ marked later =>
      have minuteRead := pair?_more rfl takes marked
      obtain rfl : _ = ':' := by simpa [MomentField.marks] using marked
      cases later with
      | last takes =>
        simp only [time?, hourRead, minuteRead, pair?_last rfl takes, Option.bind_eq_bind,
          Option.bind_some]
        rfl
      | more takes _ marked later =>
        have secondRead := pair?_more rfl takes marked
        obtain rfl : _ = '.' := by simpa [MomentField.marks] using marked
        cases later with
        | last takes =>
          have fractionRead : digits? 7 _ = _ := digits?_last takes
          simp only [time?, hourRead, minuteRead, secondRead, fractionRead, Option.bind_eq_bind,
            Option.bind_some]
          rfl

theorem years_eq (ds : List Char) :
    (Text.digitsValue ds * Nat.pow 10 (4 - ds.length),
      (Text.digitsValue ds + 1) * Nat.pow 10 (4 - ds.length) - 1) = yearsOf ds := by
  have nines := Text.digitsValue_replicate_nine (4 - ds.length)
  rw [yearsOf, Text.digitsValue_append, Text.digitsValue_append, Text.digitsValue_replicate_zero,
    List.length_replicate, List.length_replicate, Prod.mk.injEq, Nat.succ_mul]
  simp only [Nat.pow_eq]
  omega

theorem date?_of_written (written : Written (dates ++ times) given cs) :
    ∃ missing, date? cs = some (missing, ofGiven given) ∧
      (0 < missing → (ofGiven given).month = none) := by
  cases written with
  | last takes =>
    have yearRead : digits? 4 _ = _ := digits?_last takes
    refine ⟨4 - cs.length, ?_, fun _ => rfl⟩
    simp only [date?, yearRead, Option.bind_eq_bind, Option.bind_some, years_eq]
    rfl
  | @more _ _ _ ds _ _ _ takes full marked later =>
    have yearRead : ∀ cs, digits? 4 _ = _ := digits?_more takes marked
    obtain rfl : _ = '-' := by simpa [MomentField.marks] using marked
    refine ⟨4 - ds.length, ?_, fun short => by have := full rfl; omega⟩
    cases later with
    | last takes' =>
      simp only [date?, yearRead, pair?_last rfl takes', Option.bind_eq_bind, Option.bind_some,
        years_eq]
      rfl
    | more takes' _ marked later =>
      have monthRead := pair?_more rfl takes' marked
      obtain rfl : _ = '-' := by simpa [MomentField.marks] using marked
      cases later with
      | last takes'' =>
        simp only [date?, yearRead, monthRead, pair?_last rfl takes'', Option.bind_eq_bind,
          Option.bind_some, years_eq]
        rfl
      | @more _ _ _ _ _ mark _ takes'' _ marked later =>
        have dayRead := pair?_more rfl takes'' marked
        have between : mark = ' ' ∨ mark = 'T' := by simpa [MomentField.marks] using marked
        simp only [date?, yearRead, monthRead, dayRead, Option.bind_eq_bind, Option.bind_some,
          years_eq]
        rcases between with rfl | rfl
        all_goals
          simp only [time?_of_written later, true_or, or_true, if_true, Option.bind_some]
          rfl

end Reading

section Spelled

variable {f : MomentField} {ds cs rest : List Char} {given : Components}

theorem takes_of_digits? (read : digits? f.width cs = some (ds, rest)) :
    f.Takes ds ∧ cs = ds ++ rest := by
  simp only [digits?, Option.ite_none_left_eq_some, Option.some.injEq, Prod.mk.injEq,
    Bool.or_eq_true, List.isEmpty_iff, decide_eq_true_eq, not_or, not_lt] at read
  obtain ⟨⟨some_left, short⟩, rfl, rfl⟩ := read
  exact ⟨⟨fun d hd => List.mem_takeWhile_imp hd, some_left, short⟩,
    (List.takeWhile_append_dropWhile).symm⟩

theorem takes_of_pair? {n : Nat} (two : f.width = 2) (read : pair? cs = some (n, rest)) :
    ∃ ds, f.Takes ds ∧ cs = ds ++ rest := by
  rw [pair?, ← two, Option.map_eq_some_iff] at read
  obtain ⟨⟨ds, rest'⟩, read, same⟩ := read
  obtain ⟨-, rfl⟩ := Prod.mk.inj same
  exact ⟨ds, takes_of_digits? read⟩

theorem written_of_time? {p q : MomentPrefix} (read : time? p cs = some q) :
    ∃ given, Written times given cs := by
  simp only [time?, Option.bind_eq_bind, Option.bind_eq_some_iff, Prod.exists] at read
  obtain ⟨_, _, hourRead, read⟩ := read
  obtain ⟨ds, hour, rfl⟩ := takes_of_pair? (f := .hour) rfl hourRead
  split at read
  · exact ⟨_, .last (by simpa using hour)⟩
  · simp only [Option.bind_eq_some_iff, Prod.exists] at read
    obtain ⟨_, _, minuteRead, read⟩ := read
    obtain ⟨ds', minute, rfl⟩ := takes_of_pair? (f := .minute) rfl minuteRead
    refine Exists.imp' ((.hour, ds) :: ·) (fun _ => .beside hour (by decide) (by decide)) ?_
    split at read
    · exact ⟨_, .last (by simpa using minute)⟩
    · simp only [Option.bind_eq_some_iff, Prod.exists] at read
      obtain ⟨_, _, secondRead, read⟩ := read
      obtain ⟨ds'', second, rfl⟩ := takes_of_pair? (f := .second) rfl secondRead
      refine Exists.imp' ((.minute, ds') :: ·) (fun _ => .beside minute (by decide) (by decide)) ?_
      split at read
      · exact ⟨_, .last (by simpa using second)⟩
      · simp only [Option.bind_eq_some_iff, Prod.exists] at read
        obtain ⟨_, left, fractionRead, read⟩ := read
        obtain ⟨fraction, rfl⟩ := takes_of_digits? (f := .fraction) fractionRead
        obtain ⟨rfl, -⟩ : left = [] ∧ _ := by simpa using read
        exact ⟨_, .beside second (by decide) (by decide) (.last (by simpa using fraction))⟩
      · cases read
    · cases read
  · cases read

theorem hour_withTime (p : MomentPrefix) (written : Written times given cs) :
    (p.withTime given).hour.isSome := by
  cases written <;> rfl

theorem written_of_date? {missing : Nat} {p : MomentPrefix} (read : date? cs = some (missing, p))
    (whole : 0 < missing → p.month = none) :
    ∃ given, Written dates given cs ∨ Written (dates ++ times) given cs ∧ p.hour.isSome := by
  simp only [date?, Option.bind_eq_bind, Option.bind_eq_some_iff, Prod.exists] at read
  obtain ⟨ds, _, yearRead, read⟩ := read
  obtain ⟨year, rfl⟩ := takes_of_digits? (f := .year) yearRead
  have short : ds.length ≤ 4 := year.short
  have four {month : Nat} (length : 4 - ds.length = missing) (given : p.month = some month) :
      ds.length = 4 := by
    by_contra fewer
    cases (whole (by omega)).symm.trans given
  split at read
  · exact ⟨_, .inl (.last (by simpa using year))⟩
  · simp only [Option.bind_eq_some_iff, Prod.exists] at read
    obtain ⟨_, _, monthRead, read⟩ := read
    obtain ⟨ds', month, rfl⟩ := takes_of_pair? (f := .month) rfl monthRead
    split at read
    · obtain ⟨length, rfl⟩ := Prod.mk.inj (Option.some.inj read)
      have full := four length rfl
      exact ⟨_, .inl (.more year (fun _ => full) (by decide) (.last (by simpa using month)))⟩
    · simp only [Option.bind_eq_some_iff, Prod.exists] at read
      obtain ⟨_, _, dayRead, read⟩ := read
      obtain ⟨ds'', day, rfl⟩ := takes_of_pair? (f := .day) rfl dayRead
      split at read
      · obtain ⟨length, rfl⟩ := Prod.mk.inj (Option.some.inj read)
        have full := four length rfl
        exact ⟨_, .inl (.more year (fun _ => full) (by decide)
          (.beside month (by decide) (by decide) (.last (by simpa using day))))⟩
      · split at read
        case isTrue between =>
          obtain ⟨q, timeRead, read⟩ := Option.bind_eq_some_iff.1 read
          obtain ⟨given, written⟩ := written_of_time? timeRead
          rw [time?_of_written written, Option.some.injEq] at timeRead
          subst timeRead
          obtain ⟨length, rfl⟩ := Prod.mk.inj (Option.some.inj read)
          have full := four length rfl
          have timed := Written.beside day (by decide)
            (by simpa [MomentField.marks] using between) written
          exact ⟨_, .inr ⟨.more year (fun _ => full) (by decide)
            (.beside month (by decide) (by decide) timed), hour_withTime _ written⟩⟩
        case isFalse => cases read
    · cases read
  · cases read

end Spelled

end MomentPrefix

namespace Written

variable {fs : List MomentField} {given : Components} {cs : List Char} {f g : MomentField}

theorem append (written : Written fs given cs) (gs : List MomentField) :
    Written (fs ++ gs) given cs := by
  induction written with
  | last takes => exact .last takes
  | more takes full marked _ ih => exact .more takes full marked ih

theorem ne_nil (written : Written fs given cs) : cs ≠ [] := by
  cases written with
  | last takes => exact takes.some_left
  | more => simp

theorem takes_of_mem (written : Written fs given cs) : ∀ g ∈ given, g.1.Takes g.2 := by
  induction written with
  | last takes => simpa using takes
  | more takes _ _ _ ih => exact List.forall_mem_cons.2 ⟨takes, ih⟩

theorem map_fst_prefix (written : Written fs given cs) : given.map Prod.fst <+: fs := by
  induction written with
  | last => exact List.prefix_append [_] _
  | more _ _ _ _ ih => exact List.cons_prefix_cons.2 ⟨rfl, ih⟩

theorem lookup_eq_none_iff : given.lookup f = none ↔ f ∉ given.map Prod.fst := by
  rw [List.lookup_eq_none_iff]
  constructor
  · intro differ present
    obtain ⟨g, hg, rfl⟩ := List.mem_map.1 present
    simpa using differ g hg
  · intro absent g hg
    have differ : f ≠ g.1 := fun same => absent (same ▸ List.mem_map_of_mem hg)
    simpa using differ

theorem mem_of_lookup {ds : List Char} (found : given.lookup f = some ds) : (f, ds) ∈ given := by
  obtain ⟨before, after, rfl, -⟩ := List.lookup_eq_some_iff.1 found
  simp

theorem lookup_of_mem (written : Written fs given cs) (distinct : fs.Nodup) {ds : List Char}
    (listed : (f, ds) ∈ given) : given.lookup f = some ds := by
  have nodup := distinct.sublist written.map_fst_prefix.sublist
  obtain ⟨before, after, rfl⟩ := List.append_of_mem listed
  rw [List.lookup_eq_some_iff]
  refine ⟨before, after, rfl, fun g hg => ?_⟩
  rw [List.map_append, List.nodup_append] at nodup
  have differ := nodup.2.2 g.1 (List.mem_map_of_mem hg) f (by simp)
  simpa using differ.symm

theorem lookup_after (written : Written fs given cs)
    (order : g ∈ fs → fs.idxOf f < fs.idxOf g) (absent : given.lookup f = none) :
    given.lookup g = none := by
  rw [lookup_eq_none_iff] at absent ⊢
  intro present
  have later : g ∈ fs := written.map_fst_prefix.subset present
  have order := order later
  have earlier : f ∈ fs :=
    List.idxOf_lt_length_iff.1 (order.trans (List.idxOf_lt_length_of_mem later))
  rw [List.prefix_iff_eq_take.1 written.map_fst_prefix] at absent present
  rw [List.mem_take_iff_idxOf_lt earlier] at absent
  rw [List.mem_take_iff_idxOf_lt later] at present
  omega

theorem lookup_eq_none (written : Written fs given cs) (absent : f ∉ fs) :
    given.lookup f = none :=
  lookup_eq_none_iff.2 fun present => absent (written.map_fst_prefix.subset present)

end Written

namespace DateTimeKind

open MomentPrefix (ofGiven)

def fields : DateTimeKind → List MomentField
  | time => MomentField.times
  | date => MomentField.dates
  | _ => MomentField.dates ++ MomentField.times

theorem prefixOf_of_written {kind : DateTimeKind} {text : String} {given : Components}
    (written : Written kind.fields given text.toList) :
    kind.prefixOf text = .ok (ofGiven given) ∨ ∃ month fault, (ofGiven given).month = some month ∧
      (month < 1 ∨ 12 < month) ∧ kind.prefixOf text = .error fault := by
  by_cases timed : kind = time
  · subst timed
    left
    have years : given.lookup .year = none := written.lookup_eq_none (by decide)
    have month : given.lookup .month = none := written.lookup_eq_none (by decide)
    have day : given.lookup .day = none := written.lookup_eq_none (by decide)
    rw [prefixOf, if_pos rfl, MomentPrefix.time?_of_written written, ofGiven, years, month, day]
    rfl
  · have full : Written (MomentField.dates ++ MomentField.times) given text.toList := by
      cases kind with
      | time => exact absurd rfl timed
      | date => exact written.append MomentField.times
      | _ => exact written
    have untimed : ¬((ofGiven given).hour.isSome ∧ kind = date) := by
      rintro ⟨hour, rfl⟩
      have none_given : given.lookup .hour = none := written.lookup_eq_none (by decide)
      simp [ofGiven, MomentPrefix.withTime, none_given] at hour
    obtain ⟨missing, read, whole⟩ := MomentPrefix.date?_of_written full
    have long : ¬(0 < missing ∧ (ofGiven given).month.isSome) := by
      rintro ⟨short, some_month⟩
      rw [whole short] at some_month
      cases some_month
    rw [prefixOf, if_neg timed, read]
    simp only [if_neg long, if_neg untimed]
    cases some_month : (ofGiven given).month with
    | none => simp
    | some month =>
      cases outside : decide (month < 1) || decide (12 < month) with
      | true =>
        right
        refine ⟨month, .invalidMonth text, rfl, by simpa using outside, ?_⟩
        simp only [Option.any_some, outside, if_true]
      | false =>
        left
        simp only [Option.any_some, outside, Bool.false_eq_true, if_false]

theorem written_of_prefixOf {kind : DateTimeKind} {text : String} {p : MomentPrefix}
    (read : kind.prefixOf text = .ok p) : ∃ given, Written kind.fields given text.toList := by
  by_cases timed : kind = time
  · subst timed
    rw [prefixOf, if_pos rfl] at read
    split at read
    case h_1 timeRead => exact MomentPrefix.written_of_time? timeRead
    case h_2 => cases read
  · rw [prefixOf, if_neg timed] at read
    split at read
    case h_1 => cases read
    case h_2 missing q dateRead =>
      split at read
      case isTrue => cases read
      case isFalse whole =>
        split at read
        case isTrue => cases read
        case isFalse =>
          split at read
          case isTrue => cases read
          case isFalse dated =>
            have alone : 0 < missing → q.month = none := by simpa using whole
            obtain ⟨given, written | ⟨written, hour⟩⟩ :=
              MomentPrefix.written_of_date? dateRead alone
            · cases kind with
              | time => exact absurd rfl timed
              | date => exact ⟨given, written⟩
              | _ => exact ⟨given, written.append MomentField.times⟩
            · cases kind with
              | time => exact absurd rfl timed
              | date => exact absurd ⟨hour, rfl⟩ dated
              | _ => exact ⟨given, written⟩

end DateTimeKind

end RelationAtlas
