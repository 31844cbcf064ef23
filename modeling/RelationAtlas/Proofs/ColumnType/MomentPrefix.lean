import RelationAtlas.Proofs.ColumnType.Moment
import RelationAtlas.Proofs.ColumnType.Spelling

/-! # The moments that a prefix stands for

A prefix is filled up to a first and a last moment. The moments of the calendar between these are
those that have every component of the prefix, whichever components are left out. -/

namespace RelationAtlas

/-- A component that is left out is filled with its least and its greatest value, and nothing after
it narrows the range either. -/
theorem getD_between_iff {o : Option Nat} {low high x : Nat} {a b c : List Nat} {later : Prop}
    (within : o = none → low ≤ x ∧ x ≤ high) (rest : a ≤ b ∧ b ≤ c ↔ later)
    (free : o = none → later) :
    o.getD low :: a ≤ x :: b ∧ x :: b ≤ o.getD high :: c ↔ (∀ v ∈ o, v = x) ∧ later := by
  cases o with
  | some v => simp [Text.cons_between_iff, rest]
  | none =>
    obtain ⟨left, right⟩ := within rfl
    obtain ⟨before, after⟩ := rest.2 (free rfl)
    rw [Option.getD_none, Option.getD_none, Text.cons_le_cons_iff_of_le before,
      Text.cons_le_cons_iff_of_le after]
    simp [left, right, free rfl]

def Moment.Agrees (m : Moment) : MomentField × List Char → Prop
  | (.year, ds) => ds <+: (Text.padded 4 m.year).toList
  | (.month, ds) => Text.digitsValue ds = m.month
  | (.day, ds) => Text.digitsValue ds = m.day
  | (.hour, ds) => Text.digitsValue ds = m.hour
  | (.minute, ds) => Text.digitsValue ds = m.minute
  | (.second, ds) => Text.digitsValue ds = m.second
  | (.fraction, ds) => ds <+: (Text.padded 9 m.nano).toList

namespace MomentPrefix

@[mk_iff]
structure AdmitsTime (p : MomentPrefix) (m : Moment) : Prop where
  hour : ∀ v ∈ p.hour, v = m.hour
  minute : ∀ v ∈ p.minute, v = m.minute
  second : ∀ v ∈ p.second, v = m.second
  nano : p.nanos '0' ≤ m.nano ∧ m.nano ≤ p.nanos '9'

@[mk_iff]
structure Admits (p : MomentPrefix) (m : Moment) : Prop where
  years : ∀ r ∈ p.years, r.1 ≤ m.year ∧ m.year ≤ r.2
  month : ∀ v ∈ p.month, v = m.month
  day : ∀ v ∈ p.day, v = m.day
  time : p.AdmitsTime m

/-- What a prefix that is read from a text satisfies. Nothing is given after what is left out,
except that a time is given without a date, and a month follows a single year. -/
structure WellFormed (p : MomentPrefix) : Prop where
  month : p.years = none → p.month = none
  day : p.month = none → p.day = none
  hour : p.years.isSome → p.day = none → p.hour = none
  minute : p.hour = none → p.minute = none
  second : p.minute = none → p.second = none
  fraction : p.second = none → p.fraction = none
  single : p.month.isSome → ∀ r ∈ p.years, r.1 = r.2
  digits : Text.AreDigits (p.fraction.getD [])
  short : (p.fraction.getD []).length ≤ 7

variable {p : MomentPrefix} {m : Moment}

theorem nanos_between (absent : p.fraction = none) (nano : m.nano ≤ 999999999) :
    p.nanos '0' ≤ m.nano ∧ m.nano ≤ p.nanos '9' := by
  have least : p.nanos '0' = 0 := by
    rw [nanos, absent]
    rfl
  have most : p.nanos '9' = 999999999 := by
    rw [nanos, absent]
    decide
  omega

theorem admitsTime_of_hour_eq_none (formed : p.WellFormed) (valid : m.isValid = true)
    (absent : p.hour = none) : p.AdmitsTime m := by
  obtain ⟨-, -, -, -, -, -, -, nano⟩ := Moment.isValid_iff.1 valid
  have minute := formed.minute absent
  have second := formed.second minute
  exact ⟨by simp [absent], by simp [minute], by simp [second],
    nanos_between (formed.fraction second) nano⟩

theorem time_between_iff (formed : p.WellFormed) (valid : m.isValid = true) :
    p.first.key.drop 3 ≤ m.key.drop 3 ∧ m.key.drop 3 ≤ p.last.key.drop 3 ↔ p.AdmitsTime m := by
  obtain ⟨-, -, -, -, hour, minute, second, nano⟩ := Moment.isValid_iff.1 valid
  have noSecond : p.second = none → p.nanos '0' ≤ m.nano ∧ m.nano ≤ p.nanos '9' :=
    fun absent => nanos_between (formed.fraction absent) nano
  have nanos : [p.nanos '0'] ≤ [m.nano] ∧ [m.nano] ≤ [p.nanos '9'] ↔
      p.nanos '0' ≤ m.nano ∧ m.nano ≤ p.nanos '9' := by
    rw [Text.cons_le_cons_iff_of_le le_rfl, Text.cons_le_cons_iff_of_le le_rfl]
  have seconds := getD_between_iff (fun _ => ⟨Nat.zero_le _, second⟩) nanos noSecond
  have minutes := getD_between_iff (fun _ => ⟨Nat.zero_le _, minute⟩) seconds fun absent =>
    ⟨by simp [formed.second absent], noSecond (formed.second absent)⟩
  have hours := getD_between_iff (fun _ => ⟨Nat.zero_le _, hour⟩) minutes fun absent => by
    obtain ⟨-, minute, second, nano⟩ := admitsTime_of_hour_eq_none formed valid absent
    exact ⟨minute, second, nano⟩
  exact hours.trans (admitsTime_iff p m).symm

/-- The moments of the calendar between the first and the last one are those that have the
components. -/
theorem between_iff_admits (formed : p.WellFormed) (valid : m.isValid = true)
    (day : p.years = none → m.SameDay DateTimeKind.time.least) :
    p.first ≤ m ∧ m ≤ p.last ↔ p.Admits m := by
  have time := time_between_iff formed valid
  obtain ⟨monthLeast, monthMost, dayLeast, dayMost, -⟩ := Moment.isValid_iff.1 valid
  have split : ∀ n : Moment, n.key = n.year :: n.month :: n.day :: n.key.drop 3 := fun _ => rfl
  rw [Moment.le_iff_key, Moment.le_iff_key, split, split m, split p.last, MomentPrefix.admits_iff]
  cases given : p.years with
  | none =>
    have month := formed.month given
    obtain ⟨sameYear, sameMonth, sameDay⟩ := day given
    have firsts : p.first.year = m.year ∧ p.first.month = m.month ∧ p.first.day = m.day := by
      simp [first, given, month, formed.day month, sameYear, sameMonth, sameDay, DateTimeKind.least]
    have lasts : p.last.year = m.year ∧ p.last.month = m.month ∧ p.last.day = m.day := by
      simp [last, given, month, formed.day month, sameYear, sameMonth, sameDay, DateTimeKind.least]
    obtain ⟨firstYear, firstMonth, firstDay⟩ := firsts
    obtain ⟨lastYear, lastMonth, lastDay⟩ := lasts
    rw [firstYear, firstMonth, firstDay, lastYear, lastMonth, lastDay, Text.cons_between_iff,
      Text.cons_between_iff, Text.cons_between_iff, time]
    simp [month, formed.day month]
  | some r =>
    cases some_month : p.month with
    | none =>
      -- The whole of every year lies between, and December has 31 days in each.
      have noDay := formed.day some_month
      have whole := admitsTime_of_hour_eq_none formed valid (formed.hour (by simp [given]) noDay)
      have long : m.day ≤ 31 := dayMost.trans (daysInMonth_between _ _).2
      have days := getD_between_iff (o := none) (fun _ => ⟨dayLeast, long⟩) time fun _ => whole
      have months := getD_between_iff (o := none) (fun _ => ⟨monthLeast, monthMost⟩) days
        fun _ => ⟨by simp, whole⟩
      obtain ⟨after, before⟩ := months.2 ⟨by simp, by simp, whole⟩
      have firsts : p.first.year = r.1 ∧ p.first.month = 1 ∧ p.first.day = 1 := by
        simp [first, given, some_month, noDay]
      have lasts : p.last.year = r.2 ∧ p.last.month = 12 ∧ p.last.day = 31 := by
        simp [last, given, some_month, noDay, daysInMonth]
      obtain ⟨firstYear, firstMonth, firstDay⟩ := firsts
      obtain ⟨lastYear, lastMonth, lastDay⟩ := lasts
      simp only [Option.getD_none] at after before
      rw [firstYear, firstMonth, firstDay, lastYear, lastMonth, lastDay,
        Text.cons_le_cons_iff_of_le after, Text.cons_le_cons_iff_of_le before]
      simp [noDay, whole]
    | some v =>
      have single : r.1 = r.2 := formed.single (by simp [some_month]) r given
      have firsts : p.first.year = r.1 ∧ p.first.month = v ∧ p.first.day = p.day.getD 1 := by
        simp [first, given, some_month]
      have lasts : p.last.year = r.1 ∧ p.last.month = v ∧
          p.last.day = p.day.getD (daysInMonth r.1 v) := by
        simp [last, given, some_month, single]
      have years : (∀ s ∈ some r, s.1 ≤ m.year ∧ m.year ≤ s.2) ↔ r.1 = m.year := by
        simp
        omega
      have months : (∀ w ∈ some v, w = m.month) ↔ v = m.month := by simp
      obtain ⟨firstYear, firstMonth, firstDay⟩ := firsts
      obtain ⟨lastYear, lastMonth, lastDay⟩ := lasts
      rw [firstYear, firstMonth, firstDay, lastYear, lastMonth, lastDay, Text.cons_between_iff,
        Text.cons_between_iff, years, months]
      refine and_congr_right fun sameYear => and_congr_right fun sameMonth => ?_
      rw [sameYear, sameMonth]
      exact getD_between_iff (fun _ => ⟨dayLeast, dayMost⟩) time fun absent =>
        admitsTime_of_hour_eq_none formed valid (formed.hour (by simp [given]) absent)

theorem nanos_lt {c : Char} (formed : p.WellFormed) (hc : c.isDigit = true) :
    p.nanos c < 10 ^ 9 := by
  have short := formed.short
  have less := Text.digitsValue_lt (formed.digits.fill hc (9 - (p.fraction.getD []).length))
  rw [List.length_append, List.length_replicate, Nat.add_sub_of_le (by omega)] at less
  exact less

theorem getD_eq_or {o : Option Nat} {x : Nat} (h : ∀ v ∈ o, v = x) (d : Nat) :
    o.getD d = d ∨ o.getD d = x := by
  cases o with
  | none => exact .inl rfl
  | some v => exact .inr (h v rfl)

theorem isValid_of_admits (formed : p.WellFormed) (valid : m.isValid = true) (admits : p.Admits m) :
    p.first.isValid = true ∧ p.last.isValid = true := by
  obtain ⟨monthLeast, monthMost, dayLeast, dayMost, hour, minute, second, nano⟩ :=
    Moment.isValid_iff.1 valid
  have hours := getD_eq_or admits.time.hour
  have minutes := getD_eq_or admits.time.minute
  have seconds := getD_eq_or admits.time.second
  have months := getD_eq_or admits.month
  have most := nanos_lt formed (c := '9') rfl
  have least := admits.time.nano.1
  have days : (1 ≤ p.first.day ∧ p.first.day ≤ daysInMonth p.first.year p.first.month) ∧
      1 ≤ p.last.day ∧ p.last.day ≤ daysInMonth p.last.year p.last.month := by
    cases given : p.day with
    | none =>
      have first_short := daysInMonth_between p.first.year p.first.month
      have last_short := daysInMonth_between p.last.year p.last.month
      have firstDay : p.first.day = 1 := by simp [first, given]
      have lastDay : p.last.day = 1 ∨ p.last.day = daysInMonth p.last.year p.last.month := by
        simp only [last, given, Option.getD_none]
        grind
      omega
    | some d =>
      obtain ⟨v, some_month⟩ := Option.ne_none_iff_exists'.1 fun absent =>
        Option.some_ne_none d (given.symm.trans (formed.day absent))
      obtain ⟨r, some_years⟩ := Option.ne_none_iff_exists'.1 fun absent =>
        Option.some_ne_none v (some_month.symm.trans (formed.month absent))
      have single : r.1 = r.2 := formed.single (by simp [some_month]) r some_years
      have year := admits.years r some_years
      have month : v = m.month := admits.month v some_month
      have day : d = m.day := admits.day d given
      obtain rfl : r = (m.year, m.year) := by
        ext
        · omega
        · omega
      simp [first, last, some_years, some_month, given, month, day, dayLeast, dayMost]
  rw [Moment.isValid_iff, Moment.isValid_iff]
  refine ⟨⟨?_, ?_, days.1.1, days.1.2, ?_, ?_, ?_, ?_⟩, ?_, ?_, days.2.1, days.2.2, ?_, ?_, ?_, ?_⟩
  all_goals
    simp only [first, last]
    grind

variable {kind : DateTimeKind} {given : Components} {cs : List Char}

theorem single_of_written {fs : List MomentField} (written : Written (.year :: fs) given cs)
    (more : (ofGiven given).month.isSome) : ∀ r ∈ (ofGiven given).years, r.1 = r.2 := by
  cases written with
  | last => cases more
  | more _ full =>
    have length := full rfl
    simp [ofGiven, withTime, yearsOf, length]

theorem wellFormed_of_written (written : Written kind.fields given cs) :
    (ofGiven given).WellFormed := by
  have takes : ∀ {f ds}, given.lookup f = some ds → f.Takes ds :=
    fun found => written.takes_of_mem _ (Written.mem_of_lookup found)
  have after : ∀ f g, (g ∈ kind.fields → kind.fields.idxOf f < kind.fields.idxOf g) →
      given.lookup f = none → given.lookup g = none := fun _ _ => written.lookup_after
  constructor
  case month => simpa [ofGiven, withTime] using after .year .month (by cases kind <;> decide)
  case day => simpa [ofGiven, withTime] using after .month .day (by cases kind <;> decide)
  case minute => simpa [ofGiven, withTime] using after .hour .minute (by cases kind <;> decide)
  case second => simpa [ofGiven, withTime] using after .minute .second (by cases kind <;> decide)
  case fraction =>
    simpa [ofGiven, withTime] using after .second .fraction (by cases kind <;> decide)
  case hour =>
    intro dated
    by_cases timed : kind = .time
    · subst timed
      have none_given : given.lookup .year = none := written.lookup_eq_none (by decide)
      simp [ofGiven, withTime, none_given] at dated
    · simpa [ofGiven, withTime] using after .day .hour (by cases kind <;> simp_all <;> decide)
  case single =>
    cases kind with
    | time =>
      have none_given : given.lookup .year = none := written.lookup_eq_none (by decide)
      simp [ofGiven, withTime, none_given]
    | _ => exact single_of_written written
  case digits =>
    change Text.AreDigits ((given.lookup .fraction).getD [])
    cases found : given.lookup .fraction with
    | none => simp [Text.AreDigits]
    | some ds => exact (takes found).digits
  case short =>
    change ((given.lookup .fraction).getD []).length ≤ 7
    cases found : given.lookup .fraction with
    | none => simp
    | some ds => exact (takes found).short

theorem agrees_fraction_iff (formed : (ofGiven given).WellFormed) (nano : m.nano < 10 ^ 9) :
    (∀ ds, given.lookup .fraction = some ds → m.Agrees (.fraction, ds)) ↔
      (ofGiven given).nanos '0' ≤ m.nano ∧ m.nano ≤ (ofGiven given).nanos '9' := by
  have short := formed.short.trans (show 7 ≤ 9 by decide)
  have between := Text.prefix_padded_iff formed.digits short (by decide) nano
  refine Iff.trans ?_ between
  change _ ↔ (given.lookup .fraction).getD [] <+: (Text.padded 9 m.nano).toList
  cases given.lookup .fraction <;> simp [Moment.Agrees]

theorem agrees_iff_admits (written : Written kind.fields given cs) (fits : m.Fits) :
    (∀ g ∈ given, m.Agrees g) ↔ (ofGiven given).Admits m := by
  have distinct : kind.fields.Nodup := by cases kind <;> decide
  have each : (∀ g ∈ given, m.Agrees g) ↔
      ∀ f ds, given.lookup f = some ds → m.Agrees (f, ds) := by
    constructor
    · intro h f ds found
      exact h (f, ds) (Written.mem_of_lookup found)
    · rintro h ⟨f, ds⟩ listed
      exact h f ds (written.lookup_of_mem distinct listed)
  have year : ∀ ds, given.lookup .year = some ds →
      (m.Agrees (.year, ds) ↔ (yearsOf ds).1 ≤ m.year ∧ m.year ≤ (yearsOf ds).2) := by
    intro ds found
    have takes := written.takes_of_mem _ (Written.mem_of_lookup found)
    exact Text.prefix_padded_iff takes.digits takes.short (by decide) fits.year
  have fraction := agrees_fraction_iff (wellFormed_of_written written) fits.nano
  have read : ∀ {f ds}, given.lookup f = some ds →
      Text.digitsValue ds ∈ (given.lookup f).map Text.digitsValue :=
    fun found => Option.mem_map_of_mem _ found
  rw [each, admits_iff, admitsTime_iff, ← fraction]
  constructor
  · intro h
    refine ⟨?_, ?_, ?_, ?_, ?_, ?_, h .fraction⟩
    · intro r hr
      obtain ⟨ds, found, rfl⟩ := Option.map_eq_some_iff.1 hr
      exact (year ds found).1 (h .year ds found)
    all_goals
      intro v hv
      obtain ⟨ds, found, rfl⟩ := Option.map_eq_some_iff.1 hv
      exact h _ ds found
  · rintro ⟨years, month, day, hour, minute, second, fraction⟩ f ds found
    cases f with
    | year => exact (year ds found).2 (years _ (Option.mem_map_of_mem _ found))
    | month => exact month _ (read found)
    | day => exact day _ (read found)
    | hour => exact hour _ (read found)
    | minute => exact minute _ (read found)
    | second => exact second _ (read found)
    | fraction => exact fraction ds found

end MomentPrefix

end RelationAtlas
