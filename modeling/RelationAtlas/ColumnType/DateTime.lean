import RelationAtlas.ColumnType.Range
import RelationAtlas.Text.Basic

/-! # Date and time columns

A search text is read as the beginning of `YYYY-MM-DD hh:mm:ss.fffffff`, or of the time alone for
a `time` column. What is left out widens the range, and the digits of a year may be left out too.
The range is cut to what the column can hold. -/

namespace RelationAtlas

/-! ## Moments

Dates of the proleptic Gregorian calendar from the year 0 on, with a time of day in nanoseconds.
Moments compare by their components from the year down. -/

structure Moment where
  year : Nat
  month : Nat
  day : Nat
  hour : Nat
  minute : Nat
  second : Nat
  nano : Nat
deriving DecidableEq, Repr

def isLeapYear (year : Nat) : Bool :=
  year % 4 == 0 && (year % 100 != 0 || year % 400 == 0)

def daysInMonth (year month : Nat) : Nat :=
  if month = 2 then (if isLeapYear year then 29 else 28)
  else if month = 4 ∨ month = 6 ∨ month = 9 ∨ month = 11 then 30
  else 31

namespace Moment

def key (m : Moment) : List Nat :=
  [m.year, m.month, m.day, m.hour, m.minute, m.second, m.nano]

def isBefore (m n : Moment) : Bool := decide (m.key < n.key)

def earlier (m n : Moment) : Moment := if m.isBefore n then m else n

def later (m n : Moment) : Moment := if m.isBefore n then n else m

def isValid (m : Moment) : Bool :=
  1 ≤ m.month && m.month ≤ 12 && 1 ≤ m.day && m.day ≤ daysInMonth m.year m.month &&
    m.hour < 24 && m.minute < 60 && m.second < 60 && m.nano < 1000000000

def dateText (m : Moment) : String :=
  Text.padded 4 m.year ++ "-" ++ Text.padded 2 m.month ++ "-" ++ Text.padded 2 m.day

def minuteText (m : Moment) : String :=
  Text.padded 2 m.hour ++ ":" ++ Text.padded 2 m.minute

def secondText (m : Moment) : String := m.minuteText ++ ":" ++ Text.padded 2 m.second

end Moment

/-! ## Search texts -/

inductive DateTimeKind
  | date
  | time
  | smallDateTime
  | dateTime
  | dateTime2
  | dateTimeOffset
deriving DecidableEq, Repr

structure MomentPrefix where
  years : Option (Nat × Nat) := none
  month : Option Nat := none
  day : Option Nat := none
  hour : Option Nat := none
  minute : Option Nat := none
  second : Option Nat := none
  fraction : Option (List Char) := none

namespace MomentPrefix

def digits? (most : Nat) (cs : List Char) : Option (List Char × List Char) :=
  let ds := cs.takeWhile Char.isDigit
  if ds.isEmpty || most < ds.length then none else some (ds, cs.dropWhile Char.isDigit)

def pair? (cs : List Char) : Option (Nat × List Char) :=
  (digits? 2 cs).map fun (ds, rest) => (Text.digitsValue ds, rest)

def time? (p : MomentPrefix) (cs : List Char) : Option MomentPrefix := do
  let (hour, rest) ← pair? cs
  let p := { p with hour := some hour }
  match rest with
  | [] => return p
  | ':' :: rest =>
    let (minute, rest) ← pair? rest
    let p := { p with minute := some minute }
    match rest with
    | [] => return p
    | ':' :: rest =>
      let (second, rest) ← pair? rest
      let p := { p with second := some second }
      match rest with
      | [] => return p
      | '.' :: rest =>
        let (fraction, rest) ← digits? 7 rest
        if rest.isEmpty then return { p with fraction := some fraction } else none
      | _ => none
    | _ => none
  | _ => none

def date? (cs : List Char) : Option (Nat × MomentPrefix) := do
  let (ds, rest) ← digits? 4 cs
  let missing := 4 - ds.length
  let year := Text.digitsValue ds
  let p : MomentPrefix :=
    { years := some (year * Nat.pow 10 missing, (year + 1) * Nat.pow 10 missing - 1) }
  match rest with
  | [] => return (missing, p)
  | '-' :: rest =>
    let (month, rest) ← pair? rest
    let p := { p with month := some month }
    match rest with
    | [] => return (missing, p)
    | '-' :: rest =>
      let (day, rest) ← pair? rest
      let p := { p with day := some day }
      match rest with
      | [] => return (missing, p)
      | c :: rest =>
        if c = ' ' ∨ c = 'T' then
          let p ← time? p rest
          return (missing, p)
        else none
    | _ => none
  | _ => none

def nanos (p : MomentPrefix) (fill : Char) : Nat :=
  let ds := p.fraction.getD []
  Text.digitsValue (ds ++ List.replicate (9 - ds.length) fill)

/-- The first moment that agrees with the components. A time stands on the first day of 2000. -/
def first (p : MomentPrefix) : Moment where
  year := (p.years.map Prod.fst).getD 2000
  month := p.month.getD 1
  day := p.day.getD 1
  hour := p.hour.getD 0
  minute := p.minute.getD 0
  second := p.second.getD 0
  nano := p.nanos '0'

def last (p : MomentPrefix) : Moment :=
  let year := (p.years.map Prod.snd).getD 2000
  let month := p.month.getD (if p.years.isSome then 12 else 1)
  { year
    month
    day := p.day.getD (if p.years.isSome then daysInMonth year month else 1)
    hour := p.hour.getD 23
    minute := p.minute.getD 59
    second := p.second.getD 59
    nano := p.nanos '9' }

end MomentPrefix

namespace DateTimeKind

def sqlName : DateTimeKind → String
  | date => "date"
  | time => "time"
  | smallDateTime => "smalldatetime"
  | dateTime => "datetime"
  | dateTime2 => "datetime2"
  | dateTimeOffset => "datetimeoffset"

def least : DateTimeKind → Moment
  | time => ⟨2000, 1, 1, 0, 0, 0, 0⟩
  | smallDateTime => ⟨1900, 1, 1, 0, 0, 0, 0⟩
  | dateTime => ⟨1753, 1, 1, 0, 0, 0, 0⟩
  | _ => ⟨1, 1, 1, 0, 0, 0, 0⟩

def greatest : DateTimeKind → Moment
  | time => ⟨2000, 1, 1, 23, 59, 59, 999999900⟩
  | smallDateTime => ⟨2079, 6, 6, 23, 59, 0, 0⟩
  | dateTime => ⟨9999, 12, 31, 23, 59, 59, 997000000⟩
  | _ => ⟨9999, 12, 31, 23, 59, 59, 999999900⟩

/-- The text of a moment. Milliseconds of a `datetime` end at 997, beyond which it rounds up. -/
def format (kind : DateTimeKind) (m : Moment) : String :=
  match kind with
  | date => m.dateText
  | time => m.secondText ++ "." ++ Text.padded 7 (m.nano / 100)
  | smallDateTime => m.dateText ++ " " ++ m.minuteText
  | dateTime =>
    m.dateText ++ " " ++ m.secondText ++ "." ++ Text.padded 3 (min (m.nano / 1000000) 997)
  | dateTime2 | dateTimeOffset =>
    m.dateText ++ " " ++ m.secondText ++ "." ++ Text.padded 7 (m.nano / 100)

def prefixOf (kind : DateTimeKind) (text : String) : Except ValueFault MomentPrefix :=
  if kind = time then
    match MomentPrefix.time? {} text.toList with
    | some p => .ok p
    | none => .error (.notTime text)
  else
    match MomentPrefix.date? text.toList with
    | none => .error (.notDate text)
    | some (missing, p) =>
      if 0 < missing ∧ p.month.isSome then .error (.shortYear text)
      else if p.month.any fun month => month < 1 || 12 < month then .error (.invalidMonth text)
      else if p.hour.isSome ∧ kind = date then .error (.unwantedTime text)
      else .ok p

def validate (kind : DateTimeKind) (text : String) : Except ValueFault ValueRange :=
  let text := Text.trim text
  if text.isEmpty then .ok (.between (kind.format kind.least) (kind.format kind.greatest))
  else do
    let p ← kind.prefixOf text
    if !p.first.isValid || !p.last.isValid then throw (.notMoment text kind.sqlName)
    let lower := p.first.later kind.least
    let upper := p.last.earlier kind.greatest
    if upper.isBefore lower then throw (.momentOutOfRange text kind.sqlName)
    return .between (kind.format lower) (kind.format upper)

end DateTimeKind

end RelationAtlas
