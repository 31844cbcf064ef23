import RelationAtlas.Text.Basic

/-! # Ranges of values

Reading a search text against a column gives the inclusive range of values that it may denote,
written as they go into a statement. An absent bound leaves that side open, and a text that
denotes one value has equal bounds. -/

namespace RelationAtlas

structure ValueRange where
  lower : Option String
  upper : Option String
deriving DecidableEq, Repr

namespace ValueRange

def unbounded : ValueRange := ⟨none, none⟩

def exact (value : String) : ValueRange := ⟨some value, some value⟩

def between (lower upper : String) : ValueRange := ⟨some lower, some upper⟩

def isExact (r : ValueRange) : Bool := r.lower.isSome && r.lower == r.upper

end ValueRange

inductive ValueFault
  | notInteger (text type : String)
  | integerOutOfRange (value : Int) (type : String) (least greatest : Int)
  | notDecimal (text : String)
  | notFloat (text : String)
  | tooManyHexDigits (text : String)
  | notGuid (text : String)
  | notDate (text : String)
  | notTime (text : String)
  | shortYear (text : String)
  | invalidMonth (text : String)
  | unwantedTime (text : String)
  | notMoment (text type : String)
  | momentOutOfRange (text type : String)
  | binary
deriving DecidableEq, Repr

def ValueFault.message : ValueFault → String
  | .notInteger text type => "'" ++ text ++ "' is not a valid " ++ type
  | .integerOutOfRange value type least greatest =>
    toString value ++ " is out of range for " ++ type ++ " (" ++ toString least ++ ".." ++
      toString greatest ++ ")"
  | .notDecimal text => "'" ++ text ++ "' is not a valid decimal number"
  | .notFloat text => "'" ++ text ++ "' is not a valid floating point number"
  | .tooManyHexDigits text => "'" ++ text ++ "' has more than 32 hex digits"
  | .notGuid text => "'" ++ text ++ "' is not a valid uniqueidentifier"
  | .notDate text => "'" ++ text ++ "' is not a valid date"
  | .notTime text => "'" ++ text ++ "' is not a valid time"
  | .shortYear text => "'" ++ text ++ "' needs a four digit year before the month"
  | .invalidMonth text => "'" ++ text ++ "' has an invalid month"
  | .unwantedTime text => "'" ++ text ++ "' has a time part but the column is a date"
  | .notMoment text type => "'" ++ text ++ "' is not a valid " ++ type
  | .momentOutOfRange text type => "'" ++ text ++ "' is out of range for " ++ type
  | .binary => "binary values can't be searched"

/-! ## Integer columns

Five widths, `bit` among them as the numbers 0 and 1. A numeral beyond 64 bits is no integer at
all; one within 64 bits but beyond the column's width is out of range. -/

inductive IntegerKind
  | bit
  | tinyInt
  | smallInt
  | int
  | bigInt
deriving DecidableEq, Repr

namespace IntegerKind

def least : IntegerKind → Int
  | bit => 0
  | tinyInt => 0
  | smallInt => -32768
  | int => -2147483648
  | bigInt => -9223372036854775808

def greatest : IntegerKind → Int
  | bit => 1
  | tinyInt => 255
  | smallInt => 32767
  | int => 2147483647
  | bigInt => 9223372036854775807

def sqlName : IntegerKind → String
  | bit => "bit"
  | tinyInt => "tinyint"
  | smallInt => "smallint"
  | int => "int"
  | bigInt => "bigint"

def validate (kind : IntegerKind) (text : String) : Except ValueFault ValueRange :=
  let text := Text.trim text
  if text.isEmpty then .ok (.between (toString kind.least) (toString kind.greatest))
  else match Text.signedWithin? bigInt.least bigInt.greatest text with
    | none => .error (.notInteger text kind.sqlName)
    | some value =>
      if value < kind.least ∨ kind.greatest < value then
        .error (.integerOutOfRange value kind.sqlName kind.least kind.greatest)
      else .ok (.exact (toString value))

end IntegerKind

/-! ## Decimal and floating point columns

A decimal is digits with at most one point and at least one digit, behind at most one sign. A
floating point number may also have an exponent and must be finite in 64 bits. Both are passed on
as they were written. -/

structure PointNumeral where
  whole : List Char
  fraction : List Char

namespace PointNumeral

def dropSign : List Char → List Char
  | '+' :: cs => cs
  | '-' :: cs => cs
  | cs => cs

def read? (cs : List Char) : Option (PointNumeral × List Char) :=
  let whole := cs.takeWhile Char.isDigit
  let next : PointNumeral × List Char :=
    match cs.dropWhile Char.isDigit with
    | '.' :: rest => (⟨whole, rest.takeWhile Char.isDigit⟩, rest.dropWhile Char.isDigit)
    | rest => (⟨whole, []⟩, rest)
  if next.1.whole.isEmpty && next.1.fraction.isEmpty then none else some next

end PointNumeral

def isDecimal (text : String) : Bool :=
  match PointNumeral.read? (PointNumeral.dropSign text.toList) with
  | some (_, rest) => rest.isEmpty
  | none => false

def validateDecimal (text : String) : Except ValueFault ValueRange :=
  let text := Text.trim text
  if text.isEmpty then .ok .unbounded
  else if isDecimal text then .ok (.exact text)
  else .error (.notDecimal text)

def exponent? : List Char → Option Int
  | [] => some 0
  | c :: rest => if c = 'e' ∨ c = 'E' then Text.signed? (String.ofList rest) else none

/-- The least magnitude that rounds beyond the greatest finite number of 64 bits. -/
def overflowBound : Nat := (Nat.pow 2 54 - 1) * Nat.pow 2 970

/-- Whether `mantissa * 10 ^ exponent` stays below the overflow bound. The position of the leading
digit decides far from the bound, so that no huge power is computed. -/
def isFinite (mantissa : Nat) (exponent : Int) : Bool :=
  if mantissa = 0 then true
  else
    let position := (Nat.toDigits 10 mantissa).length + exponent
    if 310 < position then false
    else if position < 300 then true
    else if 0 ≤ exponent then mantissa * Nat.pow 10 exponent.toNat < overflowBound
    else mantissa < overflowBound * Nat.pow 10 (-exponent).toNat

def isFiniteFloat (text : String) : Bool :=
  match PointNumeral.read? (PointNumeral.dropSign text.toList) with
  | some (numeral, rest) =>
    match exponent? rest with
    | some exponent =>
      isFinite (Text.digitsValue (numeral.whole ++ numeral.fraction))
        (exponent - numeral.fraction.length)
    | none => false
  | none => false

def validateFloat (text : String) : Except ValueFault ValueRange :=
  let text := Text.trim text
  if text.isEmpty then .ok .unbounded
  else if isFiniteFloat text then .ok (.exact text)
  else .error (.notFloat text)

/-! ## Guid columns

A guid or the first of its hex digits, with or without dashes and enclosing braces. Fewer than 32
digits stand for every guid that begins with them. -/

namespace Guid

def isHexDigit (c : Char) : Bool :=
  c.isDigit || ('a' ≤ c && c ≤ 'f') || ('A' ≤ c && c ≤ 'F')

def digitsOf (trimmed : List Char) : List Char :=
  let opened := trimmed.dropWhile (· == '\x7b')
  ((opened.reverse.dropWhile (· == '\x7d')).reverse).filter (· != '-')

def fill (c : Char) (digits : List Char) : List Char :=
  digits ++ List.replicate (32 - digits.length) c

/-- The canonical form: lower case, dashes after 8, 12, 16 and 20 digits. -/
def canonical (digits : List Char) : String :=
  let d := digits.map Char.toLower
  String.ofList (d.take 8 ++ '-' :: (d.drop 8).take 4 ++ '-' :: (d.drop 12).take 4 ++
    '-' :: (d.drop 16).take 4 ++ '-' :: d.drop 20)

def validate (text : String) : Except ValueFault ValueRange :=
  let text := Text.trim text
  let digits := digitsOf text.toList
  if digits.isEmpty then .ok .unbounded
  else if 32 < (String.ofList digits).utf8ByteSize then .error (.tooManyHexDigits text)
  else if !digits.all isHexDigit then .error (.notGuid text)
  else if digits.length = 32 then .ok (.exact (canonical digits))
  else .ok (.between (canonical (fill '0' digits)) (canonical (fill 'f' digits)))

end Guid

end RelationAtlas
