/-! # Names as XML names

A query result carries column names and aliases as XML names. A character that cannot stand at
its place is written as `_xHHHH_`, one such group for each of its UTF-16 units, and so is an
underscore before an `x`. Reading takes such groups from left to right without overlap; units
that are no half of a pair next to each other read as U+FFFD. -/

namespace RelationAtlas.XmlName

def startRanges : List (Nat × Nat) := [
  (0x41, 0x5A), (0x5F, 0x5F), (0x61, 0x7A), (0xC0, 0xD6), (0xD8, 0xF6), (0xF8, 0x2FF),
  (0x370, 0x37D), (0x37F, 0x1FFF), (0x200C, 0x200D), (0x2070, 0x218F), (0x2C00, 0x2FEF),
  (0x3001, 0xD7FF), (0xF900, 0xFDCF), (0xFDF0, 0xFFFD)]

def innerRanges : List (Nat × Nat) := [
  (0x2D, 0x2E), (0x30, 0x39), (0xB7, 0xB7), (0x300, 0x36F), (0x203F, 0x2040)]

def within (ranges : List (Nat × Nat)) (c : Char) : Bool :=
  ranges.any fun (first, last) => first ≤ c.toNat && c.toNat ≤ last

def isStart (c : Char) : Bool := within startRanges c

def isInner (c : Char) : Bool := isStart c || within innerRanges c

def units (c : Char) : List Nat :=
  if c.toNat < 0x10000 then [c.toNat]
  else [0xD800 + (c.toNat - 0x10000) / 0x400, 0xDC00 + (c.toNat - 0x10000) % 0x400]

def hexDigit (n : Nat) : Char :=
  if n < 10 then Char.ofNat (0x30 + n) else Char.ofNat (0x37 + n)

def hexValue? (c : Char) : Option Nat :=
  let n := c.toNat
  if 0x30 ≤ n ∧ n ≤ 0x39 then some (n - 0x30)
  else if 0x41 ≤ n ∧ n ≤ 0x46 then some (n - 0x37)
  else if 0x61 ≤ n ∧ n ≤ 0x66 then some (n - 0x57)
  else none

def group (unit : Nat) : List Char :=
  ['_', 'x', hexDigit (unit / 0x1000 % 16), hexDigit (unit / 0x100 % 16),
    hexDigit (unit / 0x10 % 16), hexDigit (unit % 16), '_']

/-- Writes what is left of a name; `valid` says which characters may stand at its place. -/
def encodeFrom (valid : Char → Bool) : List Char → List Char
  | [] => []
  | c :: rest =>
    let opensGroup := c == '_' && rest.head? == some 'x'
    (if valid c && !opensGroup then [c] else (units c).flatMap group) ++ encodeFrom isInner rest

def encode (name : String) : String :=
  String.ofList (encodeFrom isStart name.toList)

inductive Piece
  | literal (c : Char)
  | unit (u : Nat)
deriving DecidableEq, Repr

def unit? (a b c d : Char) : Option Nat := do
  let a ← hexValue? a
  let b ← hexValue? b
  let c ← hexValue? c
  let d ← hexValue? d
  return ((a * 16 + b) * 16 + c) * 16 + d

def pieces : List Char → List Piece
  | '_' :: 'x' :: a :: b :: c :: d :: '_' :: rest =>
    match unit? a b c d with
    | some u => .unit u :: pieces rest
    | none => .literal '_' :: pieces ('x' :: a :: b :: c :: d :: '_' :: rest)
  | c :: rest => .literal c :: pieces rest
  | [] => []

def isHighHalf (u : Nat) : Bool := 0xD800 ≤ u && u ≤ 0xDBFF

def isLowHalf (u : Nat) : Bool := 0xDC00 ≤ u && u ≤ 0xDFFF

def ofUnit (u : Nat) : Char :=
  if isHighHalf u || isLowHalf u then '\uFFFD' else Char.ofNat u

def ofPair (high low : Nat) : Char :=
  Char.ofNat (0x10000 + (high - 0xD800) * 0x400 + (low - 0xDC00))

def ofPieces : List Piece → List Char
  | [] => []
  | .literal c :: rest => c :: ofPieces rest
  | .unit u :: .unit v :: rest =>
    if isHighHalf u && isLowHalf v then ofPair u v :: ofPieces rest
    else ofUnit u :: ofPieces (.unit v :: rest)
  | .unit u :: rest => ofUnit u :: ofPieces rest

def decode (name : String) : String :=
  String.ofList (ofPieces (pieces name.toList))

end RelationAtlas.XmlName
