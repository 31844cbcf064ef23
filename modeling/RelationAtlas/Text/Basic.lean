/-! # Texts

Blanks and trimming, splitting and replacing, numerals, and names that are not taken yet. -/

namespace RelationAtlas.Text

/-! ## Blanks

The 25 code points of the Unicode property White_Space. Trimming drops blanks at both ends and
keeps those inside. -/

def isBlank (c : Char) : Bool :=
  let n := c.toNat
  (9 ≤ n && n ≤ 13) || n == 0x20 || n == 0x85 || n == 0xA0 || n == 0x1680 ||
    (0x2000 ≤ n && n ≤ 0x200A) || n == 0x2028 || n == 0x2029 || n == 0x202F || n == 0x205F ||
    n == 0x3000

def trimList (cs : List Char) : List Char :=
  ((cs.dropWhile isBlank).reverse.dropWhile isBlank).reverse

def trim (s : String) : String :=
  String.ofList (trimList s.toList)

/-! ## Splitting and replacing

Both look for a pattern from left to right and take occurrences that do not overlap. The counter
runs over the characters of an occurrence that are still to be passed. -/

def piecesFrom (separator : List Char) : Nat → List Char → List Char × List (List Char)
  | _, [] => ([], [])
  | skip + 1, _ :: rest => piecesFrom separator skip rest
  | 0, c :: rest =>
    if separator.isPrefixOf (c :: rest) then
      let next := piecesFrom separator (separator.length - 1) rest
      ([], next.1 :: next.2)
    else
      let next := piecesFrom separator 0 rest
      (c :: next.1, next.2)

/-- The pieces of `s` between the occurrences of `separator`; there is always one. -/
def split (separator s : String) : List String :=
  let pieces := piecesFrom separator.toList 0 s.toList
  (pieces.1 :: pieces.2).map String.ofList

def replaceFrom (pattern image : List Char) : Nat → List Char → List Char
  | _, [] => []
  | skip + 1, _ :: rest => replaceFrom pattern image skip rest
  | 0, c :: rest =>
    if pattern.isPrefixOf (c :: rest) then
      image ++ replaceFrom pattern image (pattern.length - 1) rest
    else c :: replaceFrom pattern image 0 rest

def replace (pattern image s : String) : String :=
  String.ofList (replaceFrom pattern.toList image.toList 0 s.toList)

def doubled (d : Char) (cs : List Char) : List Char :=
  cs.flatMap fun c => if c = d then [d, d] else [c]

def cutAtFirst (mark : Char) : List Char → Option (List Char × List Char)
  | [] => none
  | c :: rest =>
    if c = mark then some ([], rest)
    else (cutAtFirst mark rest).map fun (before, after) => (c :: before, after)

def cutAtLast (mark : Char) : List Char → Option (List Char × List Char)
  | [] => none
  | c :: rest =>
    match cutAtLast mark rest with
    | some (before, after) => some (c :: before, after)
    | none => if c = mark then some ([], rest) else none

theorem doubled_nil (d : Char) : doubled d [] = [] := rfl

theorem doubled_cons (d c : Char) (cs : List Char) :
    doubled d (c :: cs) = (if c = d then [d, d] else [c]) ++ doubled d cs := by
  simp [doubled]

theorem doubled_append (d : Char) (s t : List Char) :
    doubled d (s ++ t) = doubled d s ++ doubled d t := by
  simp [doubled]

theorem doubled_eq_self {d : Char} {cs : List Char} (h : d ∉ cs) : doubled d cs = cs := by
  induction cs with
  | nil => rfl
  | cons c cs ih =>
    simp only [List.mem_cons, not_or] at h
    rw [doubled_cons, ih h.2, if_neg (Ne.symm h.1)]
    rfl

/-! ## Numerals

Whole numbers in decimal digits with at most one sign, of any length, and digits padded to a
width. Only the ASCII digits count. -/

def digitValue (c : Char) : Nat := c.toNat - 48

def digitsValue (cs : List Char) : Nat :=
  cs.foldl (fun n c => 10 * n + digitValue c) 0

def digits? (cs : List Char) : Option Nat :=
  if !cs.isEmpty && cs.all Char.isDigit then some (digitsValue cs) else none

def unsigned? (s : String) : Option Nat :=
  match s.toList with
  | '+' :: cs => digits? cs
  | cs => digits? cs

def signed? (s : String) : Option Int :=
  match s.toList with
  | '+' :: cs => (digits? cs).map Int.ofNat
  | '-' :: cs => (digits? cs).map fun n => -Int.ofNat n
  | cs => (digits? cs).map Int.ofNat

def signedWithin? (least greatest : Int) (s : String) : Option Int :=
  (signed? s).filter fun n => decide (least ≤ n) && decide (n ≤ greatest)

def padded (width n : Nat) : String :=
  let digits := Nat.toDigits 10 n
  String.ofList (List.replicate (width - digits.length) '0' ++ digits)

/-! ## Free names

A name that is taken gets a counter. Among one candidate more than there are taken names one is
free, so the search needs no more than that. -/

def firstFree (name : Nat → String) (taken : List String) : String :=
  name (((List.range (taken.length + 1)).find? fun n => !taken.contains (name n)).getD 0)

def numbered (base : String) : Nat → String
  | 0 => base
  | n + 1 => base ++ toString (n + 2)

end RelationAtlas.Text
