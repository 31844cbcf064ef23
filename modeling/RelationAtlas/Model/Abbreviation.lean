import RelationAtlas.Text.Basic
import RelationAtlas.Text.Case

/-! # Abbreviations

A short name for each table of a model. The suggestions for a name are the initials of its words,
its first two letters, and its first letter with each later consonant; the first that is free up
to case wins, and when none is, the initials get a counter. Names claim in ascending order, so
that the outcome does not depend on the order in which they are given. -/

namespace RelationAtlas.Abbreviation

open Text

def isBoundary (previous c : Char) (next : Option Char) : Bool :=
  (isLowercase previous && isUppercase c) || (isLetter previous != isLetter c) ||
    (isUppercase previous && isUppercase c && next.any isLowercase)

/-- The words of the rest of a name, where `word` holds the begun one, last character first. -/
def wordsAfter (word : List Char) : List Char → List (List Char)
  | [] => if word.isEmpty then [] else [word.reverse]
  | c :: rest =>
    if !isLetterOrNumber c then
      (if word.isEmpty then [] else [word.reverse]) ++ wordsAfter [] rest
    else match word with
      | previous :: _ =>
        if isBoundary previous c rest.head? then word.reverse :: wordsAfter [c] rest
        else wordsAfter (c :: word) rest
      | [] => wordsAfter [c] rest

/-- The words of a name: it is split at anything that is no letter or number, where the case goes
up, and where letters meet numbers. -/
def words (name : String) : List (List Char) := wordsAfter [] name.toList

def isVowel (c : Char) : Bool := ['a', 'e', 'i', 'o', 'u', 'y'].contains c.toLower

def isConsonant (c : Char) : Bool := isLetter c && !isVowel c

def firstOfEach (key : Char → Char) (seen : List Char) : List Char → List Char
  | [] => []
  | c :: rest =>
    if seen.contains (key c) then firstOfEach key seen rest
    else c :: firstOfEach key (key c :: seen) rest

def initials (ws : List (List Char)) : String :=
  let cs := ws.flatMap fun w => (w.head?.map upper).getD []
  if cs.isEmpty then "X" else String.ofList cs

/-- The abbreviations of a name that are tried in turn; the first are the initials. -/
def suggestions (name : String) : String × List String :=
  let ws := words name
  let later := match ws.flatten with
    | [] => []
    | first :: rest =>
      let joined := fun c => String.ofList (upper first ++ lower c)
      (rest.take 1).map joined ++
        (firstOfEach Char.toLower [] (rest.filter isConsonant)).map joined
  (initials ws, later)

def choose (claimed : List String) (name : String) : String :=
  let tries := suggestions name
  match (tries.1 :: tries.2).find? fun s => !claimed.contains (toLower s) with
  | some s => s
  | none =>
    let numbered := fun n => tries.1 ++ toString (n + 2)
    numbered (((List.range (claimed.length + 1)).find? fun n =>
      !claimed.contains (toLower (numbered n))).getD 0)

def claimAll {ι : Type} (claimed : List String) : List (String × ι) → List (ι × String)
  | [] => []
  | (name, i) :: rest =>
    let chosen := choose claimed name
    (i, chosen) :: claimAll (toLower chosen :: claimed) rest

def abbreviate (names : List String) : List String :=
  let sorted := names.zipIdx.mergeSort fun a b => decide (a.1 < b.1) || (a.1 == b.1 && a.2 ≤ b.2)
  let chosen := claimAll [] sorted
  (List.range names.length).map fun i => (chosen.lookup i).getD ""

end RelationAtlas.Abbreviation
