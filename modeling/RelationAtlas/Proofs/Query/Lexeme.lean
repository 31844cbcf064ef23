import Mathlib.Tactic.SplitIfs
import RelationAtlas.Query.Token

/-! # Lexemes

The lexical rules of the statements: words, single symbols, identifiers in brackets and literals
in quotes, where a doubled `]` or `'` stands for one that does not end its lexeme. An `N` right
before a quote belongs to the literal. What could open a comment or a name in double quotes is
refused. The lexer is an automaton that passes over each character once. -/

namespace RelationAtlas.Query

inductive Lexeme
  | word (text : String)
  | symbol (c : Char)
  | bracketed (name : String)
  | literal (national : Bool) (value : String)
deriving DecidableEq, Repr

/-- Where the lexer stands. What has been read of a lexeme is kept with the last character
first. -/
inductive LexMode
  | gap
  | word (read : List Char)
  | inBrackets (read : List Char)
  | closingBracket (read : List Char)
  | inQuotes (national : Bool) (read : List Char)
  | closingQuote (national : Bool) (read : List Char)
deriving DecidableEq, Repr

def isWordChar (c : Char) : Bool := c.isAlphanum || ['_', '@', '#', '$'].contains c

def isSymbol (c : Char) : Bool := "(),.;=<>+*%&|^~!:".toList.contains c

def isBoundary (c : Char) : Bool := !isWordChar c && c != ']' && c != '\''

namespace LexMode

def finish? : LexMode → Option (List Lexeme)
  | gap => some []
  | word read => some [.word (String.ofList read.reverse)]
  | closingBracket read => some [.bracketed (String.ofList read.reverse)]
  | closingQuote national read => some [.literal national (String.ofList read.reverse)]
  | inBrackets _ | inQuotes _ _ => none

def extend? : LexMode → Char → Option LexMode
  | gap, _ => none
  | word read, c =>
    if isWordChar c then some (word (c :: read))
    else if c = '\'' ∧ (read = ['N'] ∨ read = ['n']) then some (inQuotes true [])
    else none
  | inBrackets read, c => some (if c = ']' then closingBracket read else inBrackets (c :: read))
  | closingBracket read, c => if c = ']' then some (inBrackets (c :: read)) else none
  | inQuotes national read, c =>
    some (if c = '\'' then closingQuote national read else inQuotes national (c :: read))
  | closingQuote national read, c =>
    if c = '\'' then some (inQuotes national (c :: read)) else none

def begin? (c : Char) : Option (List Lexeme × LexMode) :=
  if isWordChar c then some ([], word [c])
  else if c.isWhitespace then some ([], gap)
  else if c = '[' then some ([], inBrackets [])
  else if c = '\'' then some ([], inQuotes false [])
  else if isSymbol c then some ([.symbol c], gap)
  else none

def step (mode : LexMode) (c : Char) : Option (List Lexeme × LexMode) :=
  match mode.extend? c with
  | some next => some ([], next)
  | none => do
    let ended ← mode.finish?
    let (begun, next) ← begin? c
    return (ended ++ begun, next)

def scan : LexMode → List Char → Option (List Lexeme × LexMode)
  | mode, [] => some ([], mode)
  | mode, c :: cs => do
    let (first, next) ← mode.step c
    let (rest, last) ← scan next cs
    return (first ++ rest, last)

end LexMode

def lexemes? (text : String) : Option (List Lexeme) := do
  let (first, mode) ← LexMode.gap.scan text.toList
  let last ← mode.finish?
  return first ++ last

namespace LexMode

theorem scan_append (mode : LexMode) (cs ds : List Char) : mode.scan (cs ++ ds) = (do
    let (first, next) ← mode.scan cs
    let (rest, last) ← next.scan ds
    return (first ++ rest, last)) := by
  induction cs generalizing mode with
  | nil =>
    simp only [List.nil_append, scan, Option.bind_eq_bind, Option.bind_some]
    cases mode.scan ds <;> rfl
  | cons c cs ih =>
    simp only [List.cons_append, scan, ih]
    cases mode.step c with
    | none => rfl
    | some first =>
      obtain ⟨first, next⟩ := first
      simp only [Option.bind_eq_bind, Option.bind_some]
      cases next.scan cs with
      | none => rfl
      | some rest =>
        obtain ⟨rest, last⟩ := rest
        simp only [Option.bind_some, pure]
        cases last.scan ds with
        | none => rfl
        | some more => simp

theorem scan_append_of_eq {mode next last : LexMode} {cs ds : List Char}
    {first rest : List Lexeme} (hc : mode.scan cs = some (first, next))
    (hd : next.scan ds = some (rest, last)) :
    mode.scan (cs ++ ds) = some (first ++ rest, last) := by
  rw [scan_append, hc]
  simp only [Option.bind_eq_bind, Option.bind_some, hd]
  rfl

end LexMode

/-- Where a text may begin, and where it ends: between lexemes, or possibly at the end of one
that what follows could still go on with. -/
inductive Edge
  | gap
  | any
deriving DecidableEq, Repr

def Edge.Holds : Edge → LexMode → Prop
  | gap, mode => mode = .gap
  | any, _ => True

instance (edge : Edge) (mode : LexMode) : Decidable (edge.Holds mode) :=
  match edge with
  | .gap => inferInstanceAs (Decidable (mode = .gap))
  | .any => inferInstanceAs (Decidable True)

/-- A text has some lexemes wherever it may begin: those that end in it and the one that it ends
with are the one that was open and its own. -/
def Lexes (i o : Edge) (cs : List Char) (ls : List Lexeme) : Prop :=
  ∀ mode ended, i.Holds mode → mode.finish? = some ended → ∃ first next last,
    mode.scan cs = some (first, next) ∧ o.Holds next ∧ next.finish? = some last ∧
      first ++ last = ended ++ ls

namespace Lexes

theorem nil (i : Edge) : Lexes i i [] [] :=
  fun mode ended holds finished => ⟨[], mode, ended, rfl, holds, finished, by simp⟩

theorem append {i j o : Edge} {cs ds : List Char} {ls ms : List Lexeme} (hc : Lexes i j cs ls)
    (hd : Lexes j o ds ms) : Lexes i o (cs ++ ds) (ls ++ ms) := by
  intro mode ended holds finished
  obtain ⟨first, next, open', scanned, holds, finished, same⟩ := hc mode ended holds finished
  obtain ⟨rest, last, final, scanned', holds, finished, same'⟩ := hd next open' holds finished
  refine ⟨first ++ rest, last, final, LexMode.scan_append_of_eq scanned scanned', holds,
    finished, ?_⟩
  rw [List.append_assoc, same', ← List.append_assoc, same, List.append_assoc]

theorem of_any {i o : Edge} {cs : List Char} {ls : List Lexeme} (h : Lexes .any o cs ls) :
    Lexes i o cs ls :=
  fun mode ended _ finished => h mode ended trivial finished

theorem to_any {i o : Edge} {cs : List Char} {ls : List Lexeme} (h : Lexes i o cs ls) :
    Lexes i .any cs ls := by
  intro mode ended holds finished
  obtain ⟨first, next, last, scanned, -, rest⟩ := h mode ended holds finished
  exact ⟨first, next, last, scanned, trivial, rest⟩

theorem lexemes?_eq {i o : Edge} {text : String} {ls : List Lexeme}
    (h : Lexes i o text.toList ls) : lexemes? text = some ls := by
  have begins : i.Holds .gap := by cases i <;> trivial
  obtain ⟨first, next, last, scanned, -, finished, same⟩ := h .gap [] begins rfl
  rw [lexemes?, scanned]
  simp only [Option.bind_eq_bind, Option.bind_some, finished]
  exact congrArg some same

theorem of_scan {o : Edge} {cs : List Char} {first last : List Lexeme} {next : LexMode}
    (scanned : LexMode.gap.scan cs = some (first, next)) (holds : o.Holds next)
    (finished : next.finish? = some last) : Lexes .gap o cs (first ++ last) := by
  rintro mode ended rfl finished'
  cases finished'
  exact ⟨first, next, last, scanned, holds, finished, rfl⟩

theorem extend?_boundary {c : Char} (h : isBoundary c = true) (mode : LexMode)
    {ended : List Lexeme} (finished : mode.finish? = some ended) : mode.extend? c = none := by
  simp only [isBoundary, Bool.and_eq_true, Bool.not_eq_true', bne_iff_ne] at h
  obtain ⟨⟨noWord, noBracket⟩, noQuote⟩ := h
  cases mode <;> simp [LexMode.finish?] at finished <;>
    simp [LexMode.extend?, noWord, noBracket, noQuote]

theorem of_gap {o : Edge} {c : Char} {cs : List Char} {ls : List Lexeme}
    (boundary : isBoundary c = true) (h : Lexes .gap o (c :: cs) ls) :
    Lexes .any o (c :: cs) ls := by
  intro mode ended _ finished
  -- the boundary ends what was open, and then the scan is the one from a gap
  obtain ⟨first, next, last, scanned, holds, finished', same⟩ := h .gap [] rfl rfl
  have onGap := extend?_boundary boundary .gap rfl
  have onMode := extend?_boundary boundary mode finished
  simp only [LexMode.scan, LexMode.step, onGap, onMode, finished] at scanned ⊢
  cases begun : LexMode.begin? c with
  | none =>
    rw [begun] at scanned
    cases scanned
  | some start =>
    obtain ⟨begun', middle⟩ := start
    rw [begun] at scanned
    simp only [LexMode.finish?, Option.bind_eq_bind, Option.bind_some, Option.pure_def] at scanned ⊢
    cases rest : middle.scan cs with
    | none =>
      rw [rest] at scanned
      cases scanned
    | some more =>
      rw [rest] at scanned
      simp only [Option.bind_some, Option.some.injEq, Prod.mk.injEq] at scanned
      obtain ⟨rfl, rfl⟩ := scanned
      refine ⟨_, _, last, rfl, holds, finished', ?_⟩
      simp only [List.nil_append] at same
      rw [← same]
      simp

end Lexes

end RelationAtlas.Query
