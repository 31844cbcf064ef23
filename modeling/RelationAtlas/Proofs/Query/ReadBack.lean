import RelationAtlas.Proofs.ObjectName
import RelationAtlas.Proofs.Outcome
import RelationAtlas.Proofs.Query.StatementLexemes

/-! # Conditions are read back

A reader of the conditions of a statement that knows their operators from SQL and nothing of how
they are written here: a text is split into lexemes, lists at the word between their members. What
is written for a condition, for a choice, for a list of predicates and for the matching flag is read
as just that, so the outcomes that conditions have are those of the text. -/

namespace RelationAtlas.Query

def Condition.read? : List Lexeme → Option Condition
  | .bracketed a :: .symbol '.' :: .bracketed name :: comparison =>
    match comparison with
    | [.symbol '=', .literal true value] => some (.equals ⟨a, name⟩ value)
    | [.word "is", .word "null"] => some (.isNull ⟨a, name⟩)
    | [.symbol '>', .symbol '=', .literal true value] => some (.atLeast ⟨a, name⟩ value)
    | [.symbol '<', .symbol '=', .literal true value] => some (.atMost ⟨a, name⟩ value)
    | [.word "like", .literal true pattern] => some (.like ⟨a, name⟩ pattern)
    | [.symbol '=', .bracketed b, .symbol '.', .bracketed other] =>
      some (.joins ⟨a, name⟩ ⟨b, other⟩)
    | _ => none
  | _ => none

def readSeparated? {α : Type} (word : String) (read? : List Lexeme → Option α)
    (ls : List Lexeme) : Option (List α) :=
  (ls.splitOn (.word word)).mapM read?

def Predicate.read? : List Lexeme → Option Predicate
  | [.word "1", .symbol '=', .word "0"] => some (.anyOf [])
  | .symbol '(' :: rest =>
    if rest.getLast? = some (.symbol ')') then
      (readSeparated? "or" Condition.read? rest.dropLast).map .anyOf
    else none
  | ls => (Condition.read? ls).map .condition

/-- Reads a flag from its end: its conditions, and the name that it is selected under. -/
def readFlag? : List Lexeme → Option (List Condition × String)
  | .word "case" :: .word "when" :: rest =>
    match rest.reverse with
    | .bracketed name :: .word "end" :: .word "0" :: .word "else" :: .word "1" :: .word "then" ::
        conditions =>
      (readSeparated? "and" Condition.read? conditions.reverse).map fun cs => (cs, name)
    | _ => none
  | _ => none

def lexemesOf (ts : List Token) : List Lexeme := ts.flatMap Token.lexemes

theorem lexemesOf_append (ts us : List Token) :
    lexemesOf (ts ++ us) = lexemesOf ts ++ lexemesOf us := List.flatMap_append

theorem lexemesOf_raw {text : String} {ls : List Lexeme} (h : lexemes? text = some ls) :
    lexemesOf [.raw text] = ls := by
  rw [lexemesOf, List.flatMap_singleton, Token.lexemes, h, Option.getD_some]

namespace ColumnRef

def lexemes (c : ColumnRef) : List Lexeme :=
  [.bracketed c.tableAlias, .symbol '.', .bracketed c.column]

theorem lexemesOf_tokens (c : ColumnRef) : lexemesOf c.tokens = c.lexemes := by
  have dot : lexemesOf [.raw "."] = [.symbol '.'] := lexemesOf_raw (by decide +kernel)
  change lexemesOf ([.identifier c.tableAlias] ++ ([.raw "."] ++ [.identifier c.column])) = _
  rw [lexemesOf_append, lexemesOf_append, dot]
  rfl

end ColumnRef

namespace Condition

def column : Condition → ColumnRef
  | equals c _ | isNull c | atLeast c _ | atMost c _ | like c _ | joins c _ => c

def comparison : Condition → List Lexeme
  | equals _ value => [.symbol '=', .literal true value]
  | isNull _ => [.word "is", .word "null"]
  | atLeast _ value => [.symbol '>', .symbol '=', .literal true value]
  | atMost _ value => [.symbol '<', .symbol '=', .literal true value]
  | like _ pattern => [.word "like", .literal true pattern]
  | joins _ d => .symbol '=' :: d.lexemes

def lexemes (c : Condition) : List Lexeme := c.column.lexemes ++ c.comparison

theorem lexemesOf_tokens (c : Condition) : lexemesOf c.tokens = c.lexemes := by
  have behind (c : ColumnRef) (ls : List Lexeme) {text : String} (h : lexemes? text = some ls)
      (ts : List Token) : lexemesOf (c.tokens ++ ([.raw text] ++ ts)) =
        c.lexemes ++ (ls ++ lexemesOf ts) := by
    rw [lexemesOf_append, lexemesOf_append, c.lexemesOf_tokens, lexemesOf_raw h]
  cases c with
  | equals c value => exact behind c [.symbol '='] (by decide +kernel) [.literal value]
  | isNull c => exact behind c [.word "is", .word "null"] (by decide +kernel) []
  | atLeast c value =>
    exact behind c [.symbol '>', .symbol '='] (by decide +kernel) [.literal value]
  | atMost c value =>
    exact behind c [.symbol '<', .symbol '='] (by decide +kernel) [.literal value]
  | like c pattern => exact behind c [.word "like"] (by decide +kernel) [.literal pattern]
  | joins c d =>
    rw [tokens, List.append_assoc, behind c [.symbol '='] (by decide +kernel), d.lexemesOf_tokens]
    rfl

theorem read?_lexemes (c : Condition) : read? c.lexemes = some c := by
  cases c <;> rfl

theorem word_not_mem_lexemes {word : String} (h : word ∉ ["is", "null", "like"])
    (c : Condition) : .word word ∉ c.lexemes := by
  simp only [List.mem_cons, List.not_mem_nil, or_false, not_or] at h
  cases c <;> simp [lexemes, comparison, ColumnRef.lexemes, h]

end Condition

theorem lexemesOf_joined {separator : String} {l : Lexeme} (h : lexemes? separator = some [l])
    (items : List (List Token)) :
    lexemesOf (joined separator items) = [l].intercalate (items.map lexemesOf) := by
  induction items with
  | nil => rfl
  | cons item items ih =>
    cases items with
    | nil => simp [joined]
    | cons next items =>
      rw [joined_cons_cons, lexemesOf_append, lexemesOf_append, lexemesOf_raw h, ih]
      simp

/-- A list is read as its members, if no member holds the word between them. -/
theorem readSeparated?_intercalate {α : Type} (word : String) {read? : List Lexeme → Option α}
    {lexemes : α → List Lexeme} {xs : List α} (some_ : xs ≠ [])
    (each : ∀ x ∈ xs, read? (lexemes x) = some x ∧ .word word ∉ lexemes x) :
    readSeparated? word read? ([.word word].intercalate (xs.map lexemes)) = some xs := by
  rw [readSeparated?, List.splitOn_intercalate, mapM_eq_some_iff, List.forall₂_map_left_iff,
    List.forall₂_same]
  · exact fun x hx => (each x hx).1
  · intro ls hls
    obtain ⟨x, hx, rfl⟩ := List.mem_map.1 hls
    exact (each x hx).2
  · simpa using some_

namespace Predicate

def lexemes : Predicate → List Lexeme
  | condition c => c.lexemes
  | anyOf [] => [.word "1", .symbol '=', .word "0"]
  | anyOf (c :: cs) =>
    [.symbol '('] ++ [.word "or"].intercalate ((c :: cs).map Condition.lexemes) ++ [.symbol ')']

theorem lexemesOf_tokens (p : Predicate) : lexemesOf p.tokens = p.lexemes := by
  cases p with
  | condition c => exact c.lexemesOf_tokens
  | anyOf cs =>
    cases cs with
    | nil => exact lexemesOf_raw (by decide +kernel)
    | cons c cs =>
      have opened : lexemesOf [.raw "("] = [.symbol '('] := lexemesOf_raw (by decide +kernel)
      have closed : lexemesOf [.raw ")"] = [.symbol ')'] := lexemesOf_raw (by decide +kernel)
      have between : lexemes? " or " = some [.word "or"] := by decide +kernel
      change lexemesOf ([.raw "("] ++ joined " or " ((c :: cs).map Condition.tokens) ++
        [.raw ")"]) = _
      rw [lexemesOf_append, lexemesOf_append, opened, closed, lexemesOf_joined between,
        List.map_map, lexemes]
      simp [Function.comp_def, Condition.lexemesOf_tokens]

theorem read?_lexemes (p : Predicate) : read? p.lexemes = some p := by
  cases p with
  | condition c =>
    change (Condition.read? c.lexemes).map condition = _
    rw [c.read?_lexemes]
    rfl
  | anyOf cs =>
    cases cs with
    | nil => rfl
    | cons c cs =>
      have members := readSeparated?_intercalate "or" (List.cons_ne_nil c cs) fun c _ =>
        ⟨c.read?_lexemes, c.word_not_mem_lexemes (by decide)⟩
      rw [lexemes, List.append_assoc, List.singleton_append, read?, List.getLast?_concat,
        if_pos rfl, List.dropLast_concat, members]
      rfl

theorem word_not_mem_lexemes {word : String} (h : word ∉ ["is", "null", "like", "or", "1", "0"])
    (p : Predicate) : .word word ∉ p.lexemes := by
  simp only [List.mem_cons, List.not_mem_nil, or_false, not_or] at h
  obtain ⟨noIs, noNull, noLike, noOr, noOne, noZero⟩ := h
  have plain : word ∉ ["is", "null", "like"] := by simp [noIs, noNull, noLike]
  cases p with
  | condition c => exact c.word_not_mem_lexemes plain
  | anyOf cs =>
    cases cs with
    | nil => simp [lexemes, noOne, noZero]
    | cons c cs =>
      intro inside
      rw [lexemes, List.mem_append, List.mem_append] at inside
      rcases inside with (opened | members) | closed
      · simp at opened
      · rcases Text.mem_of_mem_intercalate members with between | ⟨ls, hls, within⟩
        · simp [noOr] at between
        · obtain ⟨d, -, rfl⟩ := List.mem_map.1 hls
          exact d.word_not_mem_lexemes plain within
      · simp at closed

end Predicate

theorem readFlag?_tokens {cs : List Condition} (some_ : cs ≠ []) :
    readFlag? (lexemesOf (flagTokens cs)) = some (cs, matchingColumn) := by
  have opened : lexemesOf [.raw "case when "] = [.word "case", .word "when"] :=
    lexemesOf_raw (by decide +kernel)
  have closed : lexemesOf [.raw " then 1 else 0 end "] =
      [.word "then", .word "1", .word "else", .word "0", .word "end"] :=
    lexemesOf_raw (by decide +kernel)
  have between : lexemes? " and " = some [.word "and"] := by decide +kernel
  have members := readSeparated?_intercalate "and" some_ fun c _ =>
    ⟨c.read?_lexemes, c.word_not_mem_lexemes (by decide)⟩
  change readFlag? (lexemesOf ([.raw "case when "] ++ joined " and " (cs.map Condition.tokens) ++
    ([.raw " then 1 else 0 end "] ++ [.identifier matchingColumn]))) = _
  rw [lexemesOf_append, lexemesOf_append, lexemesOf_append, opened, closed,
    lexemesOf_joined between, List.map_map]
  change readFlag? (.word "case" :: .word "when" :: (_ ++ [.word "then", .word "1", .word "else",
    .word "0", .word "end", .bracketed matchingColumn])) = _
  rw [readFlag?, List.reverse_append]
  simp [Function.comp_def, Condition.lexemesOf_tokens, members]

/-- What is written for a condition is read as this condition. -/
theorem Condition.read_back (c : Condition) :
    (lexemes? (render c.tokens)).bind read? = some c := by
  rw [lexemes?_render c.reads.of_any]
  change read? (lexemesOf c.tokens) = some c
  rw [c.lexemesOf_tokens, c.read?_lexemes]

theorem Predicate.read_back (p : Predicate) :
    (lexemes? (render p.tokens)).bind read? = some p := by
  rw [lexemes?_render p.reads]
  change read? (lexemesOf p.tokens) = some p
  rw [p.lexemesOf_tokens, p.read?_lexemes]

theorem predicates_read_back {ps : List Predicate} (some_ : ps ≠ []) :
    (lexemes? (render (joined " and " (ps.map Predicate.tokens)))).bind
      (readSeparated? "and" Predicate.read?) = some ps := by
  have between : lexemes? " and " = some [.word "and"] := by decide +kernel
  have reads : Reads .gap .any (joined " and " (ps.map Predicate.tokens)) := by
    refine Reads.joined (Reads.raw (by decide +kernel)) fun item hitem => ?_
    obtain ⟨p, -, rfl⟩ := List.mem_map.1 hitem
    exact p.reads
  rw [lexemes?_render reads]
  change readSeparated? "and" Predicate.read? (lexemesOf _) = _
  rw [lexemesOf_joined between, List.map_map]
  exact readSeparated?_intercalate "and" some_ fun p _ => by
    rw [Function.comp_apply, p.lexemesOf_tokens]
    exact ⟨p.read?_lexemes, p.word_not_mem_lexemes (by decide)⟩

/-- The flag that is written for conditions is read as one over these conditions. -/
theorem flag_read_back {cs : List Condition} (some_ : cs ≠ []) :
    (lexemes? (render (flagTokens cs))).bind readFlag? = some (cs, matchingColumn) := by
  rw [lexemes?_render (reads_flag cs)]
  exact readFlag?_tokens some_

end RelationAtlas.Query
