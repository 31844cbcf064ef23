import RelationAtlas.Proofs.Query.Lexeme

/-! # Tokens are read back

An identifier and a literal are read as one lexeme that holds the name or the value they were
written from. Text between them is read as its own lexemes, among which there is no identifier and
no national literal. -/

namespace RelationAtlas.Query

/-- What a lexeme was written from, if it is an identifier or a national literal. -/
def Lexeme.atom? : Lexeme → Option Token
  | bracketed name => some (.identifier name)
  | literal true value => some (.literal value)
  | _ => none

namespace Token

def lexemes : Token → List Lexeme
  | raw text => (lexemes? text).getD []
  | identifier name => [.bracketed name]
  | literal value => [.literal true value]

def isAtom : Token → Bool
  | raw _ => false
  | identifier _ | literal _ => true

end Token

namespace LexMode

theorem scan_cons {mode next last : LexMode} {c : Char} {cs : List Char} {first rest : List Lexeme}
    (hc : mode.step c = some (first, next)) (hcs : next.scan cs = some (rest, last)) :
    mode.scan (c :: cs) = some (first ++ rest, last) := by
  rw [scan, hc]
  simp only [Option.bind_eq_bind, Option.bind_some, hcs]
  rfl

theorem step_of_extend {mode next : LexMode} {c : Char} (h : mode.extend? c = some next) :
    mode.step c = some ([], next) := by
  rw [step, h]

/-- A lexeme that ends with `q` is read to its end when every `q` in it is doubled. -/
theorem scan_doubled {q : Char} {inside closing : List Char → LexMode}
    (within : ∀ read c, (inside read).extend? c =
      some (if c = q then closing read else inside (c :: read)))
    (again : ∀ read, (closing read).extend? q = some (inside (q :: read)))
    (cs read : List Char) : (inside read).scan (Text.doubled q cs ++ [q]) =
      some ([], closing (cs.reverse ++ read)) := by
  have ends : ∀ read, (inside read).step q = some ([], closing read) := by
    intro read
    apply step_of_extend
    rw [within, if_pos rfl]
  induction cs generalizing read with
  | nil => exact scan_cons (ends read) rfl
  | cons c cs ih =>
    rw [Text.doubled_cons, List.reverse_cons, List.append_assoc, List.append_assoc,
      List.singleton_append]
    split_ifs with same
    · subst same
      exact scan_cons (ends read) (scan_cons (step_of_extend (again read)) (ih _))
    · have goes : (inside read).extend? c = some (inside (c :: read)) := by
        rw [within, if_neg same]
      exact scan_cons (step_of_extend goes) (ih _)

theorem scan_brackets (cs read : List Char) : (inBrackets read).scan
    (Text.doubled ']' cs ++ [']']) = some ([], closingBracket (cs.reverse ++ read)) :=
  scan_doubled (fun _ _ => rfl) (fun _ => rfl) cs read

theorem scan_quotes (national : Bool) (cs read : List Char) : (inQuotes national read).scan
    (Text.doubled '\'' cs ++ ['\'']) = some ([], closingQuote national (cs.reverse ++ read)) :=
  scan_doubled (fun _ _ => rfl) (fun _ => rfl) cs read

theorem scan_word {cs : List Char} (word : ∀ c ∈ cs, isWordChar c = true) (read : List Char) :
    (LexMode.word read).scan cs = some ([], .word (cs.reverse ++ read)) := by
  induction cs generalizing read with
  | nil => rfl
  | cons c cs ih =>
    have longer : (LexMode.word read).extend? c = some (.word (c :: read)) := by
      rw [extend?, if_pos (word c List.mem_cons_self)]
    rw [List.reverse_cons, List.append_assoc]
    refine scan_cons (step_of_extend longer) (ih ?_ _)
    exact fun d hd => word d (List.mem_cons_of_mem _ hd)

end LexMode

theorem lexes_identifier (name : String) :
    Lexes .any .any (escapePart name).toList [.bracketed name] := by
  have scanned : LexMode.gap.scan ('[' :: (Text.doubled ']' name.toList ++ [']'])) =
      some ([], .closingBracket name.toList.reverse) := by
    have opened : LexMode.gap.step '[' = some ([], .inBrackets []) := by decide
    have inside := LexMode.scan_brackets name.toList []
    rw [List.append_nil] at inside
    exact LexMode.scan_cons opened inside
  rw [escapePart, String.toList_ofList]
  refine Lexes.of_gap (by decide) ?_
  have := Lexes.of_scan (o := .any) scanned trivial rfl
  rwa [List.reverse_reverse, String.ofList_toList] at this

theorem lexes_literal (value : String) :
    Lexes .gap .any (quote value).toList [.literal true value] := by
  have scanned : LexMode.gap.scan ('N' :: '\'' :: (Text.doubled '\'' value.toList ++ ['\''])) =
      some ([], .closingQuote true value.toList.reverse) := by
    have marked : LexMode.gap.step 'N' = some ([], .word ['N']) := by decide
    have opened : (LexMode.word ['N']).step '\'' = some ([], .inQuotes true []) := by decide
    have inside := LexMode.scan_quotes true value.toList []
    rw [List.append_nil] at inside
    exact LexMode.scan_cons marked (LexMode.scan_cons opened inside)
  rw [quote, String.toList_ofList]
  have := Lexes.of_scan (o := .any) scanned trivial rfl
  rwa [List.reverse_reverse, String.ofList_toList] at this

theorem lexes_word {text : String} (word : ∀ c ∈ text.toList, isWordChar c = true)
    (some : text.toList ≠ []) : Lexes .gap .any text.toList [.word text] := by
  cases split : text.toList with
  | nil => exact absurd split some
  | cons c cs =>
    rw [split] at word
    have begun : LexMode.gap.step c = .some ([], .word [c]) := by
      have : LexMode.begin? c = .some ([], .word [c]) := by
        rw [LexMode.begin?, if_pos (word c List.mem_cons_self)]
      rw [LexMode.step, LexMode.extend?, this]
      rfl
    have longer := LexMode.scan_word (fun d hd => word d (List.mem_cons_of_mem _ hd)) [c]
    have := Lexes.of_scan (o := .any) (LexMode.scan_cons begun longer) trivial rfl
    rwa [← List.reverse_cons, List.reverse_reverse, ← split, String.ofList_toList, split] at this

theorem lexes_digits (n : Nat) : Lexes .gap .any (toString n).toList [.word (toString n)] := by
  rw [Nat.toString_eq_repr]
  refine lexes_word ?_ ?_
  · intro c hc
    rw [Nat.toList_repr] at hc
    have := Nat.isDigit_of_mem_toDigits (by decide) (by decide) hc
    simp [isWordChar, Char.isAlphanum, this]
  · rw [Nat.toList_repr]
    exact Nat.toDigits_ne_nil

structure Reads (i o : Edge) (ts : List Token) : Prop where
  lexes : Lexes i o (ts.flatMap fun t => t.text.toList) (ts.flatMap Token.lexemes)
  atoms : (ts.flatMap Token.lexemes).filterMap Lexeme.atom? = ts.filter Token.isAtom

namespace Reads

variable {i j o : Edge} {ts us : List Token}

theorem nil (i : Edge) : Reads i i [] := ⟨Lexes.nil i, rfl⟩

theorem append (ht : Reads i j ts) (hu : Reads j o us) : Reads i o (ts ++ us) := by
  refine ⟨?_, ?_⟩
  · rw [List.flatMap_append, List.flatMap_append]
    exact ht.lexes.append hu.lexes
  · rw [List.flatMap_append, List.filterMap_append, List.filter_append, ht.atoms, hu.atoms]

theorem of_any (h : Reads .any o ts) : Reads i o ts := ⟨h.lexes.of_any, h.atoms⟩

theorem to_any (h : Reads i o ts) : Reads i .any ts := ⟨h.lexes.to_any, h.atoms⟩

theorem identifier (name : String) : Reads .any .any [.identifier name] := by
  refine ⟨?_, rfl⟩
  simpa [Token.text, Token.lexemes] using lexes_identifier name

theorem literal (value : String) : Reads .gap .any [.literal value] := by
  refine ⟨?_, rfl⟩
  simpa [Token.text, Token.lexemes] using lexes_literal value

theorem raw_of_lexes {text : String} (ls : List Lexeme) (lexes : Lexes i o text.toList ls)
    (plain : ∀ l ∈ ls, l.atom? = none) : Reads i o [.raw text] := by
  have own : Token.lexemes (.raw text) = ls := by rw [Token.lexemes, lexes.lexemes?_eq]; rfl
  refine ⟨?_, ?_⟩
  · simpa [Token.text, own] using lexes
  · rw [List.flatMap_singleton, own]
    exact List.filterMap_eq_nil_iff.2 plain

end Reads

theorem joined_cons_cons (separator : String) (item next : List Token)
    (items : List (List Token)) : joined separator (item :: next :: items) =
      item ++ ([.raw separator] ++ joined separator (next :: items)) := by
  simp [joined]

def fits (i o : Edge) (text : String) : Bool :=
  (i == .gap || text.toList.head?.any isBoundary) &&
    match LexMode.gap.scan text.toList with
    | some (first, next) => match next.finish? with
      | some last => decide (o.Holds next) &&
        (first ++ last).all fun l => l.atom?.isNone
      | none => false
    | none => false

namespace Reads

variable {i o : Edge}

theorem raw {text : String} (h : fits i o text = true) : Reads i o [.raw text] := by
  rw [fits, Bool.and_eq_true] at h
  obtain ⟨front, h⟩ := h
  split at h
  · rename_i first next scanned
    split at h
    · rename_i last finished
      rw [Bool.and_eq_true, decide_eq_true_eq, List.all_eq_true] at h
      obtain ⟨holds, plain⟩ := h
      have onGap := Lexes.of_scan scanned holds finished
      refine raw_of_lexes (first ++ last) ?_ fun l hl => ?_
      · cases i with
        | gap => exact onGap
        | any =>
          cases split : text.toList with
          | nil =>
            rw [split] at front
            cases front
          | cons c cs =>
            rw [split] at front onGap
            exact onGap.of_gap (by simpa using front)
      · simpa using plain l hl
    · cases h
  · cases h

theorem joined {separator : String} {items : List (List Token)}
    (between : Reads .any .gap [.raw separator]) (each : ∀ item ∈ items, Reads .gap .any item) :
    Reads .gap .any (Query.joined separator items) := by
  induction items with
  | nil => exact (nil .gap).to_any
  | cons item items ih =>
    have first := each item List.mem_cons_self
    have rest := ih fun later h => each later (List.mem_cons_of_mem _ h)
    cases items with
    | nil => simpa [Query.joined] using first
    | cons next items =>
      rw [joined_cons_cons]
      exact first.append (between.append rest)

end Reads

end RelationAtlas.Query
