import RelationAtlas.Proofs.Query.Reads

/-! # Statements split into lexemes

Part by part, a statement without further expressions is read as the lexemes of its tokens. No
part ends inside a lexeme, and each begins with a boundary or stands after a blank or a symbol. -/

namespace RelationAtlas.Query

theorem ColumnRef.reads (c : ColumnRef) : Reads .any .any c.tokens :=
  (Reads.identifier c.tableAlias).append
    ((Reads.raw (o := .gap) (by decide +kernel)).append (Reads.identifier c.column).of_any)

theorem reads_comparison (c : ColumnRef) {operator : String} (value : String)
    (between : fits .any .gap operator = true) :
    Reads .any .any (c.tokens ++ [.raw operator, .literal value]) :=
  c.reads.append ((Reads.raw between).append (Reads.literal value))

theorem Condition.reads (c : Condition) : Reads .any .any c.tokens := by
  cases c with
  | equals c value => exact reads_comparison c value (by decide +kernel)
  | isNull c => exact c.reads.append (Reads.raw (by decide +kernel))
  | atLeast c value => exact reads_comparison c value (by decide +kernel)
  | atMost c value => exact reads_comparison c value (by decide +kernel)
  | like c pattern => exact reads_comparison c pattern (by decide +kernel)
  | joins c d =>
    exact (c.reads.append (Reads.raw (o := .any) (by decide +kernel))).append d.reads

theorem reads_conditions {separator : String} (conditions : List Condition)
    (between : fits .any .gap separator = true) :
    Reads .gap .any (joined separator (conditions.map Condition.tokens)) := by
  refine Reads.joined (Reads.raw between) fun item hitem => ?_
  obtain ⟨c, -, rfl⟩ := List.mem_map.1 hitem
  exact c.reads.of_any

theorem Predicate.reads (p : Predicate) : Reads .gap .any p.tokens := by
  cases p with
  | condition c => exact c.reads.of_any
  | anyOf cs =>
    cases cs with
    | nil => exact Reads.raw (by decide +kernel)
    | cons c cs =>
      have opened : Reads .gap .gap [.raw "("] := Reads.raw (by decide +kernel)
      have closed : Reads .any .any [.raw ")"] := Reads.raw (by decide +kernel)
      exact (opened.append (reads_conditions (c :: cs) (by decide +kernel))).append closed

theorem SelectedColumn.reads (c : SelectedColumn) : Reads .gap .any c.tokens := by
  cases c with
  | plain c => exact c.reads.of_any
  | text c =>
    have opened : Reads .gap .gap [.raw "convert(nvarchar(4000), "] := Reads.raw (by decide +kernel)
    have closed : Reads .any .any [.raw ".ToString()) "] := Reads.raw (by decide +kernel)
    exact (opened.append c.reads.of_any).append (closed.append (Reads.identifier c.column))

theorem reads_flag (conditions : List Condition) : Reads .gap .any (flagTokens conditions) := by
  have opened : Reads .gap .gap [.raw "case when "] := Reads.raw (by decide +kernel)
  have closed : Reads .any .any [.raw " then 1 else 0 end "] := Reads.raw (by decide +kernel)
  exact (opened.append (reads_conditions conditions (by decide +kernel))).append
    (closed.append (Reads.identifier matchingColumn))

theorem reads_order (item : ColumnRef × Direction) : Reads .gap .any (orderTokens item) := by
  have suffix : Reads .any .any [.raw item.2.suffix] := by
    cases item.2 with
    | descending => exact Reads.raw (by decide +kernel)
    | unknown | ascending => exact ⟨Lexes.nil .any, rfl⟩
  exact (item.1.reads.append suffix).of_any

theorem reads_limit (n : Nat) : Reads .gap .gap [.raw ("top (" ++ toString n ++ ") ")] := by
  have opening : LexMode.gap.scan "top (".toList = some ([.word "top", .symbol '('], .gap) := by
    decide +kernel
  have closing : LexMode.gap.scan [')', ' '] = some ([.symbol ')'], .gap) := by decide +kernel
  have opened : Lexes .gap .gap "top (".toList [.word "top", .symbol '('] :=
    Lexes.of_scan opening rfl rfl
  have closed : Lexes .any .gap ") ".toList [.symbol ')'] := by
    rw [show ") ".toList = [')', ' '] by decide +kernel]
    exact Lexes.of_gap (by decide) (Lexes.of_scan closing rfl rfl)
  refine Reads.raw_of_lexes [.word "top", .symbol '(', .word (toString n), .symbol ')'] ?_ ?_
  · rw [String.toList_append, String.toList_append]
    exact (opened.append (lexes_digits n)).append closed
  · simp [Lexeme.atom?]

namespace Selection

theorem reads_head (s : Selection) : Reads .gap .gap s.head := by
  have opened : Reads .gap .gap [.raw "(select "] := Reads.raw (by decide +kernel)
  rw [head]
  cases s.limit with
  | none => exact opened
  | some n => exact opened.append (reads_limit n)

theorem reads_firstItems (s : Selection) : ∀ item ∈ s.firstItems, Reads .gap .any item := by
  intro item hitem
  rcases List.mem_append.1 hitem with h | h
  · obtain ⟨c, -, rfl⟩ := List.mem_map.1 h
    exact c.reads
  · split_ifs at h
    · cases h
    · cases List.mem_singleton.1 h
      exact reads_flag s.matching

theorem reads_source (s : Selection) :
    Reads .gap .any (joined "." (s.source.parts.map fun p => [.identifier p])) := by
  refine Reads.joined (Reads.raw (by decide +kernel)) fun item hitem => ?_
  obtain ⟨p, -, rfl⟩ := List.mem_map.1 hitem
  exact (Reads.identifier p).of_any

theorem reads_tail (s : Selection) : Reads .any .any s.tail := by
  have opened : Reads .any .gap [.raw " from "] := Reads.raw (by decide +kernel)
  have blank : Reads .any .gap [.raw " "] := Reads.raw (by decide +kernel)
  have predicates : Reads .any .any (if s.predicates.isEmpty then []
      else [.raw " where "] ++ joined " and " (s.predicates.map Predicate.tokens)) := by
    have opened : Reads .any .gap [.raw " where "] := Reads.raw (by decide +kernel)
    split_ifs
    · exact Reads.nil .any
    · refine opened.append (Reads.joined (Reads.raw (by decide +kernel)) fun item hitem => ?_)
      obtain ⟨p, -, rfl⟩ := List.mem_map.1 hitem
      exact p.reads
  have order : Reads .any .any (if s.order.isEmpty then []
      else [.raw " order by "] ++ joined ", " (s.order.map orderTokens)) := by
    have opened : Reads .any .gap [.raw " order by "] := Reads.raw (by decide +kernel)
    split_ifs
    · exact Reads.nil .any
    · refine opened.append (Reads.joined (Reads.raw (by decide +kernel)) fun item hitem => ?_)
      obtain ⟨o, -, rfl⟩ := List.mem_map.1 hitem
      exact reads_order o
  have closed : Reads .any .any [.raw (if s.binary then " for xml auto, binary base64, type)"
      else " for xml auto, type)")] := by
    split_ifs
    · exact Reads.raw (by decide +kernel)
    · exact Reads.raw (by decide +kernel)
  refine (((((opened.append s.reads_source).append
    (blank.append (Reads.identifier s.tableAlias).of_any)).append ?_).append
      predicates).append order).append closed
  cases s.index with
  | none => exact Reads.nil .any
  | some name =>
    have opened : Reads .any .gap [.raw " with (index("] := Reads.raw (by decide +kernel)
    have closed : Reads .any .any [.raw "))"] := Reads.raw (by decide +kernel)
    exact opened.append ((Reads.identifier name).of_any.append closed)

end Selection

theorem reads_itemsOrOne {items : List (List Token)} (each : ∀ item ∈ items, Reads .gap .any item) :
    Reads .gap .any (itemsOrOne items) := by
  rw [itemsOrOne]
  split_ifs
  · have one : Reads .gap .gap [.raw "1 "] := Reads.raw (by decide +kernel)
    exact one.append (Reads.identifier "_").of_any
  · exact Reads.joined (Reads.raw (by decide +kernel)) each

mutual

def Subquery.Bare : Subquery → Prop
  | ⟨own, subqueries⟩ => own.expressions = [] ∧ BareAll subqueries

def BareAll : List Subquery → Prop
  | [] => True
  | q :: qs => q.Bare ∧ BareAll qs

end

mutual

theorem Subquery.reads : ∀ {q : Subquery}, q.Bare → Reads .gap .any q.tokens
  | ⟨own, subqueries⟩, bare => by
    have nested := reads_subqueries bare.2
    have none : own.lastItems = [] := by rw [Selection.lastItems, bare.1]; rfl
    rw [Subquery.tokens, none, List.append_nil]
    refine (own.reads_head.append (reads_itemsOrOne fun item hitem => ?_)).append own.reads_tail
    rcases List.mem_append.1 hitem with h | h
    · exact own.reads_firstItems item h
    · exact nested item h

theorem reads_subqueries : ∀ {qs : List Subquery}, BareAll qs →
    ∀ item ∈ subqueryTokens qs, Reads .gap .any item
  | [], _, _, h => nomatch h
  | q :: qs, bare, item, h => by
    rcases List.mem_cons.1 h with rfl | h
    · exact Subquery.reads bare.1
    · exact reads_subqueries bare.2 item h

end

theorem reads_statement {queries : List Subquery} (bare : BareAll queries) :
    Reads .gap .any (statementTokens queries) := by
  have opened : Reads .gap .gap [.raw "select "] := Reads.raw (by decide +kernel)
  have fingerprint : Reads .gap .gap [.raw "(select max(modify_date) from sys.objects) "] :=
    Reads.raw (by decide +kernel)
  have closed : Reads .any .any [.raw " for xml path('root')"] := Reads.raw (by decide +kernel)
  refine (opened.append (Reads.joined (Reads.raw (by decide +kernel)) fun item hitem => ?_)).append
    closed
  rcases List.mem_cons.1 hitem with rfl | h
  · exact fingerprint.append (Reads.identifier _).of_any
  · exact reads_subqueries bare item h

/-- The text of a statement splits completely, into the lexemes of its tokens. -/
theorem lexemes?_render {o : Edge} {ts : List Token} (h : Reads .gap o ts) :
    lexemes? (render ts) = some (ts.flatMap Token.lexemes) := by
  refine Lexes.lexemes?_eq (i := .gap) (o := o) ?_
  rw [render, String.toList_join, List.flatMap_map]
  exact h.lexes

end RelationAtlas.Query
