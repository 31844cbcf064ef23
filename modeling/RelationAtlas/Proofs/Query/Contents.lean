import RelationAtlas.Proofs.Query.Alias
import RelationAtlas.Proofs.Query.StatementLexemes
import RelationAtlas.Query.Compile

/-! # What a statement contains

The identifiers and literals of a statement, in order: the identifiers are aliases, columns,
indexes and the parts of table names; the literals are the texts of filter values and scan terms,
in the order of the extents. -/

namespace RelationAtlas

namespace Query

def ColumnRef.atoms (c : ColumnRef) : List Token := [.identifier c.tableAlias, .identifier c.column]

def Condition.atoms : Condition → List Token
  | equals c value | atLeast c value | atMost c value | like c value => c.atoms ++ [.literal value]
  | isNull c => c.atoms
  | joins c d => c.atoms ++ d.atoms

def Predicate.conditions : Predicate → List Condition
  | condition c => [c]
  | anyOf cs => cs

def SelectedColumn.atoms : SelectedColumn → List Token
  | plain c => c.atoms
  | text c => c.atoms ++ [.identifier c.column]

namespace Selection

def conditions (s : Selection) : List Condition := s.predicates.flatMap Predicate.conditions

def firstAtoms (s : Selection) : List Token :=
  s.columns.flatMap SelectedColumn.atoms ++
    if s.matching.isEmpty then []
    else s.matching.flatMap Condition.atoms ++ [.identifier matchingColumn]

def lastAtoms (s : Selection) : List Token := (s.expressions.map Prod.snd).map .identifier

def tailAtoms (s : Selection) : List Token :=
  s.source.parts.map .identifier ++ [.identifier s.tableAlias] ++
    s.index.toList.map .identifier ++ s.conditions.flatMap Condition.atoms ++
    s.order.flatMap fun o => o.1.atoms

end Selection

mutual

def Subquery.atoms : Subquery → List Token
  | ⟨own, subqueries⟩ =>
    (if (own.firstItems ++ subqueryTokens subqueries ++ own.lastItems).isEmpty
      then [.identifier "_"]
      else own.firstAtoms ++ atomsAll subqueries ++ own.lastAtoms) ++ own.tailAtoms

def atomsAll : List Subquery → List Token
  | [] => []
  | q :: qs => q.atoms ++ atomsAll qs

end

def statementAtoms (queries : List Subquery) : List Token :=
  .identifier ("@" ++ fingerprintAttribute) :: atomsAll queries

theorem atoms_joined (separator : String) (items : List (List Token)) :
    (joined separator items).filter Token.isAtom =
      items.flatMap fun ts => ts.filter Token.isAtom := by
  induction items with
  | nil => rfl
  | cons item items ih =>
    cases items with
    | nil => simp [joined]
    | cons next items =>
      rw [joined_cons_cons, List.filter_append, List.filter_append, ih]
      simp [Token.isAtom]

theorem ColumnRef.atoms_tokens (c : ColumnRef) : c.tokens.filter Token.isAtom = c.atoms := rfl

theorem Condition.atoms_tokens (c : Condition) : c.tokens.filter Token.isAtom = c.atoms := by
  cases c <;> rfl

theorem SelectedColumn.atoms_tokens (c : SelectedColumn) :
    c.tokens.filter Token.isAtom = c.atoms := by
  cases c <;> rfl

theorem atoms_conditions (separator : String) (conditions : List Condition) :
    (joined separator (conditions.map Condition.tokens)).filter Token.isAtom =
      conditions.flatMap Condition.atoms := by
  rw [atoms_joined, List.flatMap_map]
  simp only [Condition.atoms_tokens]

theorem Predicate.atoms_tokens (p : Predicate) :
    p.tokens.filter Token.isAtom = p.conditions.flatMap Condition.atoms := by
  cases p with
  | condition c => simpa [Predicate.tokens, conditions] using c.atoms_tokens
  | anyOf cs =>
    cases cs with
    | nil => rfl
    | cons c cs =>
      rw [Predicate.tokens, List.filter_append, List.filter_append, atoms_conditions]
      · simp [Token.isAtom, conditions]
      · nofun

theorem atoms_order (o : ColumnRef × Direction) :
    (orderTokens o).filter Token.isAtom = o.1.atoms := rfl

namespace Selection

theorem atoms_head (s : Selection) : s.head.filter Token.isAtom = [] := by
  rw [head]
  cases s.limit <;> rfl

theorem atoms_firstItems (s : Selection) :
    (s.firstItems.flatMap fun ts => ts.filter Token.isAtom) = s.firstAtoms := by
  rw [firstItems, firstAtoms, List.flatMap_append, List.flatMap_map]
  simp only [SelectedColumn.atoms_tokens]
  split_ifs
  · rfl
  · rw [List.flatMap_singleton, flagTokens, List.filter_append, List.filter_append,
      atoms_conditions]
    rfl

theorem atoms_lastItems (s : Selection) :
    (s.lastItems.flatMap fun ts => ts.filter Token.isAtom) = s.lastAtoms := by
  rw [lastItems, lastAtoms, List.flatMap_map, List.map_map, List.map_eq_flatMap]
  rfl

theorem atoms_tail (s : Selection) : s.tail.filter Token.isAtom = s.tailAtoms := by
  have source : (joined "." (s.source.parts.map fun p => [.identifier p])).filter Token.isAtom =
      s.source.parts.map .identifier := by
    rw [atoms_joined, List.flatMap_map, List.map_eq_flatMap]
    rfl
  have predicates : (if s.predicates.isEmpty then []
      else [.raw " where "] ++ joined " and " (s.predicates.map Predicate.tokens)).filter
        Token.isAtom = s.conditions.flatMap Condition.atoms := by
    rw [conditions, List.flatMap_assoc]
    split_ifs with none
    · rw [List.isEmpty_iff.1 none]
      rfl
    · rw [List.filter_append, atoms_joined, List.flatMap_map]
      simp only [Predicate.atoms_tokens]
      rfl
  have order : (if s.order.isEmpty then []
      else [.raw " order by "] ++ joined ", " (s.order.map orderTokens)).filter Token.isAtom =
        s.order.flatMap fun o => o.1.atoms := by
    split_ifs with none
    · rw [List.isEmpty_iff.1 none]
      rfl
    · rw [List.filter_append, atoms_joined, List.flatMap_map]
      simp only [atoms_order]
      rfl
  rw [tail, tailAtoms]
  simp only [List.filter_append, source, predicates, order]
  cases s.index <;> simp [List.filter_cons, Token.isAtom]

end Selection

theorem atoms_itemsOrOne (items : List (List Token)) : (itemsOrOne items).filter Token.isAtom =
    if items.isEmpty then [.identifier "_"]
    else items.flatMap fun ts => ts.filter Token.isAtom := by
  rw [itemsOrOne]
  split_ifs
  · rfl
  · exact atoms_joined ", " items

mutual

theorem Subquery.atoms_tokens : ∀ q : Subquery, q.tokens.filter Token.isAtom = q.atoms
  | ⟨own, subqueries⟩ => by
    rw [Subquery.tokens, Subquery.atoms, List.filter_append, List.filter_append, own.atoms_head,
      own.atoms_tail, atoms_itemsOrOne, List.flatMap_append, List.flatMap_append,
      own.atoms_firstItems, own.atoms_lastItems, atoms_subqueryTokens subqueries]
    rfl

theorem atoms_subqueryTokens : ∀ qs : List Subquery,
    ((subqueryTokens qs).flatMap fun ts => ts.filter Token.isAtom) = atomsAll qs
  | [] => rfl
  | q :: qs => by
    rw [subqueryTokens, atomsAll, List.flatMap_cons, Subquery.atoms_tokens q,
      atoms_subqueryTokens qs]

end

theorem atoms_statementTokens (queries : List Subquery) :
    (statementTokens queries).filter Token.isAtom = statementAtoms queries := by
  rw [statementTokens, statementAtoms, List.filter_append, List.filter_append, atoms_joined,
    List.flatMap_cons, atoms_subqueryTokens]
  simp [List.filter_cons, Token.isAtom]

end Query

end RelationAtlas
