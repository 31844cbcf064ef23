import RelationAtlas.Query.Statement

/-! # The text of statements

A statement is written as tokens: identifiers in brackets, literals in quotes, and everything
between them as it stands. A closing bracket in an identifier and a quote in a literal are written
twice, so that neither ends before its token does. -/

namespace RelationAtlas.Query

inductive Token
  | raw (text : String)
  | identifier (name : String)
  | literal (value : String)
deriving DecidableEq, Repr

/-- The literal of a text, `N'it''s'`. -/
def quote (value : String) : String :=
  String.ofList ('N' :: '\'' :: Text.doubled '\'' value.toList ++ ['\''])

def Token.text : Token → String
  | raw text => text
  | identifier name => escapePart name
  | literal value => quote value

def joined (separator : String) (items : List (List Token)) : List Token :=
  (items.intersperse [.raw separator]).flatten

def ColumnRef.tokens (c : ColumnRef) : List Token :=
  [.identifier c.tableAlias, .raw ".", .identifier c.column]

def Condition.tokens : Condition → List Token
  | equals c value => c.tokens ++ [.raw " = ", .literal value]
  | isNull c => c.tokens ++ [.raw " is null"]
  | atLeast c value => c.tokens ++ [.raw (" " ++ Direction.seekOperator .ascending ++ " "),
      .literal value]
  | atMost c value => c.tokens ++ [.raw (" " ++ Direction.seekOperator .descending ++ " "),
      .literal value]
  | like c pattern => c.tokens ++ [.raw " like ", .literal pattern]
  | joins c d => c.tokens ++ [.raw " = "] ++ d.tokens

def Predicate.tokens : Predicate → List Token
  | condition c => c.tokens
  | anyOf [] => [.raw "1 = 0"]
  | anyOf cs => [.raw "("] ++ joined " or " (cs.map Condition.tokens) ++ [.raw ")"]

def SelectedColumn.tokens : SelectedColumn → List Token
  | plain c => c.tokens
  | text c => [.raw "convert(nvarchar(4000), "] ++ c.tokens ++ [.raw ".ToString()) ",
      .identifier c.column]

def flagTokens (conditions : List Condition) : List Token :=
  [.raw "case when "] ++ joined " and " (conditions.map Condition.tokens) ++
    [.raw " then 1 else 0 end ", .identifier matchingColumn]

def orderTokens (item : ColumnRef × Direction) : List Token :=
  item.1.tokens ++ [.raw item.2.suffix]

namespace Selection

def firstItems (s : Selection) : List (List Token) :=
  s.columns.map SelectedColumn.tokens ++
    (if s.matching.isEmpty then [] else [flagTokens s.matching])

def lastItems (s : Selection) : List (List Token) :=
  s.expressions.map fun (text, name) => [.raw (text ++ " "), .identifier name]

def head (s : Selection) : List Token :=
  .raw "(select " :: match s.limit with
    | some n => [.raw ("top (" ++ toString n ++ ") ")]
    | none => []

def tail (s : Selection) : List Token :=
  [.raw " from "] ++ joined "." (s.source.parts.map fun p => [.identifier p]) ++
    [.raw " ", .identifier s.tableAlias] ++
    (match s.index with
      | some name => [.raw " with (index(", .identifier name, .raw "))"]
      | none => []) ++
    (if s.predicates.isEmpty then []
      else [.raw " where "] ++ joined " and " (s.predicates.map Predicate.tokens)) ++
    (if s.order.isEmpty then []
      else [.raw " order by "] ++ joined ", " (s.order.map orderTokens)) ++
    [.raw (if s.binary then " for xml auto, binary base64, type)" else " for xml auto, type)")]

end Selection

/-- A query selects something in any case. -/
def itemsOrOne (items : List (List Token)) : List Token :=
  if items.isEmpty then [.raw "1 ", .identifier "_"] else joined ", " items

mutual

def Subquery.tokens : Subquery → List Token
  | ⟨own, subqueries⟩ =>
    own.head ++ itemsOrOne (own.firstItems ++ subqueryTokens subqueries ++ own.lastItems) ++ own.tail

def subqueryTokens : List Subquery → List (List Token)
  | [] => []
  | q :: qs => q.tokens :: subqueryTokens qs

end

def statementTokens (queries : List Subquery) : List Token :=
  [.raw "select "] ++
    joined ", " ([.raw "(select max(modify_date) from sys.objects) ",
      .identifier ("@" ++ fingerprintAttribute)] :: subqueryTokens queries) ++
    [.raw " for xml path('root')"]

def render (tokens : List Token) : String := String.join (tokens.map Token.text)

end RelationAtlas.Query
