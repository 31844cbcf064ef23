import RelationAtlas.Extent.Basic
import RelationAtlas.ObjectName

/-! # Statements

A statement reads the fingerprint of the database and the answers of nested queries, each of which
gives one element for each row, named by the alias of its table. -/

namespace RelationAtlas.Query

/-! ## Predicates

The conditions of a query as data: comparisons of a column with a value, joins, and searches. A
seek position makes rows equal the given values, except that a last value which is no bound key
is where the rows begin in the order of its column. Nulls come before all values. -/

structure ColumnRef where
  tableAlias : String
  column : String
deriving DecidableEq, Repr

inductive Condition
  | equals (c : ColumnRef) (value : String)
  | isNull (c : ColumnRef)
  | atLeast (c : ColumnRef) (value : String)
  | atMost (c : ColumnRef) (value : String)
  | like (c : ColumnRef) (pattern : String)
  | joins (c d : ColumnRef)
deriving DecidableEq, Repr

/-- A condition, or a choice of conditions; an empty choice never holds. -/
inductive Predicate
  | condition (c : Condition)
  | anyOf (cs : List Condition)
deriving DecidableEq, Repr

def equality (c : ColumnRef) : Option String → Condition
  | some value => .equals c value
  | none => .isNull c

/-- The condition of rows at or after a value in a direction. Everything comes after NULL in
ascending order, and nothing but NULL in descending order. -/
def atOrAfter (c : ColumnRef) (direction : Direction) : Option String → List Condition
  | some value => [if direction = .descending then .atMost c value else .atLeast c value]
  | none => if direction = .descending then [.isNull c] else []

/-- The conditions of a seek position, of which so many values are bound keys. -/
def seekConditions (tableAlias : String) : Nat → List (Option String × OrderColumn) → List Condition
  | _, [] => []
  | keys, (value, o) :: rest =>
    if keys = 0 ∧ rest.isEmpty then atOrAfter ⟨tableAlias, o.name⟩ o.direction value
    else equality ⟨tableAlias, o.name⟩ value :: seekConditions tableAlias (keys - 1) rest

def matchConditions (tableAlias : String) (position : List (Option String × OrderColumn)) :
    List Condition :=
  position.map fun (value, o) => equality ⟨tableAlias, o.name⟩ value

def escapePattern (cs : List Char) : List Char :=
  cs.flatMap fun c => if c = '%' ∨ c = '_' ∨ c = '[' then ['[', c, ']'] else [c]

def containsPattern (value : String) : String :=
  String.ofList ('%' :: escapePattern value.toList ++ ['%'])

def scanCondition (tableAlias : String) (term : ScanTerm) : Condition :=
  match term.option with
  | .equal value => .equals ⟨tableAlias, term.column⟩ value
  | .substring value => .like ⟨tableAlias, term.column⟩ (containsPattern value)

def scanPredicate (tableAlias : String) (scan : Scan) : Predicate :=
  .anyOf (scan.terms.map (scanCondition tableAlias))

/-! ## Queries -/

inductive SelectedColumn
  | plain (c : ColumnRef)
  | text (c : ColumnRef)
deriving DecidableEq, Repr

structure Selection where
  limit : Option Nat
  columns : List SelectedColumn
  /-- The conditions of the matching flag; without any there is no flag. -/
  matching : List Condition
  expressions : List (String × String)
  source : ObjectName
  tableAlias : String
  index : Option String
  predicates : List Predicate
  order : List (ColumnRef × Direction)
  binary : Bool
deriving DecidableEq

structure Subquery extends Selection where
  subqueries : List Subquery

def matchingColumn : String := "__matching"

def fingerprintAttribute : String := "modify_date"

end RelationAtlas.Query
