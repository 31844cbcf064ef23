import RelationAtlas.Catalog.Basic
import RelationAtlas.ColumnType.Basic
import RelationAtlas.Extent.Flavor
import RelationAtlas.Model.Table

/-! # Extents

An extent says what to fetch: which relation to follow from its parent's table, what to select
there, in which order, from where on, and what to fetch in turn for every row. The outermost
extent follows no relation and stands for the root table. -/

namespace RelationAtlas

structure OrderColumn where
  name : String
  direction : Direction
deriving DecidableEq, Repr

structure ScanTerm where
  column : String
  option : ScanOption
deriving DecidableEq, Repr

/-- A free-text search. Without terms nothing can match. -/
structure Scan where
  value : String
  terms : List ScanTerm
deriving DecidableEq, Repr

def Scan.ofTable (t : Table) (value : String) : Scan :=
  ⟨value, t.columns.filterMap fun c => (c.type.scanOption? value).map fun o => ⟨c.name, o⟩⟩

structure Selectable where
  name : String
  expression : String
deriving DecidableEq, Repr

structure Hop where
  /-- The relation that is followed; none for the outermost extent. -/
  relation : Option String
  flavor : Flavor
  tableAlias : Option String := none
  index : Option String := none
  limit : Option Nat := none
  columns : List String := []
  order : List OrderColumn := []
  /-- The position to begin at, in the order of the order columns; none stands for NULL. -/
  values : List (Option String) := []
  /-- How many of the first values are keys that rows must equal. -/
  keyCount : Nat := 0
  scan : Option Scan := none
  selectables : List Selectable := []
deriving DecidableEq, Repr

structure Extent extends Hop where
  children : List Extent

namespace Extent

def root (flavor : Flavor) : Extent := ⟨{ relation := none, flavor }, []⟩

def isRoot (e : Extent) : Bool := e.relation.isNone

def withChild (e : Extent) (child : Extent) : Extent :=
  { e with children := e.children ++ [child] }

mutual

def walk : Extent → List Hop
  | ⟨hop, children⟩ => hop :: walkAll children

def walkAll : List Extent → List Hop
  | [] => []
  | e :: es => e.walk ++ walkAll es

end

mutual

def height : Extent → Nat
  | ⟨_, children⟩ => heightAll children

def heightAll : List Extent → Nat
  | [] => 0
  | e :: es => max (e.height + 1) (heightAll es)

end

end Extent

end RelationAtlas
