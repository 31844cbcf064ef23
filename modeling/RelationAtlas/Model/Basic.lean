import RelationAtlas.Model.Table

/-! # Models

The tables and the relation ends of one catalog. A relation is a pair of ends, one on the table of
the referenced key and one on the table of the foreign key. Following an end leads to the rows of
its partner's table. -/

namespace RelationAtlas

structure RelationEnd where
  id : EndId
  /-- An end without a name is reached from its partner only. -/
  name : Option String
  table : TableId
  principal : Bool
  many : Bool
  key : TupleRef
  /-- The join columns, in the order of the partner's. -/
  columns : List Nat
  other : EndId
deriving DecidableEq, Repr

instance : Inhabited RelationEnd := ⟨⟨0, none, 0, false, false, .index "", [], 0⟩⟩

/-- The root table stands at position 0, the tables of the catalog follow in its order. -/
structure Model where
  tables : List Table
  ends : List RelationEnd
  fingerprint : Option String
deriving DecidableEq

namespace Model

def rootId : TableId := 0

/-- The table at a position, and the bare root table beyond the last one. -/
def table (m : Model) (id : TableId) : Table := m.tables.getD id default

def rootTable (m : Model) : Table := m.table rootId

def realTables (m : Model) : List Table := m.tables.filter fun t => !t.isRoot

def relationEnd (m : Model) (id : EndId) : RelationEnd := m.ends.getD id default

def otherEnd (m : Model) (id : EndId) : RelationEnd := m.relationEnd (m.relationEnd id).other

def target (m : Model) (id : EndId) : Table := m.table (m.otherEnd id).table

def endTuple (m : Model) (id : EndId) : Except BrowseError ColumnTuple :=
  let e := m.relationEnd id
  let t := m.table e.table
  match t.tuple? e.key, e.key with
  | some tuple, _ => .ok tuple
  | none, .index name => .error (.unresolvedKey t.name.simple name)
  | none, .foreignKey name => .error (.unresolvedKey t.name.simple name)

def isStale (m : Model) (current : Option String) : Bool := m.fingerprint != current

def tableBySimple? (m : Model) (simple : String) : Option Table :=
  (m.tables.drop 1).find? fun t => t.name.simple == simple

/-- Finds a table by its simple name, or else by any form of its name that can be read. -/
def findTable? (m : Model) (name : String) : Option Table :=
  match m.tableBySimple? name with
  | some t => some t
  | none =>
    match ObjectName.parse name with
    | .ok parsed => m.tableBySimple? parsed.simple
    | .error _ => none

def requireTable (m : Model) (name : String) : Except BrowseError Table :=
  match m.findTable? name with
  | some t => .ok t
  | none => .error (.unresolvedTable name)

def relation (m : Model) (table : TableId) (name : String) : Except BrowseError RelationEnd :=
  match (m.table table).relations.get? name with
  | some id => .ok (m.relationEnd id)
  | none => .error (.unresolvedRelation name (m.table table).name.simple)

def rootRelationTo (m : Model) (table : TableId) : Except BrowseError RelationEnd :=
  m.relation rootId (m.table table).name.simple

def navigatesToMany (m : Model) (id : EndId) : Bool := (m.otherEnd id).many

def relationsByTarget (m : Model) (table : TableId) : List (TableId × List EndId) :=
  (m.table table).byTarget

/-- The end is the only one that leads from its table to many rows of its target. -/
def isUniquelyTyped (m : Model) (id : EndId) : Bool :=
  match (m.relationsByTarget (m.relationEnd id).table).lookup (m.otherEnd id).table with
  | none => false
  | some group => group.filter m.navigatesToMany == [id]

end Model

end RelationAtlas
