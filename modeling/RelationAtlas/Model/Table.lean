import RelationAtlas.Catalog.Basic
import RelationAtlas.ColumnType.Basic
import RelationAtlas.NameMap

/-! # Tables of a model

Tables, columns, indexes and foreign keys as a model holds them. Columns are referred to by their
position in the table, tables and relation ends by their position in the model. -/

namespace RelationAtlas

abbrev TableId := Nat

abbrev EndId := Nat

structure Column where
  /-- Position in the catalog from 1 on, columns that are left out counted too. -/
  ordinal : Nat
  name : String
  sqlType : String
  nullable : Bool
  type : ColumnType
  namesRows : Bool
deriving DecidableEq, Repr

structure DirectedColumn where
  column : Nat
  direction : Direction
deriving DecidableEq, Repr

structure ColumnTuple where
  name : String
  columns : List DirectedColumn
  containsKey : Bool
deriving DecidableEq, Repr

def ColumnTuple.positions (t : ColumnTuple) : List Nat := t.columns.map DirectedColumn.column

structure Index where
  tuple : ColumnTuple
  unique : Bool
  primary : Bool
  unsupported : Option UnsupportedReason
deriving DecidableEq, Repr

namespace Index

def name (i : Index) : String := i.tuple.name

def isSupported (i : Index) : Bool := i.unsupported.isNone

def isSeekable (i : Index) : Bool := i.isSupported && !i.tuple.columns.isEmpty

def guaranteesUniqueness (i : Index) : Bool :=
  i.unique && !(i.unsupported.any fun r =>
    r.tag = .disabled ∨ r.tag = .filtered ∨ r.tag = .hypothetical)

end Index

structure PrincipalKey where
  table : TableId
  name : String
  columns : List Nat
deriving DecidableEq, Repr

structure ForeignKey where
  tuple : ColumnTuple
  principal : PrincipalKey
  backing : List String
deriving DecidableEq, Repr

namespace ForeignKey

def name (k : ForeignKey) : String := k.tuple.name

def isRootKey (k : ForeignKey) : Bool := k.name.isEmpty

end ForeignKey

inductive TupleRef
  | index (name : String)
  | foreignKey (name : String)
deriving DecidableEq, Repr

structure Table where
  id : TableId
  name : ObjectName
  isView : Bool
  abbreviation : String
  hue : Nat
  columns : List Column
  indexes : List Index
  foreignKeys : List ForeignKey
  relations : NameMap EndId
  /-- The relations by the table they lead to, in ascending order of those tables. -/
  byTarget : List (TableId × List EndId)
  primaryName : Option Nat
deriving DecidableEq

namespace Table

def root : Table where
  id := 0
  name := .root
  isView := false
  abbreviation := ""
  hue := 0
  columns := []
  indexes := [⟨⟨"", [], true⟩, true, true, none⟩]
  foreignKeys := []
  relations := .empty
  byTarget := []
  primaryName := none

instance : Inhabited Table := ⟨root⟩

def isRoot (t : Table) : Bool := t.name.isRoot

def positionIn? (columns : List Column) (name : String) : Option Nat :=
  (columns.zipIdx.findRev? fun (c, _) => c.name == name).map Prod.snd

def position? (t : Table) (name : String) : Option Nat := positionIn? t.columns name

def column? (t : Table) (name : String) : Option Column :=
  t.columns.findRev? fun c => c.name == name

def columnName (t : Table) (position : Nat) : String :=
  (t.columns[position]?.map Column.name).getD ""

def columnNames (t : Table) (tuple : ColumnTuple) : List String :=
  tuple.positions.map t.columnName

def index? (t : Table) (name : String) : Option Index := t.indexes.find? fun i => i.name == name

def foreignKey? (t : Table) (name : String) : Option ForeignKey :=
  t.foreignKeys.findRev? fun k => k.name == name

def uniqueIndexes (t : Table) : List Index := t.indexes.filter Index.unique

def seekableIndexes (t : Table) : List Index := t.indexes.filter Index.isSeekable

def primaryIndex? (t : Table) : Option Index := t.indexes.findRev? Index.primary

def tuples (t : Table) : List ColumnTuple :=
  t.indexes.map Index.tuple ++ t.foreignKeys.map ForeignKey.tuple

def tuple? (t : Table) : TupleRef → Option ColumnTuple
  | .index name => (t.index? name).map Index.tuple
  | .foreignKey name => (t.foreignKey? name).map ForeignKey.tuple

def primaryNameColumn? (t : Table) : Option Column := t.primaryName.bind fun i => t.columns[i]?

def isPrimaryName (t : Table) (position : Nat) : Bool :=
  t.columns[position]?.any Column.namesRows

end Table

end RelationAtlas
