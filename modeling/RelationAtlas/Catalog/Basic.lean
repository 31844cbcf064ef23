import RelationAtlas.ObjectName
import RelationAtlas.Text.Basic
import RelationAtlas.Text.Case

/-! # Catalogs

What a database says about its tables: columns, indexes and the constraints behind them, foreign
keys. Nothing in it is checked against anything else; that is the business of building a model. -/

namespace RelationAtlas

/-! ## Sort directions

The direction of a key column. An unknown direction sorts as ascending. -/

inductive Direction
  | unknown
  | ascending
  | descending
deriving DecidableEq, Repr

namespace Direction

def ofDescendingFlag (flag : Bool) : Direction := if flag then descending else ascending

def suffix : Direction → String
  | descending => " desc"
  | _ => ""

def seekOperator : Direction → String
  | descending => "<="
  | _ => ">="

def name : Direction → String
  | unknown => "unknown"
  | ascending => "asc"
  | descending => "desc"

def parse (text : String) : Direction :=
  let word := Text.toLowerAscii (Text.trim text)
  if word = "asc" ∨ word = "ascending" then ascending
  else if word = "desc" ∨ word = "descending" then descending
  else unknown

end Direction

/-! ## Tables -/

inductive UnsupportedTag
  | disabled
  | filtered
  | hypothetical
  | notBTree
  | unsupportedColumn
  | missingColumn
deriving DecidableEq, Repr

namespace UnsupportedTag

def all : List UnsupportedTag :=
  [disabled, filtered, hypothetical, notBTree, unsupportedColumn, missingColumn]

def name : UnsupportedTag → String
  | disabled => "disabled"
  | filtered => "filtered"
  | hypothetical => "hypothetical"
  | notBTree => "not-btree"
  | unsupportedColumn => "unsupported-column"
  | missingColumn => "missing-column"

def ofName? (text : String) : Option UnsupportedTag := all.find? fun t => t.name == text

end UnsupportedTag

structure UnsupportedReason where
  tag : UnsupportedTag
  message : String
deriving DecidableEq, Repr

def UnsupportedReason.display (r : UnsupportedReason) : String := r.tag.name ++ ": " ++ r.message

namespace Catalog

structure Column where
  name : String
  typeName : String
  nullable : Bool
deriving DecidableEq, Repr

structure KeyColumn where
  name : String
  direction : Direction
deriving DecidableEq, Repr

structure Index where
  name : String
  unique : Bool
  primary : Bool
  columns : List KeyColumn
  unsupported : Option UnsupportedReason
deriving DecidableEq, Repr

/-- The columns stand in the order of the columns of the referenced key. -/
structure ForeignKey where
  name : String
  columns : List String
  referencedTable : ObjectName
  referencedKey : String
deriving DecidableEq

structure Table where
  name : ObjectName
  isView : Bool := false
  columns : List Column := []
  indexes : List Index := []
  foreignKeys : List ForeignKey := []
deriving DecidableEq

namespace Table

def asView (t : Table) : Table := { t with isView := true }

def withColumn (t : Table) (name typeName : String) (nullable : Bool) : Table :=
  { t with columns := t.columns ++ [⟨name, typeName, nullable⟩] }

def withIndex (t : Table) (index : Index) : Table := { t with indexes := t.indexes ++ [index] }

def directedIndex (t : Table) (name : String) (unique : Bool) (columns : List KeyColumn) : Table :=
  t.withIndex ⟨name, unique, false, columns, none⟩

def ascendingColumns (columns : List String) : List KeyColumn :=
  columns.map fun c => ⟨c, .ascending⟩

def primaryKey (t : Table) (name : String) (columns : List String) : Table :=
  t.withIndex ⟨name, true, true, ascendingColumns columns, none⟩

def uniqueIndex (t : Table) (name : String) (columns : List String) : Table :=
  t.withIndex ⟨name, true, false, ascendingColumns columns, none⟩

def index (t : Table) (name : String) (columns : List String) : Table :=
  t.withIndex ⟨name, false, false, ascendingColumns columns, none⟩

def unsupported (t : Table) (reason : UnsupportedReason) : Table :=
  match t.indexes.getLast? with
  | some last => { t with indexes := t.indexes.dropLast ++ [{ last with unsupported := some reason }] }
  | none => t

def foreignKey (t : Table) (name : String) (columns : List String) (referencedTable : ObjectName)
    (referencedKey : String) : Table :=
  { t with foreignKeys := t.foreignKeys ++ [⟨name, columns, referencedTable, referencedKey⟩] }

end Table

end Catalog

/-- The fingerprint is the time of the latest change to any object. -/
structure Catalog where
  tables : List Catalog.Table
  fingerprint : Option String := none
deriving DecidableEq

def Catalog.table? (c : Catalog) (name : ObjectName) : Option Catalog.Table :=
  c.tables.find? fun t => t.name = name

end RelationAtlas
