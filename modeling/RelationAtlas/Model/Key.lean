import RelationAtlas.Model.Abbreviation
import RelationAtlas.Model.Hue
import RelationAtlas.Model.Table

/-! # Columns and keys of a table

The first steps of building a model: a table of a catalog becomes a table with the columns whose
type is known and the indexes over such columns, and its foreign keys are resolved against the
keys of all tables. -/

namespace RelationAtlas

namespace Table

def columnsOf (source : Catalog.Table) : List Column :=
  source.columns.zipIdx.filterMap fun (c, i) =>
    (ColumnType.ofSqlName? c.typeName).map fun type =>
      ⟨i + 1, c.name, c.typeName, c.nullable, type, false⟩

def unsupportedReason? (columns : List Column) (source : Catalog.Index)
    (key : List DirectedColumn) : Option UnsupportedReason :=
  source.unsupported <|> do
    let c ← (key.filterMap fun k => columns[k.column]?).find? fun c => !c.type.isSeekable
    return ⟨.unsupportedColumn, "column " ++ c.name ++ " of type " ++ c.sqlType ++
      " can't be sought"⟩

def keyColumns? (columns : List Column) (source : Catalog.Index) : Option (List DirectedColumn) :=
  source.columns.mapM fun c => (positionIn? columns c.name).map fun p => ⟨p, c.direction⟩

/-- Adds an index, unless it has an unknown column or a name that is there already. -/
def addIndex (columns : List Column) (indexes : List Index) (source : Catalog.Index) :
    List Index :=
  match keyColumns? columns source with
  | none => indexes
  | some key =>
    if indexes.any fun i => i.name == source.name then indexes
    else indexes ++ [⟨⟨source.name, key, false⟩, source.unique, source.primary,
      unsupportedReason? columns source key⟩]

def containsKey (indexes : List Index) (positions : List Nat) : Bool :=
  indexes.any fun i => i.guaranteesUniqueness && i.tuple.positions.all positions.contains

def indexesOf (columns : List Column) (source : Catalog.Table) : List Index :=
  let indexes := source.indexes.foldl (addIndex columns) []
  indexes.map fun i => { i with tuple.containsKey := containsKey indexes i.tuple.positions }

def ofCatalog (id : TableId) (source : Catalog.Table) (abbreviation : String) : Table :=
  let columns := columnsOf source
  { id
    name := source.name
    isView := source.isView
    abbreviation
    hue := hueOf abbreviation
    columns
    indexes := indexesOf columns source
    foreignKeys := []
    relations := .empty
    byTarget := []
    primaryName := none }

def repeated? (seen : List String) : List ObjectName → Option ObjectName
  | [] => none
  | n :: rest => if seen.contains n.simple then some n else repeated? (n.simple :: seen) rest

def allOfCatalog (sources : List Catalog.Table) : Except BrowseError (List Table) :=
  match repeated? [] (sources.map Catalog.Table.name) with
  | some name => .error (.invalidCatalog (.repeatedTable name.display))
  | none =>
    let abbreviations := Abbreviation.abbreviate (sources.map fun t => t.name.name)
    .ok (root :: (sources.zip abbreviations).zipIdx.map fun ((source, abbreviation), i) =>
      ofCatalog (i + 1) source abbreviation)

def bySimple? (tables : List Table) (simple : String) : Option Table :=
  (tables.drop 1).find? fun t => t.name.simple == simple

def sameMembers (xs ys : List Nat) : Bool := xs.all ys.contains && ys.all xs.contains

/-- The indexes whose first columns are, in any order, the given ones. -/
def backingIndexes (indexes : List Index) (positions : List Nat) : List String :=
  if positions.isEmpty then []
  else (indexes.filter fun i =>
    positions.length ≤ i.tuple.positions.length &&
      sameMembers (i.tuple.positions.take positions.length) positions).map Index.name

def foreignKeyOf (t : Table) (name : String) (positions : List Nat) (principal : PrincipalKey) :
    ForeignKey where
  tuple := ⟨name, positions.map fun p => ⟨p, .unknown⟩, containsKey t.indexes positions⟩
  principal
  backing := backingIndexes t.indexes positions

def requirePosition (t : Table) (name : String) : Except BrowseError Nat :=
  match t.position? name with
  | some p => .ok p
  | none => .error (.unresolvedColumn t.name.simple name)

def principalKey (tables : List Table) (source : Catalog.ForeignKey) :
    Except BrowseError PrincipalKey :=
  match (bySimple? tables source.referencedTable.simple).bind fun t =>
    (t.uniqueIndexes.find? fun i => i.name == source.referencedKey).map fun i =>
      (⟨t.id, i.name, i.tuple.positions⟩ : PrincipalKey) with
  | some key => .ok key
  | none => .error (.unresolvedKey source.referencedTable.simple source.referencedKey)

def resolve (tables : List Table) (t : Table) (source : Catalog.ForeignKey) :
    Except BrowseError ForeignKey := do
  let positions ← source.columns.mapM t.requirePosition
  let principal ← principalKey tables source
  if principal.columns.length ≠ positions.length then
    throw (.invalidCatalog
      (.keyArity source.name positions.length principal.name principal.columns.length))
  return t.foreignKeyOf source.name positions principal

def resolveAll (tables : List Table) (source : Catalog.Table) :
    Except BrowseError (List (TableId × ForeignKey)) :=
  match bySimple? tables source.name.simple with
  | none => .ok []
  | some t => source.foreignKeys.mapM fun k => return (t.id, ← resolve tables t k)

/-- The nameless foreign key over no columns by which a table belongs to the root. -/
def rootKey (t : Table) : ForeignKey := t.foreignKeyOf "" [] ⟨0, "", []⟩

def withForeignKeys (t : Table) (resolved : List (TableId × ForeignKey)) : Table :=
  { t with
    foreignKeys := (resolved.filter fun k => k.1 == t.id).map Prod.snd ++ [t.rootKey] }

end Table

end RelationAtlas
