import RelationAtlas.Catalog.Basic
import RelationAtlas.Entity.Basic
import RelationAtlas.SystemViews.Extent

/-! # Reading a catalog from results

The results of the two extents over the system views become a catalog. Tables come first, in the
order of the result. A foreign key is added to its table if both its tables were read, with its
columns in the order of the columns of the referenced key. -/

namespace RelationAtlas.SystemViews

def required (e : Entity) (column : String) : Except BrowseError String :=
  match e.value? column with
  | some value => .ok value
  | none => .error (.unexpectedResult (.missingValue column))

def flag (e : Entity) (column : String) : Bool :=
  e.value? column == some "1" || e.value? column == some "true"

structure TableRecord where
  table : Catalog.Table
  columnNames : NameMap String
  indexKeys : NameMap (List String)

def readColumn (e : Entity) : Except BrowseError (String × Catalog.Column) := do
  let name ← required e "name"
  return (← required e "column_id",
    ⟨name, (e.value? "type_name").getD "", flag e "is_nullable"⟩)

def readKeyColumn (columnNames : NameMap String) (e : Entity) :
    OptionT (Except BrowseError) Catalog.KeyColumn := do
  let id ← required e "column_id"
  let some name := columnNames.get? id | failure
  return ⟨name, .ofDescendingFlag (flag e "is_descending_key")⟩

/-- Only clustered and nonclustered indexes, of types 1 and 2, are sorted trees. -/
def unsupportedReason? (e : Entity) : Option UnsupportedReason :=
  if flag e "is_disabled" then some ⟨.disabled, "index is disabled"⟩
  else if flag e "has_filter" then some ⟨.filtered, "index has a filter"⟩
  else if flag e "is_hypothetical" then some ⟨.hypothetical, "index is hypothetical"⟩
  else if e.value? "type" = some "1" ∨ e.value? "type" = some "2" then none
  else some ⟨.notBTree, "index type " ++ (e.value? "type").getD "?"⟩

/-- An index with its id. A heap has no name and is no index, and one over an unknown column is
passed over. -/
def readIndex (columnNames : NameMap String) (e : Entity) :
    OptionT (Except BrowseError) (String × Catalog.Index) := do
  let some name := e.value? "name" | failure
  let keys := (e.rows "P_index_columns_index").filter fun c => !flag c "is_included_column"
  let columns ← keys.mapM (readKeyColumn columnNames)
  return (← required e "index_id",
    ⟨name, flag e "is_unique", flag e "is_primary_key", columns, unsupportedReason? e⟩)

def readTable (schema : String) (isView : Bool) (e : Entity) : Except BrowseError TableRecord := do
  let name ← ObjectName.qualified schema (← required e "name")
  let columns ← (e.rows "P_columns_object").mapM readColumn
  let columnNames := NameMap.ofList (columns.map fun (id, c) => (id, c.name))
  let indexes ← (e.rows "P_indexes_object").mapM fun i => (readIndex columnNames i).run
  let indexes := indexes.filterMap id
  return {
    table := { name, isView, columns := columns.map Prod.snd, indexes := indexes.map Prod.snd }
    columnNames
    indexKeys := .ofList (indexes.map fun (id, i) => (id, i.columns.map Catalog.KeyColumn.name)) }

def readSchema (e : Entity) : Except BrowseError (List (String × TableRecord)) := do
  let name ← required e "name"
  let lists ← e.related.mapM fun list => list.entities.mapM fun object => do
    let id ← required object "object_id"
    return (id, ← readTable name (list.tableAlias == viewKind.1) object)
  return lists.flatten

def columnName (r : TableRecord) (id : String) : Except BrowseError String :=
  match r.columnNames.get? id with
  | some name => .ok name
  | none => .error (.unresolvedColumn r.table.name.simple ("#" ++ id))

def firstRow (e : Entity) (relation : String) (fault : ResultFault) : Except BrowseError Entity :=
  match (e.rows relation).head? with
  | some row => .ok row
  | none => .error (.unexpectedResult fault)

def readPair (parent referenced : TableRecord) (e : Entity) :
    Except BrowseError (String × String) := do
  let own ← columnName parent (← required e "parent_column_id")
  return (own, ← columnName referenced (← required e "referenced_column_id"))

/-- Pairs in the order of the columns of a key, those that reference no such column last. -/
def alignPairs (key : List String) (pairs : List (String × String)) : List (String × String) :=
  pairs.mergeSort fun p q => key.idxOf p.2 ≤ key.idxOf q.2

def readForeignKey (parent referenced : TableRecord) (name : String) (e : Entity) :
    Except BrowseError Catalog.ForeignKey := do
  let table ← firstRow e "D_foreign_keys_referenced" (.missingReferencedTable name)
  let schema ← firstRow table "D_objects_schema" (.missingReferencedSchema name)
  let key ← firstRow e "D_foreign_keys_key_index" (.missingReferencedKey name)
  let keyColumns := (referenced.indexKeys.get? (← required e "key_index_id")).getD []
  let pairs ← (e.rows "P_foreign_key_columns_fk").mapM (readPair parent referenced)
  let schemaName ← required schema "name"
  let tableName ← required table "name"
  let referencedTable ← ObjectName.qualified schemaName tableName
  return ⟨name, (alignPairs keyColumns pairs).map Prod.fst, referencedTable, ← required key "name"⟩

/-- Tables with their positions by object id; of two tables with one id the later is meant. -/
def positionsById (records : List (String × TableRecord)) : NameMap (Nat × TableRecord) :=
  .ofList (records.zipIdx.map fun ((id, r), i) => (id, (i, r)))

def readConstraint (positions : NameMap (Nat × TableRecord)) (e : Entity) :
    Except BrowseError (Option (Nat × Catalog.ForeignKey)) := do
  let name ← required e "name"
  let parent ← required e "parent_object_id"
  let referenced ← required e "referenced_object_id"
  match positions.get? parent, positions.get? referenced with
  | some (i, parent), some (_, referenced) =>
    return some (i, ← readForeignKey parent referenced name e)
  | _, _ => return none

def withForeignKeys (foreignKeys : List (Nat × Catalog.ForeignKey)) (position : Nat)
    (t : Catalog.Table) : Catalog.Table :=
  { t with foreignKeys := (foreignKeys.filter fun k => k.1 == position).map Prod.snd }

def catalogOfResults (tables foreignKeys : QueryResult) : Except BrowseError Catalog := do
  let records ← (tables.entities SystemView.schemas.simple).mapM readSchema
  let records := records.flatten
  let constraints ← (foreignKeys.entities SystemView.foreignKeys.simple).mapM
    (readConstraint (positionsById records))
  return {
    tables := records.zipIdx.map fun ((_, r), i) =>
      withForeignKeys (constraints.filterMap id) i r.table
    fingerprint := tables.fingerprint }

end RelationAtlas.SystemViews
