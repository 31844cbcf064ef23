import RelationAtlas.Extent.Expander
import RelationAtlas.SystemViews.Basic

/-! # What to read from the system views

Two extents fetch all that a catalog consists of. One goes from schemas to their tables and views,
and from there to columns, indexes and the columns of indexes. The other goes from foreign keys to
their pairs of columns, the referenced table with its schema, and the referenced key. -/

namespace RelationAtlas.SystemViews

def ascending (columns : List String) : List OrderColumn := columns.map fun c => ⟨c, .ascending⟩

def tableKind : String × String := ("t", "U")

def viewKind : String × String := ("v", "V")

/-- The columns of an object, with the name of their base type, or else of their own. -/
def columnsExtent (m : Model) (objects : TableId) : Except BrowseError Extent := do
  return { ← m.plainExtent objects "P_columns_object" with
    tableAlias := some "c"
    columns := ["column_id", "name", "is_nullable"]
    order := ascending ["column_id"]
    selectables := [⟨"type_name", "coalesce(type_name(\x7balias\x7d.[system_type_id]), " ++
      "type_name(\x7balias\x7d.[user_type_id]))"⟩] }

def indexColumnsExtent (m : Model) (indexes : TableId) : Except BrowseError Extent := do
  return { ← m.plainExtent indexes "P_index_columns_index" with
    tableAlias := some "ic"
    columns := ["column_id", "key_ordinal", "is_descending_key", "is_included_column"]
    order := ascending ["key_ordinal", "index_column_id"] }

def indexesExtent (m : Model) (objects : TableId) (indexColumns : Extent) :
    Except BrowseError Extent := do
  return { ← m.plainExtent objects "P_indexes_object" with
    tableAlias := some "i"
    columns := ["index_id", "name", "type", "is_unique", "is_primary_key", "is_disabled",
      "has_filter", "is_hypothetical"]
    order := ascending ["index_id"]
    children := [indexColumns] }

def objectsExtent (m : Model) (schemas : TableId) (kind : String × String)
    (children : List Extent) : Except BrowseError Extent := do
  return { ← m.plainExtent schemas "P_objects_schema" with
    tableAlias := some kind.1
    columns := ["object_id", "name"]
    order := ascending ["type", "name"]
    values := [some kind.2]
    keyCount := 1
    children }

def tablesExtent (m : Model) : Except BrowseError Extent := do
  let objects ← m.requireTable SystemView.objects.simple
  let indexes ← m.requireTable SystemView.indexes.simple
  let schemas ← m.requireTable SystemView.schemas.simple
  let columns ← columnsExtent m objects.id
  let indexList ← indexesExtent m objects.id (← indexColumnsExtent m indexes.id)
  let schemaList ← m.plainExtent Model.rootId SystemView.schemas.simple
  let tables ← objectsExtent m schemas.id tableKind [columns, indexList]
  let views ← objectsExtent m schemas.id viewKind [columns, indexList]
  return (Extent.root ⟨.table, 0⟩).withChild { schemaList with
    tableAlias := some "s"
    columns := ["schema_id", "name"]
    children := [tables, views] }

def columnPairsExtent (m : Model) (foreignKeys : TableId) : Except BrowseError Extent := do
  return { ← m.plainExtent foreignKeys "P_foreign_key_columns_fk" with
    tableAlias := some "fc"
    columns := ["constraint_column_id", "parent_column_id", "referenced_column_id"]
    order := ascending ["constraint_column_id"] }

def referencedTableExtent (m : Model) (foreignKeys : TableId) (schema : Extent) :
    Except BrowseError Extent := do
  return { ← m.plainExtent foreignKeys "D_foreign_keys_referenced" with
    tableAlias := some "rt"
    columns := ["object_id", "name"]
    children := [schema] }

def foreignKeysExtent (m : Model) : Except BrowseError Extent := do
  let foreignKeys ← m.requireTable SystemView.foreignKeys.simple
  let objects ← m.requireTable SystemView.objects.simple
  let pairs ← columnPairsExtent m foreignKeys.id
  let schema ← m.plainExtent objects.id "D_objects_schema"
  let table ← referencedTableExtent m foreignKeys.id
    { schema with tableAlias := some "rs", columns := ["name"] }
  let key ← m.plainExtent foreignKeys.id "D_foreign_keys_key_index"
  let list ← m.plainExtent Model.rootId SystemView.foreignKeys.simple
  return (Extent.root ⟨.table, 0⟩).withChild { list with
    tableAlias := some "f"
    columns := ["object_id", "name", "parent_object_id", "referenced_object_id", "key_index_id"]
    children := [pairs, table,
      { key with tableAlias := some "ri", columns := ["index_id", "name"] }] }

end RelationAtlas.SystemViews
