import RelationAtlas.Model.Build

/-! # System views

The views in which a database describes itself, as a catalog with the keys that connect them, so
that they can be modelled and queried like the tables of a user. -/

namespace RelationAtlas

inductive SystemView
  | schemas
  | objects
  | columns
  | indexes
  | indexColumns
  | foreignKeys
  | foreignKeyColumns
deriving DecidableEq, Repr

namespace SystemView

def name : SystemView → String
  | schemas => "schemas"
  | objects => "objects"
  | columns => "columns"
  | indexes => "indexes"
  | indexColumns => "index_columns"
  | foreignKeys => "foreign_keys"
  | foreignKeyColumns => "foreign_key_columns"

def objectName (v : SystemView) : ObjectName :=
  ⟨["sys", v.name], .inr (by cases v <;> decide +kernel)⟩

def simple (v : SystemView) : String := "sys." ++ v.name

def primaryKeyName (v : SystemView) : String := "PK_" ++ v.name

def references (t : Catalog.Table) (name : String) (columns : List String) (v : SystemView) :
    Catalog.Table :=
  t.foreignKey name columns v.objectName v.primaryKeyName

def tableOf (v : SystemView) (columns : List (String × String × Bool)) (key : List String) :
    Catalog.Table :=
  (columns.foldl (fun t (name, typeName, nullable) => t.withColumn name typeName nullable)
    { name := v.objectName : Catalog.Table }).primaryKey v.primaryKeyName key

def table : SystemView → Catalog.Table
  | schemas =>
    tableOf schemas [("schema_id", "int", false), ("name", "sysname", false)] ["schema_id"]
  | objects =>
    let t := tableOf objects [("object_id", "int", false), ("name", "sysname", false),
      ("schema_id", "int", false), ("type", "char", false), ("modify_date", "datetime", false)]
      ["object_id"]
    references t "objects_schema" ["schema_id"] schemas
  | columns =>
    let t := tableOf columns [("object_id", "int", false), ("column_id", "int", false),
      ("name", "sysname", true), ("system_type_id", "tinyint", false),
      ("user_type_id", "int", false), ("is_nullable", "bit", true)]
      ["object_id", "column_id"]
    references t "columns_object" ["object_id"] objects
  | indexes =>
    let t := tableOf indexes [("object_id", "int", false), ("index_id", "int", false),
      ("name", "sysname", true), ("type", "tinyint", false), ("is_unique", "bit", true),
      ("is_primary_key", "bit", true), ("is_disabled", "bit", true), ("has_filter", "bit", true),
      ("is_hypothetical", "bit", true)]
      ["object_id", "index_id"]
    references t "indexes_object" ["object_id"] objects
  | indexColumns =>
    let t := tableOf indexColumns [("object_id", "int", false), ("index_id", "int", false),
      ("index_column_id", "int", false), ("column_id", "int", false),
      ("key_ordinal", "tinyint", false), ("is_descending_key", "bit", true),
      ("is_included_column", "bit", true)]
      ["object_id", "index_id", "index_column_id"]
    references t "index_columns_index" ["object_id", "index_id"] indexes
  | foreignKeys =>
    let t := tableOf foreignKeys [("object_id", "int", false), ("name", "sysname", false),
      ("parent_object_id", "int", false), ("referenced_object_id", "int", true),
      ("key_index_id", "int", true)]
      ["object_id"]
    let t := references t "foreign_keys_parent" ["parent_object_id"] objects
    let t := references t "foreign_keys_referenced" ["referenced_object_id"] objects
    references t "foreign_keys_key_index" ["referenced_object_id", "key_index_id"] indexes
  | foreignKeyColumns =>
    let t := tableOf foreignKeyColumns [("constraint_object_id", "int", false),
      ("constraint_column_id", "int", false), ("parent_object_id", "int", false),
      ("parent_column_id", "int", false), ("referenced_object_id", "int", false),
      ("referenced_column_id", "int", false)]
      ["constraint_object_id", "constraint_column_id"]
    let t := references t "foreign_key_columns_fk" ["constraint_object_id"] foreignKeys
    references t "foreign_key_columns_parent_column" ["parent_object_id", "parent_column_id"] columns

end SystemView

def systemCatalog : Catalog where
  tables := [SystemView.schemas.table, SystemView.objects.table, SystemView.columns.table,
    SystemView.indexes.table, SystemView.indexColumns.table, SystemView.foreignKeys.table,
    SystemView.foreignKeyColumns.table]

def systemModel : Except BrowseError Model := Model.build {} systemCatalog

end RelationAtlas
