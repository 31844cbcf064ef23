import Mathlib.Data.List.Forall2
import RelationAtlas.SystemViews.Reading

/-! # Describing a catalog by rows

What the rows of the system views say about a catalog in which objects, columns and indexes have
ids. Rows of heaps, and rows of columns that an index includes beside its key, may stand anywhere;
the columns of a foreign key may be paired in any order. -/

namespace RelationAtlas.SystemViews

structure NumberedTable where
  id : String
  name : ObjectName
  isView : Bool
  columns : List (String × Catalog.Column)
  indexes : List (String × Catalog.Index)
  foreignKeys : List Catalog.ForeignKey

def NumberedTable.table (t : NumberedTable) : Catalog.Table :=
  ⟨t.name, t.isView, t.columns.map Prod.snd, t.indexes.map Prod.snd, t.foreignKeys⟩

structure NumberedSchema where
  name : String
  tables : List NumberedTable
  views : List NumberedTable

def objectsOf (schemas : List NumberedSchema) : List NumberedTable :=
  schemas.flatMap fun s => s.tables ++ s.views

structure AreNumbered (objects : List NumberedTable) : Prop where
  ids : (objects.map NumberedTable.id).Nodup
  columns : ∀ t ∈ objects, (t.columns.map Prod.fst).Nodup
  indexes : ∀ t ∈ objects, (t.indexes.map Prod.fst).Nodup

structure IsColumnRow (e : Entity) (c : String × Catalog.Column) : Prop where
  id : e.value? "column_id" = some c.1
  name : e.value? "name" = some c.2.name
  typeName : e.value? "type_name" = some c.2.typeName
  nullable : flag e "is_nullable" = c.2.nullable

/-- The rows of the columns of a key in their order, with included columns anywhere. -/
inductive KeyRows (columns : List (String × Catalog.Column)) :
    List Entity → List Catalog.KeyColumn → Prop
  | nil : KeyRows columns [] []
  | key {e : Entity} {rows : List Entity} {keys : List Catalog.KeyColumn} {id : String}
      {c : Catalog.Column} (own : flag e "is_included_column" = false)
      (column : e.value? "column_id" = some id) (listed : (id, c) ∈ columns)
      (rest : KeyRows columns rows keys) : KeyRows columns (e :: rows)
        (⟨c.name, .ofDescendingFlag (flag e "is_descending_key")⟩ :: keys)
  | included {e : Entity} {rows : List Entity} {keys : List Catalog.KeyColumn}
      (beside : flag e "is_included_column" = true) (rest : KeyRows columns rows keys) :
      KeyRows columns (e :: rows) keys

inductive IsMarked (e : Entity) : Option UnsupportedReason → Prop
  | disabled (h : flag e "is_disabled" = true) : IsMarked e (some ⟨.disabled, "index is disabled"⟩)
  | filtered (enabled : flag e "is_disabled" = false) (h : flag e "has_filter" = true) :
      IsMarked e (some ⟨.filtered, "index has a filter"⟩)
  | hypothetical (enabled : flag e "is_disabled" = false) (full : flag e "has_filter" = false)
      (h : flag e "is_hypothetical" = true) :
      IsMarked e (some ⟨.hypothetical, "index is hypothetical"⟩)
  | notBTree (enabled : flag e "is_disabled" = false) (full : flag e "has_filter" = false)
      (real : flag e "is_hypothetical" = false) (clustered : e.value? "type" ≠ some "1")
      (nonclustered : e.value? "type" ≠ some "2") :
      IsMarked e (some ⟨.notBTree, "index type " ++ (e.value? "type").getD "?"⟩)
  | supported (enabled : flag e "is_disabled" = false) (full : flag e "has_filter" = false)
      (real : flag e "is_hypothetical" = false)
      (sorted : e.value? "type" = some "1" ∨ e.value? "type" = some "2") : IsMarked e none

structure IsIndexRow (columns : List (String × Catalog.Column)) (e : Entity)
    (i : String × Catalog.Index) : Prop where
  id : e.value? "index_id" = some i.1
  name : e.value? "name" = some i.2.name
  unique : flag e "is_unique" = i.2.unique
  primary : flag e "is_primary_key" = i.2.primary
  keys : KeyRows columns (e.rows "P_index_columns_index") i.2.columns
  mark : IsMarked e i.2.unsupported

/-- The rows of indexes in their order, with heaps, which have no name, anywhere. -/
inductive IndexRows (columns : List (String × Catalog.Column)) :
    List Entity → List (String × Catalog.Index) → Prop
  | nil : IndexRows columns [] []
  | index {e : Entity} {rows : List Entity} {i : String × Catalog.Index}
      {indexes : List (String × Catalog.Index)} (first : IsIndexRow columns e i)
      (rest : IndexRows columns rows indexes) : IndexRows columns (e :: rows) (i :: indexes)
  | heap {e : Entity} {rows : List Entity} {indexes : List (String × Catalog.Index)}
      (nameless : e.value? "name" = none) (rest : IndexRows columns rows indexes) :
      IndexRows columns (e :: rows) indexes

structure IsTableRow (schema : String) (isView : Bool) (e : Entity) (t : NumberedTable) :
    Prop where
  id : e.value? "object_id" = some t.id
  name : ∃ own, e.value? "name" = some own ∧ t.name.parts = [schema, own]
  kind : t.isView = isView
  columns : List.Forall₂ IsColumnRow (e.rows "P_columns_object") t.columns
  indexes : IndexRows t.columns (e.rows "P_indexes_object") t.indexes

structure IsSchemaRow (e : Entity) (s : NumberedSchema) : Prop where
  name : e.value? "name" = some s.name
  lists : ∃ tables views, e.related.map (fun l => (l.tableAlias, l.entities)) =
      [(tableKind.1, tables), (viewKind.1, views)] ∧
    List.Forall₂ (IsTableRow s.name false) tables s.tables ∧
      List.Forall₂ (IsTableRow s.name true) views s.views

structure IsPairRow (parent referenced : NumberedTable) (e : Entity) (pair : String × String) :
    Prop where
  own : ∃ id c, e.value? "parent_column_id" = some id ∧ (id, c) ∈ parent.columns ∧ c.name = pair.1
  other : ∃ id c, e.value? "referenced_column_id" = some id ∧ (id, c) ∈ referenced.columns ∧
    c.name = pair.2

def IsReferencedRow (row : Entity) (name : ObjectName) : Prop :=
  ∃ own schema within, row.value? "name" = some own ∧
    (row.rows "D_objects_schema").head? = some within ∧ within.value? "name" = some schema ∧
      name.parts = [schema, own]

structure IsForeignKeyRow (parent referenced : NumberedTable) (key : String × Catalog.Index)
    (e : Entity) (k : Catalog.ForeignKey) : Prop where
  name : e.value? "name" = some k.name
  parentId : e.value? "parent_object_id" = some parent.id
  referencedId : e.value? "referenced_object_id" = some referenced.id
  keyId : e.value? "key_index_id" = some key.1
  listed : key ∈ referenced.indexes
  distinct : (key.2.columns.map Catalog.KeyColumn.name).Nodup
  length : k.columns.length = key.2.columns.length
  pairs : ∃ pairs : List (String × String),
    List.Forall₂ (IsPairRow parent referenced) (e.rows "P_foreign_key_columns_fk") pairs ∧
      pairs.Perm (k.columns.zip (key.2.columns.map Catalog.KeyColumn.name))
  table : k.referencedTable = referenced.name
  tableRow : ∃ row, (e.rows "D_foreign_keys_referenced").head? = some row ∧
    IsReferencedRow row k.referencedTable
  key : k.referencedKey = key.2.name
  keyRow : ∃ row, (e.rows "D_foreign_keys_key_index").head? = some row ∧
    row.value? "name" = some k.referencedKey

def AreForeignKeyRows (objects : List NumberedTable) (rows : List Entity) : Prop :=
  ∃ constraints : List (Nat × Catalog.ForeignKey),
    List.Forall₂ (fun e c => ∃ parent referenced key, objects[c.1]? = some parent ∧
      referenced ∈ objects ∧ IsForeignKeyRow parent referenced key e c.2) rows constraints ∧
    ∀ i t, objects[i]? = some t →
      (constraints.filter fun c => c.1 == i).map Prod.snd = t.foreignKeys

/-- Two answers that describe the objects of some schemas. -/
structure Describes (schemas : List NumberedSchema) (tables foreignKeys : Entity) : Prop where
  numbered : AreNumbered (objectsOf schemas)
  schemaRows : List.Forall₂ IsSchemaRow (tables.rows SystemView.schemas.simple) schemas
  foreignKeyRows : AreForeignKeyRows (objectsOf schemas)
    (foreignKeys.rows SystemView.foreignKeys.simple)

end RelationAtlas.SystemViews
