import RelationAtlas.Proofs.Entity.RoundTrip
import RelationAtlas.SystemViews.Extent

/-! # What is asked of the system views

What each extent of the two trees selects, and under which alias. The aliases of siblings differ,
and only lists of tables and of views are filtered, so rows are told apart in every answer. -/

namespace RelationAtlas.SystemViews

/-- What an extent follows, what it selects under which alias, and what it compares with. -/
structure Selects (x : Extent) (relation tableAlias : String) (names : List String)
    (values : List (Option String)) (children : List Extent) : Prop where
  relation : x.relation = some relation
  tableAlias : x.tableAlias = some tableAlias
  names : Entity.selectedNames x.toHop = names
  values : x.values = values
  children : x.children = children

section Extents

variable {m : Model} {table : TableId} {x : Extent}

theorem exists_end_of_plainExtent {relation : String} (h : m.plainExtent table relation = .ok x) :
    ∃ e : RelationEnd, x = ⟨{ m.hop e.id ⟨.table, 0⟩ with
      relation := some relation, order := m.defaultOrder e.id }, []⟩ := by
  obtain ⟨e, -, made⟩ := bind_eq_ok_iff.1 h
  cases made
  exact ⟨e, rfl⟩

theorem exists_end_of_extent {relation : String} {f : Extent → Extent}
    (h : (do return f (← m.plainExtent table relation)) = Except.ok x) :
    ∃ e : RelationEnd, x = f ⟨{ m.hop e.id ⟨.table, 0⟩ with
      relation := some relation, order := m.defaultOrder e.id }, []⟩ := by
  obtain ⟨plain, made, rest⟩ := bind_eq_ok_iff.1 h
  obtain ⟨e, rfl⟩ := exists_end_of_plainExtent made
  cases rest
  exact ⟨e, rfl⟩

theorem columnsExtent_selects (h : columnsExtent m table = .ok x) : Selects x "P_columns_object" "c"
    ["column_id", "name", "is_nullable", "type_name"] [] [] := by
  obtain ⟨e, rfl⟩ := exists_end_of_extent h
  exact ⟨rfl, rfl, rfl, rfl, rfl⟩

theorem indexColumnsExtent_selects (h : indexColumnsExtent m table = .ok x) :
    Selects x "P_index_columns_index" "ic"
      ["column_id", "key_ordinal", "is_descending_key", "is_included_column"] [] [] := by
  obtain ⟨e, rfl⟩ := exists_end_of_extent h
  exact ⟨rfl, rfl, rfl, rfl, rfl⟩

theorem indexesExtent_selects {indexColumns : Extent}
    (h : indexesExtent m table indexColumns = .ok x) : Selects x "P_indexes_object" "i"
      ["index_id", "name", "type", "is_unique", "is_primary_key", "is_disabled", "has_filter",
        "is_hypothetical"] [] [indexColumns] := by
  obtain ⟨e, rfl⟩ := exists_end_of_extent h
  exact ⟨rfl, rfl, rfl, rfl, rfl⟩

theorem objectsExtent_selects {kind : String × String} {children : List Extent}
    (h : objectsExtent m table kind children = .ok x) :
    Selects x "P_objects_schema" kind.1 ["object_id", "name"] [some kind.2] children := by
  obtain ⟨e, rfl⟩ := exists_end_of_extent h
  exact ⟨rfl, rfl, rfl, rfl, rfl⟩

theorem columnPairsExtent_selects (h : columnPairsExtent m table = .ok x) :
    Selects x "P_foreign_key_columns_fk" "fc"
      ["constraint_column_id", "parent_column_id", "referenced_column_id"] [] [] := by
  obtain ⟨e, rfl⟩ := exists_end_of_extent h
  exact ⟨rfl, rfl, rfl, rfl, rfl⟩

theorem referencedTableExtent_selects {schema : Extent}
    (h : referencedTableExtent m table schema = .ok x) :
    Selects x "D_foreign_keys_referenced" "rt" ["object_id", "name"] [] [schema] := by
  obtain ⟨e, rfl⟩ := exists_end_of_extent h
  exact ⟨rfl, rfl, rfl, rfl, rfl⟩

theorem tablesExtent_selects (h : tablesExtent m = .ok x) : ∃ columns indexColumns indexes tables
    views schemas : Extent, x = (Extent.root ⟨.table, 0⟩).withChild schemas ∧
      Selects schemas "sys.schemas" "s" ["schema_id", "name"] [] [tables, views] ∧
      Selects tables "P_objects_schema" "t" ["object_id", "name"] [some "U"] [columns, indexes] ∧
      Selects views "P_objects_schema" "v" ["object_id", "name"] [some "V"] [columns, indexes] ∧
      Selects columns "P_columns_object" "c" ["column_id", "name", "is_nullable", "type_name"] []
        [] ∧
      Selects indexes "P_indexes_object" "i" ["index_id", "name", "type", "is_unique",
        "is_primary_key", "is_disabled", "has_filter", "is_hypothetical"] [] [indexColumns] ∧
      Selects indexColumns "P_index_columns_index" "ic"
        ["column_id", "key_ordinal", "is_descending_key", "is_included_column"] [] [] := by
  obtain ⟨objectsTable, -, h⟩ := bind_eq_ok_iff.1 h
  obtain ⟨indexesTable, -, h⟩ := bind_eq_ok_iff.1 h
  obtain ⟨schemasTable, -, h⟩ := bind_eq_ok_iff.1 h
  obtain ⟨columns, columnsMade, h⟩ := bind_eq_ok_iff.1 h
  obtain ⟨indexColumns, indexColumnsMade, h⟩ := bind_eq_ok_iff.1 h
  obtain ⟨indexes, indexesMade, h⟩ := bind_eq_ok_iff.1 h
  obtain ⟨plain, schemasMade, h⟩ := bind_eq_ok_iff.1 h
  obtain ⟨tables, tablesMade, h⟩ := bind_eq_ok_iff.1 h
  obtain ⟨views, viewsMade, h⟩ := bind_eq_ok_iff.1 h
  obtain ⟨e, rfl⟩ := exists_end_of_plainExtent schemasMade
  cases h
  exact ⟨columns, indexColumns, indexes, tables, views, _, rfl, ⟨rfl, rfl, rfl, rfl, rfl⟩,
    objectsExtent_selects tablesMade, objectsExtent_selects viewsMade,
    columnsExtent_selects columnsMade, indexesExtent_selects indexesMade,
    indexColumnsExtent_selects indexColumnsMade⟩

theorem foreignKeysExtent_selects (h : foreignKeysExtent m = .ok x) : ∃ pairs schema table key
    foreignKeys : Extent, x = (Extent.root ⟨.table, 0⟩).withChild foreignKeys ∧
      Selects foreignKeys "sys.foreign_keys" "f" ["object_id", "name", "parent_object_id",
        "referenced_object_id", "key_index_id"] [] [pairs, table, key] ∧
      Selects pairs "P_foreign_key_columns_fk" "fc"
        ["constraint_column_id", "parent_column_id", "referenced_column_id"] [] [] ∧
      Selects table "D_foreign_keys_referenced" "rt" ["object_id", "name"] [] [schema] ∧
      Selects schema "D_objects_schema" "rs" ["name"] [] [] ∧
      Selects key "D_foreign_keys_key_index" "ri" ["index_id", "name"] [] [] := by
  obtain ⟨foreignKeysTable, -, h⟩ := bind_eq_ok_iff.1 h
  obtain ⟨objectsTable, -, h⟩ := bind_eq_ok_iff.1 h
  obtain ⟨pairs, pairsMade, h⟩ := bind_eq_ok_iff.1 h
  obtain ⟨plainSchema, schemaMade, h⟩ := bind_eq_ok_iff.1 h
  obtain ⟨table, tableMade, h⟩ := bind_eq_ok_iff.1 h
  obtain ⟨plainKey, keyMade, h⟩ := bind_eq_ok_iff.1 h
  obtain ⟨plainList, listMade, h⟩ := bind_eq_ok_iff.1 h
  obtain ⟨d, rfl⟩ := exists_end_of_plainExtent schemaMade
  obtain ⟨k, rfl⟩ := exists_end_of_plainExtent keyMade
  obtain ⟨e, rfl⟩ := exists_end_of_plainExtent listMade
  cases h
  exact ⟨pairs, _, table, _, _, rfl, ⟨rfl, rfl, rfl, rfl, rfl⟩,
    columnPairsExtent_selects pairsMade, referencedTableExtent_selects tableMade,
    ⟨rfl, rfl, rfl, rfl, rfl⟩, ⟨rfl, rfl, rfl, rfl, rfl⟩⟩

end Extents

section Readable

theorem Selects.readable {x : Extent} {relation tableAlias : String} {names : List String}
    {values : List (Option String)} {children : List Extent}
    (h : Selects x relation tableAlias names values children)
    (unlike : Query.matchingColumn ∉ names) (given : (Query.givenAliases children).Nodup)
    (below : Extent.ReadableAll children) : x.Readable := by
  obtain ⟨hop, _⟩ := x
  obtain ⟨-, -, rfl, -, rfl⟩ := h
  rw [Extent.Readable]
  exact ⟨fun _ => unlike, given, below⟩

theorem readable_root {flavor : Flavor} {x : Extent} (h : x.Readable) :
    ((Extent.root flavor).withChild x).Readable := by
  refine ⟨fun filtered => absurd rfl filtered.1, ?_, h, trivial⟩
  change (Query.givenAliases [x]).Nodup
  rw [Query.givenAliases, List.filterMap_cons]
  cases x.tableAlias with
  | none => exact List.nodup_nil
  | some given => exact List.nodup_singleton given

theorem Selects.leaf_readable {x : Extent} {relation tableAlias : String} {names : List String}
    {values : List (Option String)} (h : Selects x relation tableAlias names values [])
    (unlike : Query.matchingColumn ∉ names) : x.Readable :=
  h.readable unlike List.nodup_nil trivial

theorem tablesExtent_readable {m : Model} {x : Extent} (h : tablesExtent m = .ok x) :
    x.Readable := by
  obtain ⟨columns, indexColumns, indexes, tables, views, schemas, rfl, isSchemas, isTables,
    isViews, isColumns, isIndexes, isIndexColumns⟩ := tablesExtent_selects h
  have readIndexes : indexes.Readable := by
    refine isIndexes.readable (by decide) ?_ ⟨isIndexColumns.leaf_readable (by decide), trivial⟩
    simp [Query.givenAliases, isIndexColumns.tableAlias]
  have below : Extent.ReadableAll [columns, indexes] :=
    ⟨isColumns.leaf_readable (by decide), readIndexes, trivial⟩
  have given : (Query.givenAliases [columns, indexes]).Nodup := by
    simp [Query.givenAliases, isColumns.tableAlias, isIndexes.tableAlias]
  have readTables : tables.Readable := isTables.readable (by decide) given below
  have readViews : views.Readable := isViews.readable (by decide) given below
  refine readable_root (isSchemas.readable (by decide) ?_ ⟨readTables, readViews, trivial⟩)
  simp [Query.givenAliases, isTables.tableAlias, isViews.tableAlias]

theorem foreignKeysExtent_readable {m : Model} {x : Extent} (h : foreignKeysExtent m = .ok x) :
    x.Readable := by
  obtain ⟨pairs, schema, table, key, foreignKeys, rfl, isForeignKeys, isPairs, isTable, isSchema,
    isKey⟩ := foreignKeysExtent_selects h
  have readTable : table.Readable := by
    refine isTable.readable (by decide) ?_ ⟨isSchema.leaf_readable (by decide), trivial⟩
    simp [Query.givenAliases, isSchema.tableAlias]
  refine readable_root (isForeignKeys.readable (by decide) ?_ ⟨isPairs.leaf_readable (by decide),
    readTable, isKey.leaf_readable (by decide), trivial⟩)
  simp [Query.givenAliases, isPairs.tableAlias, isTable.tableAlias, isKey.tableAlias]

end Readable

end RelationAtlas.SystemViews
