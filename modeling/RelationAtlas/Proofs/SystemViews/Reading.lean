import Mathlib.Data.List.Nodup
import RelationAtlas.Proofs.NameMap
import RelationAtlas.Proofs.ObjectName
import RelationAtlas.Proofs.Outcome
import RelationAtlas.Proofs.SystemViews.Description

/-! # Reading a catalog back

Each row that describes a part of a catalog is read as that part, and the ids lead from foreign
keys to the tables, columns and keys that they stand for. So two answers that describe a catalog
are read as that catalog. -/

namespace RelationAtlas.SystemViews

theorem required_eq_ok_iff {e : Entity} {column value : String} :
    required e column = .ok value ↔ e.value? column = some value := by
  rw [required]
  cases e.value? column <;> simp

theorem required_eq {e : Entity} {column value : String} (h : e.value? column = some value) :
    required e column = .ok value :=
  required_eq_ok_iff.2 h

section Tables

theorem readColumn_of_row {e : Entity} {c : String × Catalog.Column} (row : IsColumnRow e c) :
    readColumn e = .ok c := by
  rw [readColumn, required_eq row.name, required_eq row.id, row.typeName, row.nullable]
  rfl

def columnNamesOf (columns : List (String × Catalog.Column)) : NameMap String :=
  .ofList (columns.map fun c => (c.1, c.2.name))

theorem get?_ofList_of_numbered {α β : Type} {numbered : List (String × α)} (f : α → β)
    (distinct : (numbered.map Prod.fst).Nodup) {id : String} {a : α} (listed : (id, a) ∈ numbered) :
    (NameMap.ofList (numbered.map fun n => (n.1, f n.2))).get? id = some (f a) := by
  have ids : ((numbered.map fun n => (n.1, f n.2)).map Prod.fst).Nodup := by
    rw [List.map_map]
    exact distinct
  exact (NameMap.get?_ofList_eq_some_iff ids).2 (List.mem_map_of_mem listed)

theorem get?_columnNamesOf {columns : List (String × Catalog.Column)}
    (numbered : (columns.map Prod.fst).Nodup) {id : String} {c : Catalog.Column}
    (listed : (id, c) ∈ columns) : (columnNamesOf columns).get? id = some c.name :=
  get?_ofList_of_numbered Catalog.Column.name numbered listed

theorem readKeyColumn_of_row {columns : List (String × Catalog.Column)}
    (numbered : (columns.map Prod.fst).Nodup) {e : Entity} {id : String} {c : Catalog.Column}
    (column : e.value? "column_id" = some id) (listed : (id, c) ∈ columns) :
    (readKeyColumn (columnNamesOf columns) e).run =
      .ok (some ⟨c.name, .ofDescendingFlag (flag e "is_descending_key")⟩) := by
  rw [readKeyColumn, run_liftM_bind_of_ok (required_eq column), get?_columnNamesOf numbered listed]
  rfl

theorem mapM_readKeyColumn {columns : List (String × Catalog.Column)}
    (numbered : (columns.map Prod.fst).Nodup) {rows : List Entity}
    {keys : List Catalog.KeyColumn} (h : KeyRows columns rows keys) :
    ((rows.filter fun e => !flag e "is_included_column").mapM
      (readKeyColumn (columnNamesOf columns))).run = .ok (some keys) := by
  induction h with
  | nil => rfl
  | @key e rows keys id c own column listed rest ih =>
    rw [List.filter_cons_of_pos (by simp [own]), List.mapM_cons,
      run_bind_of_some (readKeyColumn_of_row numbered column listed), run_bind_of_some ih]
    rfl
  | included beside rest ih =>
    rwa [List.filter_cons_of_neg (by simp [beside])]

theorem unsupportedReason?_of_marked {e : Entity} {reason : Option UnsupportedReason}
    (h : IsMarked e reason) : unsupportedReason? e = reason := by
  rw [unsupportedReason?]
  cases h <;> simp_all

theorem readIndex_of_row {columns : List (String × Catalog.Column)}
    (numbered : (columns.map Prod.fst).Nodup) {e : Entity} {i : String × Catalog.Index}
    (row : IsIndexRow columns e i) :
    (readIndex (columnNamesOf columns) e).run = .ok (some i) := by
  rw [readIndex, row.name]
  rw [run_bind_of_some (mapM_readKeyColumn numbered row.keys), required_eq row.id,
    unsupportedReason?_of_marked row.mark, row.unique, row.primary]
  rfl

theorem readIndex_of_heap {columns : NameMap String} {e : Entity}
    (nameless : e.value? "name" = none) : (readIndex columns e).run = .ok none := by
  rw [readIndex, nameless]
  rfl

theorem exists_mapM_readIndex {columns : List (String × Catalog.Column)}
    (numbered : (columns.map Prod.fst).Nodup) {rows : List Entity}
    {indexes : List (String × Catalog.Index)} (h : IndexRows columns rows indexes) :
    ∃ read, rows.mapM (fun e => (readIndex (columnNamesOf columns) e).run) = .ok read ∧
      read.filterMap id = indexes := by
  induction h with
  | nil => exact ⟨[], rfl, rfl⟩
  | @index e rows i indexes first rest ih =>
    obtain ⟨read, made, kept⟩ := ih
    refine ⟨some i :: read, ?_, by rw [← kept]; rfl⟩
    rw [List.mapM_cons, readIndex_of_row numbered first, made]
    rfl
  | @heap e rows indexes nameless rest ih =>
    obtain ⟨read, made, kept⟩ := ih
    refine ⟨none :: read, ?_, by rw [← kept]; rfl⟩
    rw [List.mapM_cons, readIndex_of_heap nameless, made]
    rfl

def indexKeysOf (indexes : List (String × Catalog.Index)) : NameMap (List String) :=
  .ofList (indexes.map fun i => (i.1, i.2.columns.map Catalog.KeyColumn.name))

def NumberedTable.record (t : NumberedTable) : TableRecord where
  table := { t.table with foreignKeys := [] }
  columnNames := columnNamesOf t.columns
  indexKeys := indexKeysOf t.indexes

theorem qualified_of_parts {n : ObjectName} {schema own : String} (h : n.parts = [schema, own]) :
    ObjectName.qualified schema own = .ok n := by
  have named : n.isRoot = false := by rw [ObjectName.isRoot, h]; rfl
  rw [ObjectName.qualified, ← h]
  exact ObjectName.ofParts_parts named

theorem readTable_of_row {schema : String} {isView : Bool} {e : Entity} {t : NumberedTable}
    (numbered : (t.columns.map Prod.fst).Nodup) (row : IsTableRow schema isView e t) :
    readTable schema isView e = .ok t.record := by
  obtain ⟨own, named, parts⟩ := row.name
  obtain ⟨read, made, kept⟩ := exists_mapM_readIndex numbered row.indexes
  have columns : (e.rows "P_columns_object").mapM readColumn = .ok t.columns :=
    mapM_eq_ok_iff.2 (row.columns.imp fun _ _ => readColumn_of_row)
  refine bind_eq_ok_iff.2 ⟨_, required_eq named, bind_eq_ok_iff.2 ⟨_, qualified_of_parts parts,
    bind_eq_ok_iff.2 ⟨_, columns, bind_eq_ok_iff.2 ⟨_, made, ?_⟩⟩⟩⟩
  simp only [kept, ← row.kind]
  rfl

def NumberedTable.entry (t : NumberedTable) : String × TableRecord := (t.id, t.record)

theorem readObjects_of_rows {schema : String} {isView : Bool} {rows : List Entity}
    {ts : List NumberedTable} (numbered : ∀ t ∈ ts, (t.columns.map Prod.fst).Nodup)
    (h : List.Forall₂ (IsTableRow schema isView) rows ts) :
    (rows.mapM fun object => do
      let id ← required object "object_id"
      return (id, ← readTable schema isView object)) = .ok (ts.map NumberedTable.entry) := by
  refine mapM_eq_ok_iff.2 (List.forall₂_map_right_iff.2 (forall₂_imp_of_mem h ?_))
  intro object t ht row
  exact bind_eq_ok_iff.2 ⟨_, required_eq row.id,
    bind_eq_ok_iff.2 ⟨_, readTable_of_row (numbered t ht) row, rfl⟩⟩

theorem readSchema_of_row {e : Entity} {s : NumberedSchema}
    (numbered : ∀ t ∈ s.tables ++ s.views, (t.columns.map Prod.fst).Nodup) (row : IsSchemaRow e s) :
    readSchema e = .ok ((s.tables ++ s.views).map NumberedTable.entry) := by
  obtain ⟨tablesNumbered, viewsNumbered⟩ := List.forall_mem_append.1 numbered
  obtain ⟨tables, views, lists, tableRows, viewRows⟩ := row.lists
  obtain ⟨first, rest, related, at_tables, others⟩ := List.map_eq_cons_iff.1 lists
  obtain ⟨second, rest, rfl, at_views, none_left⟩ := List.map_eq_cons_iff.1 others
  obtain rfl := List.map_eq_nil_iff.1 none_left
  obtain ⟨tableAlias, rfl⟩ := Prod.mk.inj at_tables
  obtain ⟨viewAlias, rfl⟩ := Prod.mk.inj at_views
  have isTables : (first.tableAlias == viewKind.1) = false := by rw [tableAlias]; decide
  have isViews : (second.tableAlias == viewKind.1) = true := by rw [viewAlias]; decide
  have readTables := readObjects_of_rows tablesNumbered tableRows
  have readViews := readObjects_of_rows viewsNumbered viewRows
  rw [← isTables] at readTables
  rw [← isViews] at readViews
  refine bind_eq_ok_iff.2 ⟨_, required_eq row.name, bind_eq_ok_iff.2
    ⟨[s.tables.map NumberedTable.entry, s.views.map NumberedTable.entry], ?_, by simp; rfl⟩⟩
  rw [related, mapM_eq_ok_iff]
  exact .cons readTables (.cons readViews .nil)

theorem exists_mapM_readSchema {rows : List Entity} {schemas : List NumberedSchema}
    (numbered : ∀ t ∈ objectsOf schemas, (t.columns.map Prod.fst).Nodup)
    (h : List.Forall₂ IsSchemaRow rows schemas) : ∃ lists, rows.mapM readSchema = .ok lists ∧
      lists.flatten = (objectsOf schemas).map NumberedTable.entry := by
  refine ⟨schemas.map fun s => (s.tables ++ s.views).map NumberedTable.entry, ?_, ?_⟩
  · refine mapM_eq_ok_iff.2 (List.forall₂_map_right_iff.2 (forall₂_imp_of_mem h ?_))
    intro e s hs row
    exact readSchema_of_row (fun t ht => numbered t (List.mem_flatMap.2 ⟨s, hs, ht⟩)) row
  · rw [objectsOf, List.map_flatMap, List.flatMap]

end Tables

section ForeignKeys

theorem idxOf_zip {own key : List String} (distinct : key.Nodup) {i : Nat}
    (h : i < (own.zip key).length) : key.idxOf (own.zip key)[i].2 = i := by
  rw [List.getElem_zip]
  exact distinct.idxOf_getElem i _

/-- Pairs are put in the order of the key, whatever order they were in. -/
theorem alignPairs_of_perm {own key : List String} {pairs : List (String × String)}
    (distinct : key.Nodup) (perm : pairs.Perm (own.zip key)) :
    alignPairs key pairs = own.zip key := by
  have same : (alignPairs key pairs).Perm (own.zip key) := (List.mergeSort_perm _ _).trans perm
  have sorted : (alignPairs key pairs).Pairwise fun p q =>
      decide (key.idxOf p.2 ≤ key.idxOf q.2) = true := by
    rw [alignPairs]
    exact List.pairwise_mergeSort (fun _ _ _ => by simpa using Nat.le_trans)
      (fun _ _ => by simpa using Nat.le_total _ _) pairs
  have ascending : (own.zip key).Pairwise fun p q =>
      decide (key.idxOf p.2 ≤ key.idxOf q.2) = true := by
    rw [List.pairwise_iff_getElem]
    intro i j hi hj less
    rw [idxOf_zip distinct, idxOf_zip distinct]
    exact decide_eq_true (Nat.le_of_lt less)
  refine List.Perm.eq_of_pairwise ?_ sorted ascending same
  -- two pairs at one position of the key are one pair, as the key has no column twice
  intro p q hp hq before after
  obtain ⟨i, hi, rfl⟩ := List.getElem_of_mem (same.mem_iff.1 hp)
  obtain ⟨j, hj, rfl⟩ := List.getElem_of_mem hq
  rw [idxOf_zip distinct, idxOf_zip distinct, decide_eq_true_iff] at before after
  obtain rfl : i = j := Nat.le_antisymm before after
  rfl

theorem columnName_of_listed {t : NumberedTable} (numbered : (t.columns.map Prod.fst).Nodup)
    {id : String} {c : Catalog.Column} (listed : (id, c) ∈ t.columns) :
    columnName t.record id = .ok c.name := by
  have found : t.record.columnNames.get? id = some c.name := get?_columnNamesOf numbered listed
  rw [columnName, found]

variable {parent referenced : NumberedTable} {e : Entity}

theorem readPair_of_row (parentColumns : (parent.columns.map Prod.fst).Nodup)
    (referencedColumns : (referenced.columns.map Prod.fst).Nodup) {pair : String × String}
    (row : IsPairRow parent referenced e pair) :
    readPair parent.record referenced.record e = .ok pair := by
  obtain ⟨id, c, own, listed, name⟩ := row.own
  obtain ⟨id', c', other, listed', name'⟩ := row.other
  rw [readPair, required_eq own, required_eq other]
  refine bind_eq_ok_iff.2 ⟨_, rfl, bind_eq_ok_iff.2 ⟨_, columnName_of_listed parentColumns listed,
    bind_eq_ok_iff.2 ⟨_, rfl, bind_eq_ok_iff.2
      ⟨_, columnName_of_listed referencedColumns listed', ?_⟩⟩⟩⟩
  rw [name, name']
  rfl

theorem firstRow_eq {relation : String} {fault : ResultFault} {row : Entity}
    (h : (e.rows relation).head? = some row) : firstRow e relation fault = .ok row := by
  rw [firstRow, h]

theorem readForeignKey_of_row (parentColumns : (parent.columns.map Prod.fst).Nodup)
    (referencedColumns : (referenced.columns.map Prod.fst).Nodup)
    (referencedIndexes : (referenced.indexes.map Prod.fst).Nodup) {key : String × Catalog.Index}
    {k : Catalog.ForeignKey} (row : IsForeignKeyRow parent referenced key e k) :
    readForeignKey parent.record referenced.record k.name e = .ok k := by
  obtain ⟨pairs, pairRows, perm⟩ := row.pairs
  obtain ⟨tableRow, atTable, own, schema, schemaRow, tableName, atSchema, schemaName, parts⟩ :=
    row.tableRow
  obtain ⟨keyRow, atKey, keyName⟩ := row.keyRow
  have keyColumns : (referenced.record.indexKeys.get? key.1).getD [] =
      key.2.columns.map Catalog.KeyColumn.name := by
    have found : referenced.record.indexKeys.get? key.1 = some _ :=
      get?_ofList_of_numbered (fun i : Catalog.Index => i.columns.map Catalog.KeyColumn.name)
        referencedIndexes row.listed
    rw [found]
    rfl
  have readPairs : (e.rows "P_foreign_key_columns_fk").mapM
      (readPair parent.record referenced.record) = .ok pairs :=
    mapM_eq_ok_iff.2 (pairRows.imp fun _ _ => readPair_of_row parentColumns referencedColumns)
  have aligned : (alignPairs (key.2.columns.map Catalog.KeyColumn.name) pairs).map Prod.fst =
      k.columns := by
    rw [alignPairs_of_perm row.distinct perm]
    exact List.map_fst_zip (by rw [List.length_map]; exact Nat.le_of_eq row.length)
  refine bind_eq_ok_iff.2 ⟨_, firstRow_eq atTable, bind_eq_ok_iff.2 ⟨_, firstRow_eq atSchema,
    bind_eq_ok_iff.2 ⟨_, firstRow_eq atKey, bind_eq_ok_iff.2 ⟨_, required_eq row.keyId,
      bind_eq_ok_iff.2 ⟨_, readPairs, bind_eq_ok_iff.2 ⟨_, required_eq schemaName,
        bind_eq_ok_iff.2 ⟨_, required_eq tableName, bind_eq_ok_iff.2 ⟨_, qualified_of_parts parts,
          bind_eq_ok_iff.2 ⟨_, required_eq keyName, ?_⟩⟩⟩⟩⟩⟩⟩⟩⟩
  rw [keyColumns, aligned]
  rfl

end ForeignKeys

section Catalog

variable {objects : List NumberedTable}

theorem get?_positionsById (ids : (objects.map NumberedTable.id).Nodup) {i : Nat}
    {t : NumberedTable} (h : objects[i]? = some t) :
    (positionsById (objects.map NumberedTable.entry)).get? t.id = some (i, t.record) := by
  have distinct : (((objects.map NumberedTable.entry).zipIdx.map fun x =>
      (x.1.1, (x.2, x.1.2))).map Prod.fst).Nodup := by
    have named : ((objects.map NumberedTable.entry).zipIdx.map fun x =>
        (x.1.1, (x.2, x.1.2))).map Prod.fst = objects.map NumberedTable.id := by
      have listed := congrArg (List.map Prod.fst)
        (List.zipIdx_map_fst 0 (objects.map NumberedTable.entry))
      rw [List.map_map, List.map_map] at listed
      rw [List.map_map]
      exact listed
    rw [named]
    exact ids
  refine (NameMap.get?_ofList_eq_some_iff distinct).2 (List.mem_map.2 ⟨(t.entry, i), ?_, rfl⟩)
  rw [List.mk_mem_zipIdx_iff_getElem?, List.getElem?_map, h]
  rfl

theorem withForeignKeys_eq {constraints : List (Nat × Catalog.ForeignKey)} {i : Nat}
    {t : NumberedTable}
    (ordered : (constraints.filter fun c => c.1 == i).map Prod.snd = t.foreignKeys) :
    withForeignKeys constraints i t.record.table = t.table := by
  rw [withForeignKeys, ordered]
  rfl

theorem readConstraint_of_row (numbered : AreNumbered objects) {i : Nat}
    {parent referenced : NumberedTable} {key : String × Catalog.Index} {e : Entity}
    {k : Catalog.ForeignKey} (at_i : objects[i]? = some parent) (member : referenced ∈ objects)
    (row : IsForeignKeyRow parent referenced key e k) :
    readConstraint (positionsById (objects.map NumberedTable.entry)) e = .ok (some (i, k)) := by
  obtain ⟨j, at_j⟩ := List.mem_iff_getElem?.1 member
  have parentMember := List.mem_of_getElem? at_i
  refine bind_eq_ok_iff.2 ⟨_, required_eq row.name, bind_eq_ok_iff.2 ⟨_, required_eq row.parentId,
    bind_eq_ok_iff.2 ⟨_, required_eq row.referencedId, ?_⟩⟩⟩
  rw [get?_positionsById numbered.ids at_i, get?_positionsById numbered.ids at_j]
  refine bind_eq_ok_iff.2 ⟨_, readForeignKey_of_row (numbered.columns _ parentMember)
    (numbered.columns _ member) (numbered.indexes _ member) row, rfl⟩

end Catalog

theorem catalogOfResults_of_describes {schemas : List NumberedSchema}
    {tables foreignKeys : QueryResult} (h : Describes schemas tables.root foreignKeys.root) :
    catalogOfResults tables foreignKeys =
      .ok ⟨(objectsOf schemas).map NumberedTable.table, tables.fingerprint⟩ := by
  obtain ⟨lists, read, flat⟩ := exists_mapM_readSchema h.numbered.columns h.schemaRows
  obtain ⟨constraints, rows, ordered⟩ := h.foreignKeyRows
  have readKeys : (foreignKeys.entities SystemView.foreignKeys.simple).mapM (readConstraint
      (positionsById lists.flatten)) = .ok (constraints.map some) := by
    rw [flat]
    refine mapM_eq_ok_iff.2 (List.forall₂_map_right_iff.2 (rows.imp ?_))
    rintro e ⟨i, k⟩ ⟨parent, referenced, key, at_i, member, row⟩
    exact readConstraint_of_row h.numbered at_i member row
  refine bind_eq_ok_iff.2 ⟨_, read, bind_eq_ok_iff.2 ⟨_, readKeys, ?_⟩⟩
  have kept : (constraints.map some).filterMap id = constraints := by simp
  have each : (lists.flatten.zipIdx.map fun x =>
      withForeignKeys ((constraints.map some).filterMap id) x.2 x.1.2.table) =
        (objectsOf schemas).map NumberedTable.table := by
    rw [kept, flat]
    apply List.ext_getElem?
    intro i
    rw [List.getElem?_map, List.getElem?_zipIdx, List.getElem?_map, List.getElem?_map]
    cases at_i : (objectsOf schemas)[i]? with
    | none => rfl
    | some t =>
      have := withForeignKeys_eq (ordered i t at_i)
      simpa [NumberedTable.entry] using this
  exact congrArg (fun ts => Except.ok (⟨ts, tables.fingerprint⟩ : Catalog)) each

end RelationAtlas.SystemViews
