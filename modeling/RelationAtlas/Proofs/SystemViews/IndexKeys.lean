import Mathlib.Data.List.Forall2
import RelationAtlas.Proofs.SystemViews.Reading

/-! # The columns of an index

Every index of a catalog that was read stands for a row with a name. Its columns are those of the
rows that carry no flag for an included column. These are the rows with a place in the key, in
ascending order, if the flag and the key ordinal agree; but a column that partitions the rows has
neither a place in the key nor the flag, and it is read as the first column of the key. -/

namespace RelationAtlas.SystemViews

section Rows

def columnRows (i : Entity) : List Entity := i.rows "P_index_columns_index"

def unflaggedRows (i : Entity) : List Entity :=
  (columnRows i).filter fun c => !flag c "is_included_column"

def keyColumn? (named : String → Option String) (c : Entity) : Option Catalog.KeyColumn :=
  ((c.value? "column_id").bind named).map fun name =>
    ⟨name, .ofDescendingFlag (flag c "is_descending_key")⟩

def isNamed (named : String → Option String) (i : Entity) : Bool :=
  (i.value? "name").isSome && (unflaggedRows i).all fun c => (keyColumn? named c).isSome

structure IsReadAs (named : String → Option String) (i : Entity) (index : Catalog.Index) : Prop where
  name : i.value? "name" = some index.name
  columns : (unflaggedRows i).map (keyColumn? named) = index.columns.map some

variable {names : NameMap String}

theorem readKeyColumn_run {c : Entity} {out : Option Catalog.KeyColumn}
    (h : (readKeyColumn names c).run = .ok out) : keyColumn? names.get? c = out := by
  obtain ⟨id, own, h⟩ := run_liftM_bind_eq_ok_iff.1 h
  rw [required_eq_ok_iff] at own
  rw [keyColumn?, own, Option.bind_some]
  cases found : names.get? id with
  | none =>
    rw [found] at h
    cases h
    rfl
  | some name =>
    rw [found] at h
    cases h
    rfl

theorem readKeyColumns_run {rows : List Entity} {out : Option (List Catalog.KeyColumn)}
    (h : (rows.mapM (readKeyColumn names)).run = .ok out) :
    (∃ columns, out = some columns ∧ rows.map (keyColumn? names.get?) = columns.map some) ∨
      out = none ∧ ∃ c ∈ rows, keyColumn? names.get? c = none := by
  rcases mapM_run_cases h with ⟨columns, same, each⟩ | ⟨same, c, member, skipped⟩
  · refine .inl ⟨columns, same, ?_⟩
    rw [← List.forall₂_eq_eq_eq, List.forall₂_map_left_iff, List.forall₂_map_right_iff]
    exact each.imp fun _ _ => readKeyColumn_run
  · exact .inr ⟨same, c, member, readKeyColumn_run skipped⟩

theorem readIndex_run {i : Entity} {out : Option (String × Catalog.Index)}
    (h : (readIndex names i).run = .ok out) :
    (∃ entry, out = some entry ∧ isNamed names.get? i = true ∧ IsReadAs names.get? i entry.2) ∨
      out = none ∧ isNamed names.get? i = false := by
  rw [readIndex] at h
  cases named : i.value? "name" with
  | none =>
    rw [named] at h
    cases h
    exact .inr ⟨rfl, by rw [isNamed, named]; rfl⟩
  | some name =>
    rw [named] at h
    rcases run_bind_eq_ok_iff.1 h with ⟨columns, read, rest⟩ | ⟨skipped, rfl⟩
    · obtain ⟨_, same, known⟩ | ⟨same, -⟩ := readKeyColumns_run read
      · cases same
        obtain ⟨id, -, made⟩ := run_liftM_bind_eq_ok_iff.1 rest
        cases made
        refine .inl ⟨_, rfl, ?_, named, known⟩
        rw [isNamed, named, Option.isSome_some, Bool.true_and, List.all_eq_true]
        intro c hc
        have listed : keyColumn? names.get? c ∈ columns.map some := known ▸ List.mem_map_of_mem hc
        obtain ⟨k, -, same⟩ := List.mem_map.1 listed
        rw [← same]
        rfl
      · cases same
    · obtain ⟨_, same, -⟩ | ⟨-, c, member, unknown⟩ := readKeyColumns_run skipped
      · cases same
      · refine .inr ⟨rfl, ?_⟩
        rw [isNamed, Bool.and_eq_false_iff, List.all_eq_false]
        exact .inr ⟨c, member, by simp [unknown]⟩

theorem readIndexes_run {rows : List Entity} {outs : List (Option (String × Catalog.Index))}
    (h : rows.mapM (fun i => (readIndex names i).run) = .ok outs) :
    List.Forall₂ (IsReadAs names.get?) (rows.filter (isNamed names.get?))
      ((outs.filterMap id).map Prod.snd) := by
  have each := mapM_eq_ok_iff.1 h
  induction each with
  | nil => exact .nil
  | @cons i out rows outs first rest ih =>
    have later := ih (mapM_eq_ok_iff.2 rest)
    rcases readIndex_run first with ⟨entry, rfl, named, read⟩ | ⟨rfl, unnamed⟩
    · rw [List.filter_cons_of_pos named]
      exact .cons read later
    · rw [List.filter_cons_of_neg (by simp [unnamed])]
      exact later

end Rows

def columnNamed? (object : Entity) (id : String) : Option String :=
  ((object.rows "P_columns_object").findRev? fun c => c.value? "column_id" == some id).bind fun c =>
    c.value? "name"

theorem readColumn_eq_ok {e : Entity} {c : String × Catalog.Column} (h : readColumn e = .ok c) :
    e.value? "column_id" = some c.1 ∧ e.value? "name" = some c.2.name := by
  obtain ⟨name, named, h⟩ := bind_eq_ok_iff.1 h
  obtain ⟨id, numbered, h⟩ := bind_eq_ok_iff.1 h
  cases h
  exact ⟨required_eq_ok_iff.1 numbered, required_eq_ok_iff.1 named⟩

theorem find?_column {rows : List Entity} {columns : List (String × Catalog.Column)}
    (each : List.Forall₂ (fun e c => readColumn e = .ok c) rows columns) (id : String) :
    ((columns.map fun c => (c.1, c.2.name)).find? fun e => e.1 == id).map Prod.snd =
      (rows.find? fun c => c.value? "column_id" == some id).bind fun c => c.value? "name" := by
  induction each with
  | nil => rfl
  | @cons row c rows columns first rest ih =>
    obtain ⟨numbered, named⟩ := readColumn_eq_ok first
    by_cases same : c.1 = id
    · rw [List.map_cons, List.find?_cons_of_pos (by simpa using same),
        List.find?_cons_of_pos (by simpa [numbered] using same)]
      exact named.symm
    · rw [List.map_cons, List.find?_cons_of_neg (by simpa using same),
        List.find?_cons_of_neg (by simpa [numbered] using same)]
      exact ih

theorem get?_columnNames {object : Entity} {columns : List (String × Catalog.Column)}
    (read : (object.rows "P_columns_object").mapM readColumn = .ok columns) :
    (NameMap.ofList (columns.map fun (id, c) => (id, c.name))).get? = columnNamed? object := by
  funext id
  rw [NameMap.get?_ofList, columnNamed?, List.findRev?_eq_find?_reverse,
    List.findRev?_eq_find?_reverse, ← List.map_reverse]
  exact find?_column (List.forall₂_reverse_iff.2 (mapM_eq_ok_iff.1 read)) id

theorem readTable_indexes {schema : String} {isView : Bool} {object : Entity} {r : TableRecord}
    (h : readTable schema isView object = .ok r) :
    List.Forall₂ (IsReadAs (columnNamed? object))
      ((object.rows "P_indexes_object").filter (isNamed (columnNamed? object))) r.table.indexes := by
  rw [readTable] at h
  obtain ⟨_, -, h⟩ := bind_eq_ok_iff.1 h
  obtain ⟨_, -, h⟩ := bind_eq_ok_iff.1 h
  obtain ⟨columns, read, h⟩ := bind_eq_ok_iff.1 h
  obtain ⟨outs, indexes, h⟩ := bind_eq_ok_iff.1 h
  cases h
  rw [← get?_columnNames read]
  exact readIndexes_run indexes

section Results

def objectRows (tables : QueryResult) : List Entity :=
  (tables.entities SystemView.schemas.simple).flatMap fun s => s.related.flatMap Related.entities

def IndexesOf (object : Entity) (indexes : List Catalog.Index) : Prop :=
  List.Forall₂ (IsReadAs (columnNamed? object))
    ((object.rows "P_indexes_object").filter (isNamed (columnNamed? object))) indexes

theorem readSchema_indexes {s : Entity} {records : List (String × TableRecord)}
    (h : readSchema s = .ok records) :
    List.Forall₂ (fun object r => IndexesOf object r.2.table.indexes)
      (s.related.flatMap Related.entities) records := by
  rw [readSchema] at h
  obtain ⟨name, -, h⟩ := bind_eq_ok_iff.1 h
  obtain ⟨lists, read, h⟩ := bind_eq_ok_iff.1 h
  cases h
  refine forall₂_flatMap ((mapM_eq_ok_iff.1 read).imp ?_)
  intro list records made
  refine (mapM_eq_ok_iff.1 made).imp ?_
  intro object r made
  obtain ⟨id, -, made⟩ := bind_eq_ok_iff.1 made
  obtain ⟨record, table, made⟩ := bind_eq_ok_iff.1 made
  cases made
  exact readTable_indexes table

theorem catalogOfResults_indexes {tables foreignKeys : QueryResult} {catalog : Catalog}
    (h : catalogOfResults tables foreignKeys = .ok catalog) :
    List.Forall₂ (fun object t => IndexesOf object t.indexes) (objectRows tables)
      catalog.tables := by
  rw [catalogOfResults] at h
  obtain ⟨lists, read, h⟩ := bind_eq_ok_iff.1 h
  obtain ⟨constraints, -, h⟩ := bind_eq_ok_iff.1 h
  cases h
  have each : List.Forall₂ (fun object (r : String × TableRecord) =>
      IndexesOf object r.2.table.indexes) (objectRows tables) lists.flatten :=
    forall₂_flatMap ((mapM_eq_ok_iff.1 read).imp fun _ _ => readSchema_indexes)
  -- foreign keys are added to the tables by position, and their indexes stay
  rw [← List.zipIdx_map_fst 0 lists.flatten, List.forall₂_map_right_iff] at each
  exact List.forall₂_map_right_iff.2 (each.imp fun _ _ own => own)

end Results

section Keys

/-- The place of a column in the key of its index, from 1 on; 0 for a column without a place. -/
def keyOrdinal (c : Entity) : Nat := ((c.value? "key_ordinal").bind Text.unsigned?).getD 0

def hasPlace (c : Entity) : Bool := decide (0 < keyOrdinal c)

def keyRows (i : Entity) : List Entity :=
  ((columnRows i).filter hasPlace).mergeSort fun c d => decide (keyOrdinal c ≤ keyOrdinal d)

def InOrder (i : Entity) : Prop := (columnRows i).Pairwise fun c d => keyOrdinal c ≤ keyOrdinal d

def KeysUnflagged (i : Entity) : Prop :=
  ∀ c ∈ columnRows i, hasPlace c = true → flag c "is_included_column" = false

def OthersFlagged (i : Entity) : Prop :=
  ∀ c ∈ columnRows i, hasPlace c = false → flag c "is_included_column" = true

instance (i : Entity) : Decidable (InOrder i) :=
  inferInstanceAs (Decidable ((columnRows i).Pairwise fun c d => keyOrdinal c ≤ keyOrdinal d))

instance (i : Entity) : Decidable (KeysUnflagged i) :=
  inferInstanceAs (Decidable (∀ c ∈ columnRows i,
    hasPlace c = true → flag c "is_included_column" = false))

instance (i : Entity) : Decidable (OthersFlagged i) :=
  inferInstanceAs (Decidable (∀ c ∈ columnRows i,
    hasPlace c = false → flag c "is_included_column" = true))

variable {i : Entity}

theorem keyRows_of_inOrder (h : InOrder i) : keyRows i = (columnRows i).filter hasPlace := by
  apply List.mergeSort_of_pairwise
  apply (List.Pairwise.filter hasPlace h).imp
  intro c d ordered
  exact decide_eq_true ordered

theorem filter_unflaggedRows (unflagged : KeysUnflagged i) :
    (unflaggedRows i).filter hasPlace = (columnRows i).filter hasPlace := by
  rw [unflaggedRows, List.filter_filter]
  apply List.filter_congr
  intro c hc
  cases place : hasPlace c with
  | false => rfl
  | true => rw [unflagged c hc place]; rfl

theorem othersFlagged_iff :
    OthersFlagged i ↔ (unflaggedRows i).filter hasPlace = unflaggedRows i := by
  rw [List.filter_eq_self, OthersFlagged, unflaggedRows]
  simp only [List.mem_filter, and_imp]
  apply forall₂_congr
  intro c _
  cases hasPlace c <;> cases flag c "is_included_column" <;> simp

theorem columns_eq_keys_iff {named : String → Option String} {index : Catalog.Index}
    (ordered : InOrder i) (unflagged : KeysUnflagged i) (read : IsReadAs named i index) :
    index.columns.map some = (keyRows i).map (keyColumn? named) ↔ OthersFlagged i := by
  rw [← read.columns, keyRows_of_inOrder ordered, ← filter_unflaggedRows unflagged,
    othersFlagged_iff]
  constructor
  · intro same
    have length := congrArg List.length same
    rw [List.length_map, List.length_map] at length
    rw [List.filter_eq_self]
    exact List.length_filter_eq_length_iff.1 length.symm
  · intro same
    rw [same]

end Keys

/-- The tables of a catalog that was read have one index for each row with a name and known columns.
Its columns are those without the flag for an included column. If the rows are in order, and none
with a place in the key has the flag, these are the columns with a place in the key, in its order,
exactly if all others have the flag. -/
theorem index_columns_iff {tables foreignKeys : QueryResult} {catalog : Catalog}
    (accepted : catalogOfResults tables foreignKeys = .ok catalog) :
    List.Forall₂ (fun object t =>
      List.Forall₂ (fun i index => IsReadAs (columnNamed? object) i index ∧
          (InOrder i → KeysUnflagged i →
            (index.columns.map some = (keyRows i).map (keyColumn? (columnNamed? object)) ↔
              OthersFlagged i)))
        ((object.rows "P_indexes_object").filter (isNamed (columnNamed? object))) t.indexes)
      (objectRows tables) catalog.tables := by
  refine (catalogOfResults_indexes accepted).imp ?_
  intro object t indexes
  refine indexes.imp ?_
  intro i index read
  exact ⟨read, fun ordered unflagged => columns_eq_keys_iff ordered unflagged read⟩

section Sales

def rowOf (values : List (String × String)) (related : List Related) : Entity :=
  ⟨.ofList (values.map fun v => (v.1, some v.2)), none, related⟩

def saleColumn (id name : String) : Entity := rowOf [("column_id", id), ("name", name)] []

def saleIndexColumn (id ordinal included : String) : Entity :=
  rowOf [("column_id", id), ("key_ordinal", ordinal), ("is_included_column", included)] []

def saleKey : Entity :=
  rowOf [("index_id", "1"), ("name", "PK_sale"), ("type", "1")]
    [⟨"P_index_columns_index", "ic", 20,
      [saleIndexColumn "1" "0" "0", saleIndexColumn "2" "1" "0"]⟩]

def saleDays : Entity :=
  rowOf [("index_id", "2"), ("name", "IX_day"), ("type", "2")]
    [⟨"P_index_columns_index", "ic", 20,
      [saleIndexColumn "2" "0" "1", saleIndexColumn "1" "1" "0"]⟩]

def sale : Entity :=
  rowOf [("object_id", "10"), ("name", "sale")]
    [⟨"P_columns_object", "c", 16, [saleColumn "1" "day", saleColumn "2" "number"]⟩,
      ⟨"P_indexes_object", "i", 18, [saleKey, saleDays]⟩]

def saleTables : QueryResult :=
  ⟨none, rowOf [] [⟨"sys.schemas", "s", 0,
    [rowOf [("name", "dbo")] [⟨"P_objects_schema", "t", 14, [sale]⟩]]⟩]⟩

def noForeignKeys : QueryResult := ⟨none, rowOf [] []⟩

theorem partition_column_leads_key : InOrder saleKey ∧
    (catalogOfResults saleTables noForeignKeys).toOption.map (fun c =>
      c.tables.map fun t => t.indexes.map fun i => i.columns.map Catalog.KeyColumn.name) =
        some [[["day", "number"], ["day"]]] ∧
      (keyRows saleKey).map (keyColumn? (columnNamed? sale)) = [some ⟨"number", .ascending⟩] := by
  have ordered : InOrder saleKey := by decide +kernel
  refine ⟨ordered, by decide +kernel, ?_⟩
  rw [keyRows_of_inOrder ordered]
  decide +kernel

theorem index_columns_iff_sale : ∃ catalog t key days,
    catalogOfResults saleTables noForeignKeys = .ok catalog ∧ catalog.tables = [t] ∧
      t.indexes = [key, days] ∧
        days.columns.map some = (keyRows saleDays).map (keyColumn? (columnNamed? sale)) ∧
          key.columns.map some ≠ (keyRows saleKey).map (keyColumn? (columnNamed? sale)) := by
  have succeeds : (catalogOfResults saleTables noForeignKeys).isOk = true := by decide +kernel
  obtain ⟨⟨tables, fingerprint⟩, accepted⟩ := exists_ok_of_isOk succeeds
  have objects : objectRows saleTables = [sale] := by decide +kernel
  have rows : (sale.rows "P_indexes_object").filter (isNamed (columnNamed? sale)) =
      [saleKey, saleDays] := by decide +kernel
  have each := index_columns_iff accepted
  rw [objects, List.forall₂_cons_left_iff] at each
  obtain ⟨t, others, indexes, rest, same⟩ := each
  rw [List.forall₂_nil_left_iff] at rest
  rw [rows, List.forall₂_cons_left_iff] at indexes
  obtain ⟨key, later, ⟨-, keyed⟩, indexes, first⟩ := indexes
  rw [List.forall₂_cons_left_iff] at indexes
  obtain ⟨days, none, ⟨-, dated⟩, last, second⟩ := indexes
  rw [List.forall₂_nil_left_iff] at last
  subst rest last
  refine ⟨_, t, key, days, accepted, same, by rw [first, second], ?_, ?_⟩
  · exact (dated (by decide +kernel) (by decide +kernel)).2 (by decide +kernel)
  · intro exact
    exact absurd ((keyed (by decide +kernel) (by decide +kernel)).1 exact) (by decide +kernel)

end Sales

end RelationAtlas.SystemViews
