import RelationAtlas.Proofs.Entity.Document
import RelationAtlas.Proofs.SystemViews.Extent
import RelationAtlas.Proofs.SystemViews.Reading
import RelationAtlas.Proofs.Xml.RoundTrip
import RelationAtlas.Schema.Current

/-! # Reading the catalog of a database

A document that renders a tree of rows of the shape of an extent is read as this tree. Two
documents that describe a catalog are therefore read as this catalog, with the fingerprint of the
first. -/

namespace RelationAtlas.SystemViews

open Xml (Attribute Element)

section Documents

def fingerprintAttributes (fingerprint : Option String) : List Attribute :=
  (fingerprint.map (Attribute.plain Query.fingerprintAttribute)).toList

structure Answers (m : Model) (root : Extent) (fingerprint : Option String) (row : Entity)
    (text : String) : Prop where
  shaped : Entity.Shaped m Model.rootId "" root row
  document : ∃ e, Xml.parse? text = some e ∧ e.name = "root" ∧
    Entity.Renders (fingerprintAttributes fingerprint) row e

variable {m : Model} {x : Extent} {fingerprint : Option String} {row : Entity} {e : Element}

/-- Below an outermost extent that selects nothing, the document element is no row of its own. -/
theorem bare_of_shaped_root {flavor : Flavor}
    (shaped : Entity.Shaped m Model.rootId "" ((Extent.root flavor).withChild x) row) :
    row.values.names = [] ∧ row.matching = none := by
  obtain ⟨values, matching, related⟩ := row
  obtain ⟨named, flagged, -⟩ := shaped
  refine ⟨List.eq_nil_iff_forall_not_mem.2 fun name listed => ?_, ?_⟩
  · exact List.not_mem_nil ((named name).1 listed)
  · rw [← Option.not_isSome_iff_eq_none, flagged]
    exact fun filtered => filtered.1 rfl

theorem attribute?_fingerprint {more : List Attribute}
    (perm : more.Perm (fingerprintAttributes fingerprint)) {name : String}
    {children : List Element} :
    Element.attribute? ⟨name, more, children⟩ Query.fingerprintAttribute = fingerprint := by
  cases fingerprint with
  | none =>
    obtain rfl := List.perm_nil.1 perm
    rfl
  | some text =>
    obtain rfl := List.perm_singleton.1 perm
    simp [Element.attribute?, Attribute.plain]

theorem parse_of_answers {flavor : Flavor} {text : String}
    (readable : ((Extent.root flavor).withChild x).Readable)
    (h : Answers m ((Extent.root flavor).withChild x) fingerprint row text) :
    QueryResult.parse m ((Extent.root flavor).withChild x) text = .ok ⟨fingerprint, row⟩ := by
  obtain ⟨e, parsed, named, renders⟩ := h.document
  obtain ⟨unnamed, no_flag⟩ := bare_of_shaped_root h.shaped
  have read : Entity.ofElement m Model.rootId "" ((Extent.root flavor).withChild x) e = .ok row := by
    refine Entity.ofElement_eq readable h.shaped renders ?_ ?_
    · intro a _
      rw [unnamed]
      exact ⟨List.not_mem_nil, no_flag⟩
    · cases fingerprint <;> simp [fingerprintAttributes]
  have mark : e.attribute? Query.fingerprintAttribute = fingerprint := by
    obtain ⟨values, matching, related⟩ := row
    obtain ⟨name, attributes, children⟩ := e
    obtain ⟨perm, -⟩ := renders
    obtain rfl := no_flag
    rw [Entity.rowAttributes, List.map_eq_nil_iff.1 unnamed] at perm
    exact attribute?_fingerprint (by simpa using perm)
  rw [QueryResult.parse, parsed]
  change QueryResult.ofElement m _ e = _
  rw [QueryResult.ofElement, if_pos named, read, mark]
  rfl

theorem answers_of_read {single : String → Bool}
    (read : Entity.ofElement m Model.rootId "" x
      (row.element "root" (fingerprintAttributes fingerprint)) = .ok row)
    (writable : Xml.Writable single (row.element "root" (fingerprintAttributes fingerprint))) :
    Answers m x fingerprint row
      (Xml.write single (row.element "root" (fingerprintAttributes fingerprint))) :=
  ⟨Entity.shaped_of_ofElement read, _, Xml.parse?_write writable, Entity.name_element _ _ _,
    Entity.renders_element _ _ _⟩

end Documents

section Reader

variable {options : BrowseOptions} {r : SchemaReader}

theorem extents_of_new (h : SchemaReader.new options = .ok r) :
    tablesExtent r.system = .ok r.tables ∧ foreignKeysExtent r.system = .ok r.foreignKeys := by
  obtain ⟨system, -, h⟩ := bind_eq_ok_iff.1 h
  obtain ⟨tables, tablesMade, h⟩ := bind_eq_ok_iff.1 h
  obtain ⟨foreignKeys, foreignKeysMade, h⟩ := bind_eq_ok_iff.1 h
  cases h
  exact ⟨tablesMade, foreignKeysMade⟩

/-- The options are kept beside the extents, so one evaluation speaks for all of them. -/
theorem new_eq (options : BrowseOptions) :
    SchemaReader.new options = (SchemaReader.new {}).map fun r => { r with options } := by
  rw [SchemaReader.new, SchemaReader.new]
  cases systemModel with
  | error e => rfl
  | ok system =>
    cases made : tablesExtent system with
    | error e => simp [bind, Except.bind, Except.map, made]
    | ok tables => cases made' : foreignKeysExtent system <;>
        simp [bind, Except.bind, Except.map, made, made', pure, Except.pure]

theorem new_plain : ∃ plain texts, SchemaReader.new {} = .ok plain ∧
    [SchemaQuestion.fingerprint, .tables, .foreignKeys].mapM plain.sql = .ok texts ∧
      texts.Nodup := by
  have evaluates : (SchemaReader.new {}).toOption.map (fun r =>
      ([SchemaQuestion.fingerprint, .tables, .foreignKeys].mapM r.sql).toOption.map fun texts =>
        decide texts.Nodup) = some (some true) := by decide +kernel
  obtain ⟨plain, made, written⟩ := Option.map_eq_some_iff.1 evaluates
  obtain ⟨texts, written, distinct⟩ := Option.map_eq_some_iff.1 written
  exact ⟨plain, texts, eq_ok_of_toOption made, eq_ok_of_toOption written,
    of_decide_eq_true distinct⟩

theorem exists_new (options : BrowseOptions) : ∃ r, SchemaReader.new options = .ok r := by
  obtain ⟨plain, -, made, -⟩ := new_plain
  exact ⟨{ plain with options }, by rw [new_eq, made]; rfl⟩

/-- The three statements of a reader can be written, and no two of them are the same. -/
theorem statements_of_new (h : SchemaReader.new options = .ok r) : ∃ texts,
    [SchemaQuestion.fingerprint, .tables, .foreignKeys].mapM r.sql = .ok texts ∧ texts.Nodup := by
  obtain ⟨plain, texts, made, written, distinct⟩ := new_plain
  rw [new_eq, made] at h
  cases h
  exact ⟨texts, written, distinct⟩

end Reader

/-- Every reader reads documents that describe some schemas as the catalog of their objects. -/
theorem catalogOfResults_of_answers (options : BrowseOptions) :
    ∃ r, SchemaReader.new options = .ok r ∧ ∀ {schemas : List NumberedSchema}
      {tables foreignKeys : Entity} {fingerprint fingerprint' : Option String} {t f : String},
      Describes schemas tables foreignKeys → Answers r.system r.tables fingerprint tables t →
      Answers r.system r.foreignKeys fingerprint' foreignKeys f →
      (do catalogOfResults (← QueryResult.parse r.system r.tables t)
            (← QueryResult.parse r.system r.foreignKeys f)) =
        .ok ⟨(objectsOf schemas).map NumberedTable.table, fingerprint⟩ := by
  obtain ⟨r, made⟩ := exists_new options
  refine ⟨r, made, fun described tablesAnswer foreignKeysAnswer => ?_⟩
  obtain ⟨tablesMade, foreignKeysMade⟩ := extents_of_new made
  have readTables := tablesExtent_readable tablesMade
  have readForeignKeys := foreignKeysExtent_readable foreignKeysMade
  obtain ⟨_, _, _, _, _, schemaList, outer, -⟩ := tablesExtent_selects tablesMade
  obtain ⟨_, _, _, _, foreignKeyList, outer', -⟩ := foreignKeysExtent_selects foreignKeysMade
  rw [outer] at readTables tablesAnswer ⊢
  rw [outer'] at readForeignKeys foreignKeysAnswer ⊢
  rw [parse_of_answers readTables tablesAnswer, parse_of_answers readForeignKeys foreignKeysAnswer]
  exact catalogOfResults_of_describes described

def customers : NumberedTable where
  id := "10"
  name := ⟨["crm", "customer"], .inr (by decide)⟩
  isView := false
  columns := [("1", ⟨"region", "int", false⟩), ("2", ⟨"number", "int", false⟩)]
  indexes := [("1", ⟨"PK_customer", true, true, [⟨"region", .ascending⟩, ⟨"number", .ascending⟩],
    none⟩)]
  foreignKeys := []

def orders : NumberedTable where
  id := "20"
  name := ⟨["dbo", "order"], .inr (by decide)⟩
  isView := false
  columns := [("1", ⟨"customer", "int", true⟩), ("2", ⟨"region", "int", true⟩)]
  indexes := [("3", ⟨"IX_open", false, false, [⟨"customer", .descending⟩],
    some ⟨.filtered, "index has a filter"⟩⟩)]
  foreignKeys := [⟨"FK_order", ["region", "customer"], customers.name, "PK_customer"⟩]

def regions : NumberedTable where
  id := "30"
  name := ⟨["dbo", "region"], .inr (by decide)⟩
  isView := true
  columns := [("1", ⟨"region", "int", true⟩)]
  indexes := []
  foreignKeys := []

def shop : List NumberedSchema := [⟨"crm", [customers], []⟩, ⟨"dbo", [orders], [regions]⟩]

section ShopRows

def columnRow (c : String × Catalog.Column) : Entity :=
  ⟨.ofList [("column_id", some c.1), ("name", some c.2.name),
    ("is_nullable", some (Entity.flagText c.2.nullable)), ("type_name", some c.2.typeName)], none, []⟩

theorem columnRow_isColumnRow (c : String × Catalog.Column) : IsColumnRow (columnRow c) c := by
  obtain ⟨id, name, typeName, nullable⟩ := c
  refine ⟨rfl, rfl, rfl, ?_⟩
  cases nullable <;> rfl

def indexColumnRow (id ordinal descending included : String) : Entity :=
  ⟨.ofList [("column_id", some id), ("key_ordinal", some ordinal),
    ("is_descending_key", some descending), ("is_included_column", some included)], none, []⟩

def indexRow (id type key filtered : String) (name : Option String) (columns : List Entity) :
    Entity :=
  ⟨.ofList [("index_id", some id), ("name", name), ("type", some type), ("is_unique", some key),
    ("is_primary_key", some key), ("is_disabled", some "0"), ("has_filter", some filtered),
    ("is_hypothetical", some "0")], none, [⟨"P_index_columns_index", "ic", 20, columns⟩]⟩

def tableRow (t : NumberedTable) (name : String) (indexes : List Entity) : Entity :=
  ⟨.ofList [("object_id", some t.id), ("name", some name)], some true,
    [⟨"P_columns_object", "c", 16, t.columns.map columnRow⟩, ⟨"P_indexes_object", "i", 18, indexes⟩]⟩

theorem tableRow_isTableRow {schema name : String} {t : NumberedTable} {indexes : List Entity}
    {isView : Bool} (parts : t.name.parts = [schema, name]) (kind : t.isView = isView)
    (indexRows : IndexRows t.columns indexes t.indexes) :
    IsTableRow schema isView (tableRow t name indexes) t where
  id := rfl
  name := ⟨name, rfl, parts⟩
  kind := kind
  columns := List.forall₂_map_left_iff.2 (List.forall₂_same.2 fun c _ => columnRow_isColumnRow c)
  indexes := indexRows

def schemaRow (id name : String) (tables views : List Entity) : Entity :=
  ⟨.ofList [("schema_id", some id), ("name", some name)], none,
    [⟨"P_objects_schema", "t", 14, tables⟩, ⟨"P_objects_schema", "v", 14, views⟩]⟩

theorem schemaRow_isSchemaRow {id name : String} {tables views : List Entity}
    {ts vs : List NumberedTable} (tableRows : List.Forall₂ (IsTableRow name false) tables ts)
    (viewRows : List.Forall₂ (IsTableRow name true) views vs) :
    IsSchemaRow (schemaRow id name tables views) ⟨name, ts, vs⟩ :=
  ⟨rfl, tables, views, rfl, tableRows, viewRows⟩

def pairRow (ordinal own other : String) : Entity :=
  ⟨.ofList [("constraint_column_id", some ordinal), ("parent_column_id", some own),
    ("referenced_column_id", some other)], none, []⟩

end ShopRows

def shopTables : Entity :=
  ⟨.empty, none, [⟨"sys.schemas", "s", 0,
    [schemaRow "5" "crm" [tableRow customers "customer"
      [indexRow "1" "1" "1" "0" (some "PK_customer")
        [indexColumnRow "1" "1" "0" "0", indexColumnRow "2" "2" "0" "0"]]] [],
    schemaRow "1" "dbo" [tableRow orders "order"
      [indexRow "0" "0" "0" "0" none [],
        indexRow "3" "2" "0" "1" (some "IX_open")
          [indexColumnRow "2" "0" "0" "1", indexColumnRow "1" "1" "1" "0"]]]
      [tableRow regions "region" []]]⟩]⟩

def shopForeignKeys : Entity :=
  ⟨.empty, none, [⟨"sys.foreign_keys", "f", 10,
    [⟨.ofList [("object_id", some "40"), ("name", some "FK_order"), ("parent_object_id", some "20"),
      ("referenced_object_id", some "10"), ("key_index_id", some "1")], none,
      [⟨"P_foreign_key_columns_fk", "fc", 28, [pairRow "1" "1" "2", pairRow "2" "2" "1"]⟩,
        ⟨"D_foreign_keys_referenced", "rt", 25,
          [⟨.ofList [("object_id", some "10"), ("name", some "customer")], none,
            [⟨"D_objects_schema", "rs", 15, [⟨.ofList [("name", some "crm")], none, []⟩]⟩]⟩]⟩,
        ⟨"D_foreign_keys_key_index", "ri", 27,
          [⟨.ofList [("index_id", some "1"), ("name", some "PK_customer")], none, []⟩]⟩]⟩]⟩]⟩

theorem shop_schemaRows :
    List.Forall₂ IsSchemaRow (shopTables.rows SystemView.schemas.simple) shop := by
  have key : IsIndexRow customers.columns (indexRow "1" "1" "1" "0" (some "PK_customer")
      [indexColumnRow "1" "1" "0" "0", indexColumnRow "2" "2" "0" "0"])
      ("1", ⟨"PK_customer", true, true, [⟨"region", .ascending⟩, ⟨"number", .ascending⟩], none⟩) :=
    ⟨rfl, rfl, rfl, rfl, .key rfl rfl (.head _) (.key rfl rfl (.tail _ (.head _)) .nil),
      .supported rfl rfl rfl (.inl rfl)⟩
  have filtered : IsIndexRow orders.columns (indexRow "3" "2" "0" "1" (some "IX_open")
      [indexColumnRow "2" "0" "0" "1", indexColumnRow "1" "1" "1" "0"])
      ("3", ⟨"IX_open", false, false, [⟨"customer", .descending⟩],
        some ⟨.filtered, "index has a filter"⟩⟩) :=
    ⟨rfl, rfl, rfl, rfl, .included rfl (.key rfl rfl (.head _) .nil), .filtered rfl rfl⟩
  refine .cons (schemaRow_isSchemaRow ?_ .nil) (.cons (schemaRow_isSchemaRow ?_ ?_) .nil)
  · exact .cons (tableRow_isTableRow rfl rfl (.index key .nil)) .nil
  · exact .cons (tableRow_isTableRow rfl rfl (.heap rfl (.index filtered .nil))) .nil
  · exact .cons (tableRow_isTableRow rfl rfl .nil) .nil

theorem shop_foreignKeyRows :
    AreForeignKeyRows (objectsOf shop) (shopForeignKeys.rows SystemView.foreignKeys.simple) := by
  refine ⟨[(1, ⟨"FK_order", ["region", "customer"], customers.name, "PK_customer"⟩)],
    .cons ⟨orders, customers, ("1", ⟨"PK_customer", true, true, [⟨"region", .ascending⟩,
      ⟨"number", .ascending⟩], none⟩), rfl, .head _, ?_⟩ .nil, ?_⟩
  · refine ⟨rfl, rfl, rfl, rfl, .head _, by decide, rfl,
      ⟨[("customer", "number"), ("region", "region")], ?_, .swap _ _ _⟩, rfl,
      ⟨_, rfl, "customer", "crm", _, rfl, rfl, rfl, rfl⟩, rfl, ⟨_, rfl, rfl⟩⟩
    exact .cons ⟨⟨"1", _, rfl, .head _, rfl⟩, ⟨"2", _, rfl, .tail _ (.head _), rfl⟩⟩
      (.cons ⟨⟨"2", _, rfl, .tail _ (.head _), rfl⟩, ⟨"1", _, rfl, .head _, rfl⟩⟩ .nil)
  · intro i t at_i
    rcases i with _ | _ | _ | i <;> cases at_i <;> rfl

theorem shop_described : Describes shop shopTables shopForeignKeys :=
  ⟨⟨by decide, by decide, by decide⟩, shop_schemaRows, shop_foreignKeyRows⟩

def shopTablesDocument : Element :=
  shopTables.element "root" (fingerprintAttributes (some "today"))

def shopForeignKeysDocument : Element := shopForeignKeys.element "root" (fingerprintAttributes none)

theorem shop_read : (SchemaReader.new {}).toOption.map (fun r =>
    ((Entity.ofElement r.system Model.rootId "" r.tables shopTablesDocument).toOption,
      (Entity.ofElement r.system Model.rootId "" r.foreignKeys shopForeignKeysDocument).toOption)) =
    some (some shopTables, some shopForeignKeys) := by
  decide +kernel

theorem catalogOfResults_of_answers_shop : ∃ r, SchemaReader.new {} = .ok r ∧
    (do catalogOfResults
          (← QueryResult.parse r.system r.tables (Xml.write (fun _ => false) shopTablesDocument))
          (← QueryResult.parse r.system r.foreignKeys
            (Xml.write (fun _ => false) shopForeignKeysDocument))) =
      .ok ⟨[customers.table, orders.table, regions.table], some "today"⟩ := by
  obtain ⟨r, made, reads⟩ := catalogOfResults_of_answers {}
  have read := shop_read
  rw [made] at read
  obtain ⟨tables, foreignKeys⟩ := Prod.mk.inj (Option.some.inj read)
  have writableTables : Xml.Writable (fun _ => false) shopTablesDocument := by decide +kernel
  have writableForeignKeys : Xml.Writable (fun _ => false) shopForeignKeysDocument := by
    decide +kernel
  exact ⟨r, made, reads shop_described
    (answers_of_read (eq_ok_of_toOption tables) writableTables)
    (answers_of_read (eq_ok_of_toOption foreignKeys) writableForeignKeys)⟩

end RelationAtlas.SystemViews
