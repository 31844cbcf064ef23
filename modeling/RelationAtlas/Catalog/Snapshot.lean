import RelationAtlas.Catalog.Basic
import RelationAtlas.Files.Tree
import RelationAtlas.Xml.Document

/-! # Snapshots

A catalog as an XML document, so that a model can be built without a database. A table is an
element with columns, indexes and foreign keys in it:

    <catalog fingerprint="2024-01-01T00:00:00">
      <table schema="dbo" name="order" view="0">
        <column name="id" type="int" nullable="0"/>
        <index name="PK_order" unique="1" primary="1">
          <column name="id" direction="asc"/>
        </index>
        <foreign-key name="FK_order_customer" referenced-table="[dbo].[customer]"
            referenced-key="PK_customer">
          <column name="customer_id"/>
        </foreign-key>
      </table>
    </catalog>

Elements of other names are passed over when it is read. -/

namespace RelationAtlas.Snapshot

open Xml (Element Attribute)

def required (e : Element) (name : String) : Except BrowseError String :=
  match e.attribute? name with
  | some value => .ok value
  | none => .error (.invalidCatalog (.missingAttribute e.name name))

def flag (e : Element) (name : String) : Bool :=
  e.attribute? name == some "1" || e.attribute? name == some "true"

def readColumn (e : Element) : Except BrowseError Catalog.Column := do
  return ⟨← required e "name", ← required e "type", flag e "nullable"⟩

def readKeyColumn (e : Element) : Except BrowseError Catalog.KeyColumn := do
  return ⟨← required e "name", ((e.attribute? "direction").map Direction.parse).getD .unknown⟩

def readReason (e : Element) : Except BrowseError (Option UnsupportedReason) :=
  match e.attribute? "unsupported" with
  | none => .ok none
  | some text =>
    match UnsupportedTag.ofName? text with
    | some tag => .ok (some ⟨tag, (e.attribute? "message").getD ""⟩)
    | none => .error (.invalidCatalog (.unknownTag text))

def readIndex (e : Element) : Except BrowseError Catalog.Index := do
  let unsupported ← readReason e
  let columns ← (e.childrenNamed "column").mapM readKeyColumn
  return ⟨← required e "name", flag e "unique", flag e "primary", columns, unsupported⟩

def readForeignKey (e : Element) : Except BrowseError Catalog.ForeignKey := do
  let columns ← (e.childrenNamed "column").mapM fun c => required c "name"
  let name ← required e "name"
  let table ← ObjectName.parse (← required e "referenced-table")
  return ⟨name, columns, table, ← required e "referenced-key"⟩

def readTable (e : Element) : Except BrowseError Catalog.Table := do
  let name ← required e "name"
  let qualifiers := (e.attribute? "catalog").toList ++ (e.attribute? "schema").toList
  return {
    name := ← ObjectName.ofParts (qualifiers ++ [name])
    isView := flag e "view"
    columns := ← (e.childrenNamed "column").mapM readColumn
    indexes := ← (e.childrenNamed "index").mapM readIndex
    foreignKeys := ← (e.childrenNamed "foreign-key").mapM readForeignKey }

def ofElement (e : Element) : Except BrowseError Catalog :=
  if e.name = "catalog" then do
    return ⟨← (e.childrenNamed "table").mapM readTable, e.attribute? "fingerprint"⟩
  else .error (.invalidCatalog (.documentElement e.name))

def parse (text : String) : Except BrowseError Catalog :=
  match Xml.parse? text with
  | some e => ofElement e
  | none => .error .malformedXml

def flagText (flag : Bool) : String := if flag then "1" else "0"

def columnElement (c : Catalog.Column) : Element :=
  ⟨"column", [.plain "name" c.name, .plain "type" c.typeName,
    .plain "nullable" (flagText c.nullable)], []⟩

def keyColumnElement (c : Catalog.KeyColumn) : Element :=
  ⟨"column", [.plain "name" c.name, .plain "direction" c.direction.name], []⟩

def reasonAttributes : Option UnsupportedReason → List Attribute
  | none => []
  | some r => [.plain "unsupported" r.tag.name, .plain "message" r.message]

def indexElement (i : Catalog.Index) : Element :=
  ⟨"index", [.plain "name" i.name, .plain "unique" (flagText i.unique),
    .plain "primary" (flagText i.primary)] ++ reasonAttributes i.unsupported,
    i.columns.map keyColumnElement⟩

def foreignKeyElement (k : Catalog.ForeignKey) : Except BrowseError Element := do
  let table ← k.referencedTable.escaped
  return ⟨"foreign-key", [.plain "name" k.name, .plain "referenced-table" table,
    .plain "referenced-key" k.referencedKey],
    k.columns.map fun c => ⟨"column", [.plain "name" c], []⟩⟩

def partLabels (count : Nat) : List String :=
  if count = 3 then ["catalog", "schema", "name"]
  else if count = 2 then ["schema", "name"]
  else ["name"]

def nameAttributes (n : ObjectName) : List Attribute :=
  ((partLabels n.parts.length).zip n.parts).map fun (label, part) => .plain label part

def tableElement (t : Catalog.Table) : Except BrowseError Element := do
  let foreignKeys ← t.foreignKeys.mapM foreignKeyElement
  return ⟨"table", nameAttributes t.name ++ [.plain "view" (flagText t.isView)],
    t.columns.map columnElement ++ t.indexes.map indexElement ++ foreignKeys⟩

def toElement (c : Catalog) : Except BrowseError Element := do
  return ⟨"catalog", (c.fingerprint.map (Attribute.plain "fingerprint")).toList,
    ← c.tables.mapM tableElement⟩

def isSingle (name : String) : Bool := name == "column"

def render (c : Catalog) : Except BrowseError String := do
  return Xml.write isSingle (← toElement c)

/-! ## Snapshot files

Snapshots are read from files and written to files. A catalog that cannot be written as a snapshot
leaves the file as it is. -/

variable {m : Type → Type} [Monad m]

def load (files : FileAccess m) (path : String) : ExceptT BrowseError m Catalog := do
  match ← files.read path with
  | .ok text => .mk (pure (parse text))
  | .error fault => throw (.unreadableSnapshot path fault)

def save (files : FileAccess m) (path : String) (c : Catalog) : ExceptT BrowseError m Unit := do
  let text ← ExceptT.mk (pure (render c))
  match ← files.write path text with
  | .ok () => return ()
  | .error fault => throw (.unwritableSnapshot path fault)

end RelationAtlas.Snapshot
