import RelationAtlas.Extent.Flavor
import RelationAtlas.Model.Basic
import RelationAtlas.Model.Key
import RelationAtlas.Text.Basic

/-! # Building a model

A catalog becomes a model: tables with their keys first, then the relation from the root to each
table, then the relation of each foreign key, and last the column that names the rows of a table.
A reference that does not resolve makes the whole catalog unusable. -/

namespace RelationAtlas.Model

structure EndSpec where
  table : TableId
  name : Option String
  key : TupleRef
  columns : List Nat
deriving DecidableEq, Repr

structure RelationSpec where
  principal : EndSpec
  dependent : EndSpec
deriving DecidableEq, Repr

def rootSpec (t : Table) : RelationSpec where
  principal := ⟨0, some t.name.simple, .index "", []⟩
  dependent := ⟨t.id, none, .foreignKey "", []⟩

def foreignKeySpec (t : Table) (k : ForeignKey) : RelationSpec where
  principal := ⟨k.principal.table, some ("P_" ++ k.name), .index k.principal.name,
    k.principal.columns⟩
  dependent := ⟨t.id, some ("D_" ++ k.name), .foreignKey k.name, k.tuple.positions⟩

def specs (tables : List Table) : List RelationSpec :=
  (tables.drop 1).map rootSpec ++
    (tables.drop 1).flatMap fun t =>
      (t.foreignKeys.filter fun k => !k.isRootKey).map (foreignKeySpec t)

def takenNames (ends : List RelationEnd) (table : TableId) : List String :=
  ends.filterMap fun e => if e.table = table then e.name else none

/-- A relation name for a table. One that is taken gets the schema of the partner table, and then
a counter. -/
def freeName (tables : List Table) (ends : List RelationEnd) (table partner : TableId)
    (name : String) : String :=
  let taken := takenNames ends table
  if taken.contains name then
    let base := match (tables.getD partner default).name.schema? with
      | some schema => name ++ "_" ++ schema
      | none => name
    Text.firstFree (Text.numbered base) taken
  else name

/-- Many rows may share the columns of an end unless they contain a key. -/
def isMany (tables : List Table) (spec : EndSpec) : Bool :=
  !((tables.getD spec.table default).tuple? spec.key).any ColumnTuple.containsKey

def addEnd (tables : List Table) (ends : List RelationEnd) (spec : EndSpec) (principal : Bool)
    (partner : TableId) (other : EndId) : List RelationEnd :=
  ends ++ [{
    id := ends.length
    name := spec.name.map (freeName tables ends spec.table partner)
    table := spec.table
    principal
    many := isMany tables spec
    key := spec.key
    columns := spec.columns
    other }]

def addRelation (tables : List Table) (ends : List RelationEnd) (spec : RelationSpec) :
    List RelationEnd :=
  let first := ends.length
  let ends := addEnd tables ends spec.principal true spec.dependent.table (first + 1)
  addEnd tables ends spec.dependent false spec.principal.table first

def relationsOf (ends : List RelationEnd) (table : TableId) : NameMap EndId :=
  .ofList (ends.filterMap fun e =>
    if e.table = table then e.name.map fun name => (name, e.id) else none)

def targetOf (ends : List RelationEnd) (e : EndId) : TableId :=
  (ends.getD (ends.getD e default).other default).table

/-- Adds an end to the group of its target. The groups stand in ascending order of the targets. -/
def addToGroup (target : TableId) (e : EndId) :
    List (TableId × List EndId) → List (TableId × List EndId)
  | [] => [(target, [e])]
  | (t, group) :: rest =>
    if target < t then (target, [e]) :: (t, group) :: rest
    else if target = t then (t, group ++ [e]) :: rest
    else (t, group) :: addToGroup target e rest

def groupByTarget (ends : List RelationEnd) (listed : List EndId) : List (TableId × List EndId) :=
  listed.foldl (fun groups e => addToGroup (targetOf ends e) e groups) []

def sharedColumns (ends : List RelationEnd) (table : TableId) : List Nat :=
  (ends.filter fun e => e.table == table && e.name.isSome && e.many).flatMap RelationEnd.columns

/-- The column that names the rows of a table: of the character columns that no many-sided
relation joins on, one called `name`, or else one with `name` in its name, or else the first. -/
def primaryName? (columns : List Column) (shared : List Nat) : Option Nat :=
  let candidates := columns.zipIdx.filter fun (c, i) => c.type.isCharacter && !shared.contains i
  ((candidates.find? fun (c, _) => Text.equalIgnoringAsciiCase c.name "name") <|>
    (candidates.find? fun (c, _) => Text.containsIgnoringAsciiCase c.name "name") <|>
    candidates.head?).map Prod.snd

def flagColumn (columns : List Column) : Option Nat → List Column
  | none => columns
  | some p => columns.modify p fun c => { c with namesRows := true }

/-- Gives a table what follows from the ends. The root has no column that names its row. -/
def closeUp (ends : List RelationEnd) (t : Table) : Table :=
  let relations := relationsOf ends t.id
  let primaryName := primaryName? t.columns (sharedColumns ends t.id)
  { t with
    columns := flagColumn t.columns primaryName
    relations
    byTarget := groupByTarget ends relations.values
    primaryName }

def includedTables (options : BrowseOptions) (catalog : Catalog) : List Catalog.Table :=
  catalog.tables.filter fun t => !(options.excludeViews && t.isView)

def build (options : BrowseOptions) (catalog : Catalog) : Except BrowseError Model := do
  let bare ← Table.allOfCatalog (includedTables options catalog)
  let resolved ← catalog.tables.mapM (Table.resolveAll bare)
  let tables := bare.head?.toList ++ (bare.drop 1).map fun t => t.withForeignKeys resolved.flatten
  let ends := (specs tables).foldl (addRelation tables) []
  return ⟨tables.map (closeUp ends), ends, catalog.fingerprint⟩

end RelationAtlas.Model
