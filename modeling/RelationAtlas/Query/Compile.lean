import RelationAtlas.Extent.Basic
import RelationAtlas.Extent.Expander
import RelationAtlas.Model.Basic
import RelationAtlas.Query.Token
import RelationAtlas.Text.Basic

/-! # Compiling extents

Each extent of a tree becomes a query nested in the query of its parent and joined to it on the
columns of the relation. Below the root table there is nothing to join on. -/

namespace RelationAtlas

namespace Query

/-! ## Table aliases

Each extent of a tree is selected under an alias. One that is given is kept. One that is derived
is the parent's alias with the first letter of the target table's name, and a counter if a sibling
has that already. -/

def relationOf (m : Model) (parent : TableId) (hop : Hop) : Except BrowseError RelationEnd :=
  m.relation parent (hop.relation.getD "")

/-- The letter that stands for a table in an alias: `x` if its name begins with no letter. -/
def aliasLetter (t : Table) : String :=
  match t.name.name.toList.head? with
  | some c => if Text.isLetter c then String.ofList (Text.lower c) else "x"
  | none => "x"

def aliasesFrom (m : Model) (parent : TableId) (stem : String) (taken : List String) :
    List Extent → Except BrowseError (List String)
  | [] => .ok []
  | child :: rest =>
    match child.tableAlias with
    | some given => do return given :: (← aliasesFrom m parent stem taken rest)
    | none => do
      let e ← relationOf m parent child.toHop
      let derived := Text.firstFree (Text.numbered (stem ++ aliasLetter (m.target e.id))) taken
      return derived :: (← aliasesFrom m parent stem (derived :: taken) rest)

/-- The aliases of sibling extents below a parent; the given ones are taken from the start. -/
def aliases (m : Model) (parent : TableId) (stem : String) (children : List Extent) :
    Except BrowseError (List String) :=
  aliasesFrom m parent stem (children.filterMap fun c => c.tableAlias) children

/-! ## Queries for extents -/

def requireColumn (t : Table) (name : String) : Except BrowseError Column :=
  match t.column? name with
  | some c => .ok c
  | none => .error (.unresolvedColumn t.name.simple name)

def selectColumn (tableAlias : String) (c : Column) : SelectedColumn :=
  if c.type.needsTextCast then .text ⟨tableAlias, c.name⟩ else .plain ⟨tableAlias, c.name⟩

def joinConditions (m : Model) (e : RelationEnd) (tableAlias parentAlias : String) :
    List Condition :=
  let other := m.relationEnd e.other
  (other.columns.zip e.columns).map fun (own, theirs) =>
    .joins ⟨tableAlias, (m.table other.table).columnName own⟩
      ⟨parentAlias, (m.table e.table).columnName theirs⟩

def placeholder : String := "\x7balias\x7d"

def expression (tableAlias : String) (s : Selectable) : String × String :=
  (Text.replace placeholder (escapePart tableAlias) s.expression, s.name)

def predicates (m : Model) (e : RelationEnd) (parentAlias : Option String) (tableAlias : String)
    (hop : Hop) : List Predicate :=
  ((parentAlias.map (joinConditions m e tableAlias)).getD [] ++
      seekConditions tableAlias hop.keyCount (hop.values.zip hop.order)).map .condition ++
    (hop.scan.map (scanPredicate tableAlias)).toList

/-- The columns that an extent selects. More filter values than order columns are an error, and
then a column that the table does not have. -/
def selectedColumns (t : Table) (hop : Hop) : Except BrowseError (List Column) := do
  if hop.order.length < hop.values.length then
    throw (.tooManyValues (hop.relation.getD "") hop.values.length hop.order.length)
  let columns ← hop.columns.mapM (requireColumn t)
  let _ ← (hop.order.take hop.values.length).mapM fun o => requireColumn t o.name
  return columns

def selection (m : Model) (e : RelationEnd) (parentAlias : Option String) (tableAlias : String)
    (hop : Hop) (columns : List Column) : Selection where
  limit := hop.limit
  columns := columns.map (selectColumn tableAlias)
  matching := matchConditions tableAlias (hop.values.zip hop.order)
  expressions := hop.selectables.map (expression tableAlias)
  source := (m.target e.id).name
  tableAlias
  index := hop.index
  predicates := predicates m e parentAlias tableAlias hop
  order := hop.order.map fun o => (⟨tableAlias, o.name⟩, o.direction)
  binary := columns.any fun c => c.type.isBinary

mutual

def compile (m : Model) (parent : TableId) (parentAlias : Option String) (tableAlias : String) :
    Extent → Except BrowseError Subquery
  | ⟨hop, children⟩ => do
    let e ← relationOf m parent hop
    let t := m.target e.id
    let columns ← selectedColumns t hop
    let names ← aliases m t.id tableAlias children
    let subqueries ← compileAll m t.id (some tableAlias) names children
    let _ ← t.name.escaped
    return ⟨selection m e parentAlias tableAlias hop columns, subqueries⟩

def compileAll (m : Model) (parent : TableId) (parentAlias : Option String) :
    List String → List Extent → Except BrowseError (List Subquery)
  | name :: names, child :: rest => do
    let q ← compile m parent parentAlias name child
    return q :: (← compileAll m parent parentAlias names rest)
  | _, _ => .ok []

end

def sql (m : Model) (root : Extent) : Except BrowseError String := do
  let names ← aliases m Model.rootId "" root.children
  let queries ← compileAll m Model.rootId none names root.children
  return render (statementTokens queries)

end Query

/-! ## Requests

Expanding and compiling in one step: the request for one table, and the overview of all tables at
the flavor that the options set. -/

def compileRequest (m : Model) (options : BrowseOptions) (r : ExtentRequest) :
    Except BrowseError (Extent × String) := do
  let extent ← ((Expander.new m options).request r).1
  return (extent, ← Query.sql m extent)

def compileOverview (m : Model) (options : BrowseOptions) : Except BrowseError (Extent × String) := do
  let extent := ((Expander.new m options).overview options.topFlavor).1
  return (extent, ← Query.sql m extent)

end RelationAtlas
