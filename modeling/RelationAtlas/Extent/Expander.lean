import RelationAtlas.Extent.Basic
import RelationAtlas.Extent.Flavor
import RelationAtlas.Model.Basic

/-! # Expansion

Building the extents of a request, or of the overview of all tables. An expansion walks the
relation graph depth first and keeps the ends from the root to where it stands on a path: an end
may turn up again on another branch, but not below itself. Flavors bound the depth. -/

namespace RelationAtlas

/-! ## Default order

Rows reached by a relation come in the order of an index that can be sought in: the one the target
side stands on, or else the primary one, or else the first. -/

/-- The columns of an index with their directions, unknown ones read as ascending. -/
def indexOrder (t : Table) (i : Index) : List OrderColumn :=
  i.tuple.columns.map fun c =>
    ⟨t.columnName c.column, if c.direction = .unknown then .ascending else c.direction⟩

def Table.indexBehind? (t : Table) : TupleRef → Option Index
  | .index name => t.index? name
  | .foreignKey name =>
    (t.foreignKey? name).bind fun k => (k.backing.filterMap t.index?).find? Index.isSupported

def Model.orderIndex? (m : Model) (e : EndId) : Option Index :=
  let other := m.otherEnd e
  let t := m.table other.table
  (t.indexBehind? other.key).filter Index.isSeekable <|>
    t.primaryIndex?.filter Index.isSeekable <|>
    t.seekableIndexes.head?

def Model.defaultOrder (m : Model) (e : EndId) : List OrderColumn :=
  ((m.orderIndex? e).map (indexOrder (m.target e))).getD []

/-! ## Walking the graph -/

structure ExtentRequest where
  table : String
  flavor : Flavor
  index : Option String := none
  order : List OrderColumn := []
  values : List (Option String) := []
  keyCount : Nat := 0
  scan : Option String := none
  limit : Option Nat := none
deriving DecidableEq, Repr

theorem Flavor.depth_of_reduce {f g : Flavor} {toMany unique : Bool}
    (h : f.reduce toMany unique = some g) : g.depth.toNat < f.depth.toNat := by
  simp only [Flavor.reduce] at h
  split at h
  · cases h
  · rename_i shown
    cases h
    simp only [not_or] at shown
    dsimp only
    omega

def Model.hop (m : Model) (e : EndId) (f : Flavor) : Hop where
  relation := some ((m.relationEnd e).name.getD "")
  flavor := f
  columns := (m.target e).columns.map Column.name

def Model.expandedHop (m : Model) (defaultLimit : Option Nat) (e : EndId) (f : Flavor) : Hop :=
  { m.hop e f with limit := some (f.limit defaultLimit), order := m.defaultOrder e }

/-- The hop along an end as a request shapes it. The first of an unknown order column and an
unknown index is the error. -/
def Model.requestedHop (m : Model) (defaultLimit : Option Nat) (e : EndId) (r : ExtentRequest) :
    Except BrowseError Hop := do
  let t := m.target e
  match r.order.find? fun o => (t.column? o.name).isNone with
  | some o => throw (.unresolvedColumn t.name.simple o.name)
  | none => pure ()
  let forced ← match r.index with
    | none => pure none
    | some name => match t.index? name with
      | some i => pure (some i)
      | none => throw (.unresolvedKey t.name.simple name)
  let order := if !r.order.isEmpty then r.order
    else match forced with
      | some i => indexOrder t i
      | none => m.defaultOrder e
  return { m.hop e r.flavor with
    limit := some (r.limit.getD (r.flavor.limit defaultLimit))
    order
    index := r.index
    values := r.values
    keyCount := r.keyCount
    scan := r.scan.map (Scan.ofTable t) }

/-- The ends from the root to where an expansion stands, the last first. -/
abbrev Path := List EndId

def Model.expandChildren (m : Model) (defaultLimit : Option Nat) (f : Flavor) (table : TableId) :
    StateM Path (List Extent) := do
  let extents ← (m.table table).relations.values.mapM fun e => do
    if (← get).contains e then return none
    match _h : f.reduce (m.navigatesToMany e) (m.isUniquelyTyped e) with
    | none => return none
    | some g =>
      modify fun path => e :: path
      let children ← m.expandChildren defaultLimit g (m.otherEnd e).table
      modify List.tail
      return some (⟨m.expandedHop defaultLimit e g, children⟩ : Extent)
  return extents.filterMap id
termination_by f.depth.toNat
decreasing_by exact Flavor.depth_of_reduce _h

def Model.expandHop (m : Model) (defaultLimit : Option Nat) (e : EndId) (hop : Hop) :
    StateM Path Extent := do
  modify fun path => e :: path
  let children ← m.expandChildren defaultLimit hop.flavor (m.otherEnd e).table
  modify List.tail
  return ⟨hop, children⟩

/-- Builds extents over one model. Its path is empty between expansions. -/
structure Expander where
  model : Model
  defaultLimit : Option Nat
  path : Path := []

namespace Expander

def new (m : Model) (options : BrowseOptions) : Expander := ⟨m, options.defaultLimit, []⟩

def overview (x : Expander) (f : Flavor) : Extent × Expander :=
  let (children, path) := (x.model.rootTable.relations.values.mapM fun e =>
    x.model.expandHop x.defaultLimit e (x.model.expandedHop x.defaultLimit e f)).run x.path
  (⟨(Extent.root f).toHop, children⟩, { x with path })

def request (x : Expander) (r : ExtentRequest) : Except BrowseError Extent × Expander :=
  let hop := do
    let t ← x.model.requireTable r.table
    let e ← x.model.rootRelationTo t.id
    return (e.id, ← x.model.requestedHop x.defaultLimit e.id r)
  match hop with
  | .error error => (.error error, x)
  | .ok (e, hop) =>
    let (child, path) := (x.model.expandHop x.defaultLimit e hop).run x.path
    (.ok ((Extent.root r.flavor).withChild child), { x with path })

end Expander

def Model.plainExtent (m : Model) (parent : TableId) (relation : String) :
    Except BrowseError Extent := do
  let e ← m.relation parent relation
  return ⟨{ m.hop e.id ⟨.table, 0⟩ with relation := some relation, order := m.defaultOrder e.id }, []⟩

end RelationAtlas
