import RelationAtlas.Entity.Basic
import RelationAtlas.Query.Compile
import RelationAtlas.Query.Statement
import RelationAtlas.Xml.Document
import RelationAtlas.XmlName

/-! # Reading results

A result has the shape of the extent tree that it answers: the document element `root` carries the
fingerprint, and inside the element of a row each related row is an element named by the alias of
its extent. Values are attributes; one that is not there is NULL. -/

namespace RelationAtlas

namespace Entity

open Xml (Element)

/-- The attributes of a row by the names that they encode; of two for one name the later counts. -/
def attributesOf (e : Element) : NameMap String :=
  .ofList (e.attributes.map fun a => (XmlName.decode a.name, a.value))

def selectedNames (hop : Hop) : List String := hop.columns ++ hop.selectables.map Selectable.name

def valuesOf (hop : Hop) (given : NameMap String) : NameMap (Option String) :=
  .ofList ((selectedNames hop).map fun name => (name, given.get? name))

/-- The matching flag of a row; the outermost row and rows without filter values have none. -/
def matchingOf (hop : Hop) (given : NameMap String) : Option Bool :=
  if hop.values.isEmpty || hop.relation.isNone then none
  else some (given.get? Query.matchingColumn == some "1")

mutual

def ofElement (m : Model) (table : TableId) (tableAlias : String) :
    Extent → Element → Except BrowseError Entity
  | ⟨hop, children⟩, e => do
    let given := attributesOf e
    let names ← Query.aliases m table tableAlias children
    let related ← relatedOf m table names children e
    return ⟨valuesOf hop given, matchingOf hop given, related⟩

def relatedOf (m : Model) (table : TableId) :
    List String → List Extent → Element → Except BrowseError (List Related)
  | name :: names, child :: rest, e => do
    let r ← Query.relationOf m table child.toHop
    let entities ← (e.childrenNamed (XmlName.encode name)).mapM
      (ofElement m (m.target r.id).id name child)
    let related ← relatedOf m table names rest e
    return ⟨child.relation.getD "", name, r.id, entities⟩ :: related
  | _, _, _ => .ok []

end

end Entity

namespace QueryResult

def ofElement (m : Model) (root : Extent) (e : Xml.Element) : Except BrowseError QueryResult :=
  if e.name = "root" then do
    return ⟨e.attribute? Query.fingerprintAttribute, ← Entity.ofElement m Model.rootId "" root e⟩
  else .error (.unexpectedResult (.documentElement e.name))

def parse (m : Model) (root : Extent) (text : String) : Except BrowseError QueryResult :=
  match Xml.parse? text with
  | some e => ofElement m root e
  | none => .error .malformedXml

end QueryResult

/-! ## Templates

The template of an extent is an entity of the shape that a result would have: every selected value
is there as NULL, and every list holds one placeholder row. -/

namespace Entity

mutual

def templateOf (m : Model) (table : TableId) (tableAlias : String) :
    Extent → Except BrowseError Entity
  | ⟨hop, children⟩ => do
    let names ← Query.aliases m table tableAlias children
    let related ← templatesOf m table names children
    return ⟨valuesOf hop .empty, none, related⟩

def templatesOf (m : Model) (table : TableId) :
    List String → List Extent → Except BrowseError (List Related)
  | name :: names, child :: rest => do
    let r ← Query.relationOf m table child.toHop
    let placeholder ← templateOf m (m.target r.id).id name child
    let related ← templatesOf m table names rest
    return ⟨child.relation.getD "", name, r.id, [placeholder]⟩ :: related
  | _, _ => .ok []

end

def template (m : Model) (root : Extent) : Except BrowseError Entity :=
  templateOf m Model.rootId "" root

end Entity

end RelationAtlas
