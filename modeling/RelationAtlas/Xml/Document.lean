import RelationAtlas.Xml.Event

/-! # Documents

The events of a document are put together to its elements. On the way qualifiers are resolved to
namespaces; end tags have to match start tags, and there is one outermost element with nothing but
blanks around it. -/

namespace RelationAtlas.Xml

/-! ## Elements

The elements of a document with their attributes. Character data is dropped: nothing that is read
here is carried by it. -/

structure Attribute where
  space : Option String
  name : String
  value : String
deriving DecidableEq, Repr

def Attribute.plain (name value : String) : Attribute := ⟨none, name, value⟩

structure Element where
  name : String
  attributes : List Attribute
  children : List Element

instance : Inhabited Element := ⟨⟨"", [], []⟩⟩

namespace Element

def attribute? (e : Element) (name : String) : Option String :=
  (e.attributes.find? fun a => a.space.isNone && a.name == name).map Attribute.value

def childrenNamed (e : Element) (name : String) : List Element :=
  e.children.filter fun c => c.name == name

end Element

/-! ## Assembly -/

def xmlSpace : String := "http://www.w3.org/XML/1998/namespace"

def xmlnsSpace : String := "http://www.w3.org/2000/xmlns/"

/-- The namespaces of the qualifiers in force, the innermost first. No qualifier stands for the
default namespace. -/
abbrev Scope := List (Option String × String)

/-- Adds what an attribute declares to the declarations of its element; none if it must not
declare that. -/
def declare? (declared : Scope) (name : QName) (value : String) : Option Scope :=
  if name.qualifier = "xmlns" then
    if value = xmlnsSpace then none
    else if (name.base = "xml") != (value = xmlSpace) then none
    else if declared.any fun d => d.1 == some name.base then none
    else if value = xmlSpace then some declared
    else some (declared ++ [(some name.base, value)])
  else if value = xmlSpace ∨ value = xmlnsSpace then none
  else some (declared ++ [(none, value)])

def isDeclaration (name : QName) : Bool := name.qualifier == "xmlns" || name.base == "xmlns"

def declarations? (attributes : List (QName × String)) : Option Scope :=
  (attributes.filter fun a => isDeclaration a.1).foldlM (fun d a => declare? d a.1 a.2) []

def attributeSpace? (scope : Scope) (name : QName) : Option (Option String) :=
  if name.qualifier = "xml" then some (some xmlSpace)
  else if name.qualifier.isEmpty then some none
  else (scope.lookup (some name.qualifier)).map some

def resolveAttribute? (scope : Scope) (name : QName) (value : String) : Option Attribute :=
  (attributeSpace? scope name).map fun space => ⟨space, name.base, value⟩

def areDistinct : List Attribute → Bool
  | [] => true
  | a :: rest => !(rest.any fun b => a.space == b.space && a.name == b.name) && areDistinct rest

structure Frame where
  name : QName
  attributes : List Attribute
  scope : Scope
  children : List Element

def Frame.element (f : Frame) : Element := ⟨f.name.base, f.attributes, f.children.reverse⟩

def frame? (outer : Scope) (name : QName) (attributes : List (QName × String)) : Option Frame := do
  if name.qualifier = "xmlns" then none
  let scope := (← declarations? attributes) ++ outer
  let resolved ← (attributes.filter fun a => !isDeclaration a.1).mapM fun a =>
    resolveAttribute? scope a.1 a.2
  if !areDistinct resolved then none
  if !name.qualifier.isEmpty && !(scope.any fun d => d.1 == some name.qualifier) then none
  return ⟨name, resolved, scope, []⟩

structure Assembly where
  frames : List Frame
  root : Option Element

namespace Assembly

def start : Assembly := ⟨[], none⟩

def place (frames : List Frame) (e : Element) : Assembly :=
  match frames with
  | [] => ⟨[], some e⟩
  | f :: frames => ⟨{ f with children := e :: f.children } :: frames, none⟩

def step? (a : Assembly) : Event → Option Assembly
  | .text blank => if blank || !a.frames.isEmpty then some a else none
  | .opened name attributes empty =>
    if a.frames.isEmpty && a.root.isSome then none
    else do
      let outer := (a.frames.head?.map Frame.scope).getD []
      let f ← frame? outer name attributes
      if empty then return place a.frames f.element
      else return ⟨f :: a.frames, none⟩
  | .closed name =>
    match a.frames with
    | [] => none
    | f :: frames => if f.name = name then some (place frames f.element) else none

def finish? (a : Assembly) : Option Element := if a.frames.isEmpty then a.root else none

end Assembly

def parse? (text : String) : Option Element := do
  let events ← events? (← body? text.toList)
  (← events.foldlM Assembly.step? .start).finish?

/-! ## Writing documents

A document is written with a declaration and each tag on a line of its own, two blanks in for each
level. Elements of some names are written as one tag; all others keep their end tag, on its own
line too, when they are empty. -/

def escapeChar (c : Char) : List Char :=
  if c = '<' then "&lt;".toList
  else if c = '>' then "&gt;".toList
  else if c = '&' then "&amp;".toList
  else if c = '\'' then "&apos;".toList
  else if c = '"' then "&quot;".toList
  else [c]

def escape (value : String) : String := String.ofList (value.toList.flatMap escapeChar)

def writeAttribute (a : Attribute) : String := " " ++ a.name ++ "=\"" ++ escape a.value ++ "\""

def writeAttributes (as : List Attribute) : String := String.join (as.map writeAttribute)

def newLine (level : Nat) : String := String.ofList ('\n' :: List.replicate (2 * level) ' ')

mutual

def writeElement (single : String → Bool) (level : Nat) : Element → String
  | ⟨name, attributes, children⟩ =>
    let head := newLine level ++ "<" ++ name ++ writeAttributes attributes
    if single name then head ++ "/>"
    else head ++ ">" ++ writeElements single (level + 1) children ++ newLine level ++
      "</" ++ name ++ ">"

def writeElements (single : String → Bool) (level : Nat) : List Element → String
  | [] => ""
  | e :: es => writeElement single level e ++ writeElements single level es

end

def write (single : String → Bool) (e : Element) : String :=
  "<?xml version=\"1.0\" encoding=\"utf-8\"?>" ++ writeElement single 0 e

end RelationAtlas.Xml
