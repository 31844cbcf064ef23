import RelationAtlas.Error
import RelationAtlas.Text.Basic

/-! # Names of catalog objects

A name has one to three parts, or none: that is the name of the root table, which stands in no
statement. The escaped form `[dbo].[Order Lines]` goes into SQL. The simple form `dbo.Order Lines`,
with a dot inside a part written twice, is what tables are looked up by. -/

namespace RelationAtlas

/-- Characters that a part must not hold, so that brackets enclose it unambiguously. -/
def isReserved (c : Char) : Bool :=
  c == '[' || c == ']' || c == '"'

def partFault? (part : String) : Option PartFault :=
  if part.isEmpty then some .empty
  else if part.toList.any isReserved then some .reserved
  else none

def partsFault? (parts : List String) : Option (String × PartFault) :=
  if parts.isEmpty || 3 < parts.length then some (".".intercalate parts, .count)
  else parts.findSome? fun p => (partFault? p).map fun f => (p, f)

/-- Encloses an identifier in brackets, a closing bracket inside it written twice. -/
def escapePart (part : String) : String :=
  String.ofList ('[' :: Text.doubled ']' part.toList ++ [']'])

structure ObjectName where
  parts : List String
  sound : parts = [] ∨ partsFault? parts = none
deriving DecidableEq

namespace ObjectName

def root : ObjectName := ⟨[], .inl rfl⟩

instance : Inhabited ObjectName := ⟨root⟩

def ofParts (parts : List String) : Except BrowseError ObjectName :=
  match h : partsFault? parts with
  | some (part, fault) => .error (.invalidNamePart part fault)
  | none => .ok ⟨parts, .inr h⟩

def qualified (schema name : String) : Except BrowseError ObjectName :=
  ofParts [schema, name]

def isRoot (n : ObjectName) : Bool := n.parts.isEmpty

/-- The parts between the outermost brackets, or between dots where the text has no brackets. -/
def partsOf? (trimmed : List Char) : Option (List String) :=
  match trimmed with
  | [] => none
  | '[' :: inner =>
    if inner.getLast? = some ']' then
      some ((Text.split "].[" (String.ofList inner.dropLast)).map (Text.replace "]]" "]"))
    else none
  | _ => some (Text.split "." (String.ofList trimmed))

def parse (text : String) : Except BrowseError ObjectName :=
  match partsOf? (Text.trimList text.toList) with
  | some parts => ofParts parts
  | none => .error (.invalidEscapedName text)

def name (n : ObjectName) : String := n.parts.getLast?.getD ""

def schema? (n : ObjectName) : Option String := n.parts.dropLast.getLast?

/-- The bracketed form; empty for the root. It decides equality and order. -/
def identity (n : ObjectName) : String := ".".intercalate (n.parts.map escapePart)

def escaped (n : ObjectName) : Except BrowseError String :=
  if n.isRoot then .error .rootNameInSql else .ok n.identity

def simple (n : ObjectName) : String :=
  ".".intercalate (n.parts.map fun p => String.ofList (Text.doubled '.' p.toList))

def display (n : ObjectName) : String :=
  if n.isRoot then "<root>" else n.identity

def order (m n : ObjectName) : Ordering := compare m.identity n.identity

end ObjectName

end RelationAtlas
