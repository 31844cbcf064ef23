import RelationAtlas.Error
import RelationAtlas.Text.Basic
import RelationAtlas.Text.Case

/-! # Flavors

A flavor says how much of the relation graph an extent shows: an intent, and a depth that is left.
One hop away from its parent a child gets a reduced flavor, or none, and then it is not expanded. -/

namespace RelationAtlas

inductive FlavorType
  | none
  | existence
  | inline2
  | inline
  | block
  | page
  | blockList
  | pageList
  | table
deriving DecidableEq, Repr

namespace FlavorType

def all : List FlavorType :=
  [none, existence, inline2, inline, block, page, blockList, pageList, table]

def name : FlavorType → String
  | none => "none"
  | existence => "existence"
  | inline2 => "inline2"
  | inline => "inline"
  | block => "block"
  | page => "page"
  | blockList => "blocklist"
  | pageList => "pagelist"
  | table => "table"

def parse (text : String) : Except BrowseError FlavorType :=
  match all.find? fun t => t.name == Text.toLowerAscii (Text.trim text) with
  | some t => .ok t
  | Option.none => .error (.unknownFlavor text)

/-- The type one hop below. `toMany` says that the hop may yield several rows, `unique` that it is
the only such hop between its two tables. -/
def next (parent : FlavorType) (toMany unique : Bool) : FlavorType :=
  match parent with
  | pageList => page
  | blockList => block
  | page | block => inline
  | inline => if !toMany || unique then inline2 else none
  | inline2 | none | existence | table => none

end FlavorType

structure Flavor where
  type : FlavorType
  depth : Int
deriving DecidableEq, Repr

namespace Flavor

/-- The flavor of a child one hop below; a child starts no deeper than 1. -/
def reduce (f : Flavor) (toMany unique : Bool) : Option Flavor :=
  let type := f.type.next toMany unique
  let depth := min 1 (f.depth - 1)
  if type = .none ∨ depth < 0 then Option.none else some ⟨type, depth⟩

def limit (f : Flavor) (defaultLimit : Option Nat) : Nat :=
  match f.type with
  | .existence => 1
  | .inline2 => 2
  | .inline => 3
  | .block | .page => 4
  | .blockList => 10
  | .pageList => 2
  | .none | .table => defaultLimit.getD 2

def display (f : Flavor) : String := f.type.name ++ ":" ++ toString f.depth

def parse (text : String) : Except BrowseError Flavor :=
  match Text.cutAtFirst ':' text.toList with
  | Option.none => do return ⟨← FlavorType.parse text, 1⟩
  | some (name, depth) =>
    match Text.signedWithin? 0 2147483647 (Text.trim (String.ofList depth)) with
    | Option.none => .error (.unknownFlavor text)
    | some depth => do return ⟨← FlavorType.parse (String.ofList name), depth⟩

end Flavor

/-! ## Options

What is settled once for a model: whether views belong to it, the row limit of flavors that have
none of their own, and the flavor of each table in the overview. -/

structure BrowseOptions where
  excludeViews : Bool := false
  defaultLimit : Option Nat := none
  topFlavor : Flavor := ⟨.existence, 0⟩
deriving DecidableEq, Repr

end RelationAtlas
