import RelationAtlas.Error
import RelationAtlas.NameMap
import RelationAtlas.Text.Basic

/-! # File trees

Files held in memory, by their paths from the working directory. A directory is there as long as
some file is below it. Paths are followed step by step as a disk would: only a directory leads
further, and every step but the last has to exist. Around the working directory are the directories
above it and what every disk has: the root, `/dev`, `/tmp`, and `/dev/null`, which takes whatever is
written and stays empty. -/

namespace RelationAtlas

/-! ## Access to files

Text files are read and written as a whole, by their paths, in any monad. -/

structure FileAccess (m : Type → Type) where
  read (path : String) : m (Except FileFault String)
  write (path text : String) : m (Except FileFault Unit)

/-! ## Trees -/

structure FileTree where
  files : NameMap String

namespace FileTree

def ofList (files : List (String × String)) : FileTree := ⟨.ofList files⟩

inductive Place
  | file (path : String)
  | directory
  | null
  | free (path : String)
deriving DecidableEq, Repr

def nullPath : String := "/dev/null"

def standingDirectories : List String := ["/dev", "/tmp"]

/-- The steps of the root: an empty one, so that paths from there begin with a slash. -/
def rootSteps : List String := [""]

def pathOf (steps : List String) : String := "/".intercalate steps

def parentOf (steps : List String) : List String :=
  match steps.getLast? with
  | none | some ".." => steps ++ [".."]
  | some "" => steps
  | some _ => steps.dropLast

def isDirectory (t : FileTree) (steps : List String) : Bool :=
  let stem := (pathOf steps ++ "/").toList
  standingDirectories.contains (pathOf steps) || t.files.names.any fun n => stem.isPrefixOf n.toList

def walk (t : FileTree) (here : List String) : List String → Except FileFault Place
  | [] => .ok .directory
  | "." :: rest => t.walk here rest
  | ".." :: rest => t.walk (parentOf here) rest
  | name :: rest =>
    let next := here ++ [name]
    if 255 < name.utf8ByteSize then .error .nameTooLong
    else if t.isDirectory next then t.walk next rest
    else if pathOf next = nullPath then
      if rest.isEmpty then .ok .null else .error .notDirectory
    else if t.files.contains (pathOf next) then
      if rest.isEmpty then .ok (.file (pathOf next)) else .error .notDirectory
    else if rest.isEmpty then .ok (.free (pathOf next))
    else .error .missing

def endsInSlash (path : String) : Bool := path.toList.getLast? == some '/'

def locate (t : FileTree) (path : String) : Except FileFault Place :=
  if path.toList.contains '\x00' then .error .nulInName
  else if path.isEmpty then .error .missing
  else if 4095 < path.utf8ByteSize then .error .nameTooLong
  else
    let start := if path.toList.head? = some '/' then rootSteps else []
    t.walk start ((Text.split "/" path).filter fun step => !step.isEmpty)

def read (t : FileTree) (path : String) : Except FileFault String := do
  match ← t.locate path with
  | .file found => if endsInSlash path then .error .notDirectory else .ok ((t.files.get? found).getD "")
  | .directory => .error .isDirectory
  | .null => if endsInSlash path then .error .notDirectory else .ok ""
  | .free _ => .error .missing

def put (t : FileTree) (path text : String) : FileTree := ⟨t.files.insert path text⟩

def write (t : FileTree) (path text : String) : Except FileFault FileTree := do
  match ← t.locate path with
  | .file found => if endsInSlash path then .error .notDirectory else .ok (t.put found text)
  | .directory => .error .isDirectory
  | .null => if endsInSlash path then .error .notDirectory else .ok t
  | .free found => if endsInSlash path then .error .isDirectory else .ok (t.put found text)

def access : FileAccess (StateM FileTree) where
  read path := do return (← get).read path
  write path text := do
    match (← get).write path text with
    | .ok t =>
      set t
      return .ok ()
    | .error fault => return .error fault

end FileTree

end RelationAtlas
