import RelationAtlas.Cli.Run

/-! # The program

Runs the command line on the files of the disk. -/

namespace RelationAtlas

def FileFault.ofIO : IO.Error → FileFault
  | .noFileOrDirectory .. => .missing
  | .inappropriateType _ 20 _ => .notDirectory
  | .inappropriateType _ 21 _ => .isDirectory
  | .inappropriateType _ _ _ => .notDirectory
  | e => .other (toString e)

def diskAccess : FileAccess IO where
  read path := do
    try
      let bytes ← IO.FS.readBinFile path
      match String.fromUTF8? bytes with
      | some text => return .ok text
      | none => return .error .notText
    catch e => return .error (.ofIO e)
  write path text := do
    try
      IO.FS.writeFile path text
      return .ok ()
    catch e => return .error (.ofIO e)

end RelationAtlas

def main (arguments : List String) : IO UInt32 := do
  let outcome ← RelationAtlas.Cli.run RelationAtlas.diskAccess arguments
  IO.print outcome.stdout
  IO.eprint outcome.stderr
  return outcome.exitCode.toUInt32
