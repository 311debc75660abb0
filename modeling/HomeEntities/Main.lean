import HomeEntities.Cli

/-!
# The program

Reads the files that the arguments name, and prints what comes of them.
-/

namespace HomeEntities

/-- The number of a fault of the system, which some reports give with its sign turned. -/
def faultNumber (code : UInt32) : Nat :=
  if code.toNat < 2147483648 then code.toNat else 4294967296 - code.toNat

/-- Read a file, or tell why there is nothing to read. -/
def readFile (path : String) : IO FileContent := do
  try
    return .ok (← IO.FS.readBinFile path)
  catch
    | .noFileOrDirectory _ code _ | .inappropriateType _ code _ | .permissionDenied _ code _
    | .invalidArgument _ code _ | .resourceExhausted _ code _ | .noSuchThing _ code _
    | .otherError code _ => return .error (.ofNumber (faultNumber code))
    | _ => return .error (.other 5)

/-- Carry out the command, and report its status. -/
def execute (arguments : List String) : IO UInt32 := do
  match Command.parse arguments with
  | none =>
    IO.eprintln "Usage: plan [--config CONFIG] SNAPSHOT"
    return 2
  | some command =>
    let config ← command.config.mapM fun path => do return (path, ← readFile path)
    let snapshot ← readFile command.snapshot
    let files path := match config with
      | some (name, content) => if name == path then content else snapshot
      | none => snapshot
    let ending := command.run files
    for line in ending.log do IO.eprintln line
    IO.print ending.output
    if let some failure := ending.failure then IO.eprintln failure
    return ending.status.toUInt32

end HomeEntities

def main (arguments : List String) : IO UInt32 := HomeEntities.execute arguments
