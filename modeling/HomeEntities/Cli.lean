import HomeEntities.Connection.Coordinator
import HomeEntities.Files
import HomeEntities.Plan
import HomeEntities.Setup.Basic

/-!
# Command line

One command prints the entities that a device snapshot would produce:
`plan SNAPSHOT [--config CONFIG]`. Requests for help (`--help`, `-h` and `help`) are not covered:
they count here as arguments that stand for no command, with status 2, where the program prints its
help and ends with status 0.

* `Command.parse`: the command that arguments stand for.
* `Command.run`: what the command prints and how it ends, given the files it names.
-/

namespace HomeEntities

/-- List the entities of a snapshot, under a configuration if one is named. -/
structure Command where
  snapshot : String
  config : Option String := none
deriving Repr, DecidableEq

namespace Command

/-- Set the configuration file, which is named once and not by the empty text. -/
def setConfig (value : String) (config : Option String) : Option (Option String) :=
  if value.isEmpty || config.isSome then none else some (some value)

/-- Set the snapshot file, which is named once and not by the empty text. -/
def setSnapshot (value : String) (snapshot : Option String) : Option (Option String) :=
  if value.isEmpty || snapshot.isSome then none else some (some value)

/-- Whether an argument looks like an option. -/
def isOption (argument : String) : Bool :=
  match argument.toList with
  | '-' :: _ :: _ => true
  | _ => false

/-- The arguments after the mark that ends options. -/
def positional (snapshot config : Option String) : List String → Option Command
  | [] => snapshot.map fun snapshot => { snapshot, config }
  | argument :: rest =>
    match setSnapshot argument snapshot with
    | some snapshot => positional snapshot config rest
    | none => none

/-- The arguments of the command. -/
def arguments (snapshot config : Option String) : List String → Option Command
  | [] => snapshot.map fun snapshot => { snapshot, config }
  | "--" :: rest => positional snapshot config rest
  | "--config" :: value :: rest =>
    if isOption value then none
    else
      match setConfig value config with
      | some config => arguments snapshot config rest
      | none => none
  | argument :: rest =>
    if isOption argument then
      if "--config=".toList.isPrefixOf argument.toList then
        match setConfig (String.ofList (argument.toList.drop 9)) config with
        | some config => arguments snapshot config rest
        | none => none
      else none
    else
      match setSnapshot argument snapshot with
      | some snapshot => arguments snapshot config rest
      | none => none

/-- The command that arguments stand for, if they stand for one. A request for help stands for
none. -/
def parse : List String → Option Command
  | "plan" :: rest => arguments none none rest
  | _ => none

end Command

/-- How a command ends: its status, what it prints, the lines that it logs, and the failure that it
reports. -/
structure Ending where
  status : Nat
  output : String := ""
  log : List String := []
  failure : Option String := none
deriving Repr, DecidableEq

namespace Ending

/-- A failure of the command. -/
def failed (message : String) : Ending := { status := 1, failure := some ("Error: " ++ message) }

/-- Arguments that stand for no command. This is no account of requests for help, which the program
answers with its help and status 0. -/
def misused : Ending := { status := 2 }

end Ending

/-- Why a command fails under its configuration. -/
inductive CommandError where
  | snapshot (e : SnapshotError)
  | connect (e : DeviceError)
  | setUp (e : NoUniqueId)

/-- The wording of a failure, outermost context first. -/
def CommandError.message (snapshot : String) : CommandError → String
  | .snapshot e => e.message
  | connect _ => "Failed to connect to device from " ++ snapshot
  | setUp _ => "Failed to set up entities"

namespace Command

/-- The configuration of the command, the default one if no file is named. -/
def configuration (command : Command) (files : String → FileContent) :
    Except ConfigError Config :=
  match command.config with
  | some path => Config.ofFile path (files path)
  | none => .ok {}

/-- The plan that the command prints under a configuration, and what is worth logging. -/
def plan (command : Command) (config : Config) (files : String → FileContent) :
    Except CommandError (String × List Event) := do
  let device ← (Device.ofFile command.snapshot (files command.snapshot)).mapError .snapshot
  let connection ← (Connection.connect Client.tree device).mapError .connect
  let (entities, events) ← (setUp connection.coordinator.snapshot config.extras).mapError .setUp
  return (renderPlan entities, connection.events ++ events)

/-- What the command prints and how it ends. The configuration comes first, since it says what is
logged of the rest. -/
def run (command : Command) (files : String → FileContent) : Ending :=
  match command.configuration files with
  | .error e => .failed e.message
  | .ok config =>
    let loaded := (command.config.map Event.configLoaded).toList
    match command.plan config files with
    | .ok (output, events) =>
      { status := 0, output, log := config.logging.lines (loaded ++ events) }
    | .error e =>
      { Ending.failed (e.message command.snapshot) with log := config.logging.lines loaded }

end Command

/-- What arguments lead to, unless they ask for help. -/
def runArguments (arguments : List String) (files : String → FileContent) : Ending :=
  match Command.parse arguments with
  | some command => command.run files
  | none => .misused

end HomeEntities
