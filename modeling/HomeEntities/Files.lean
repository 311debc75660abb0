import HomeEntities.Config
import HomeEntities.Device.Decode

/-!
# Files

Configurations and device snapshots are kept in files. Reading a file fails because the system
does not hand out its bytes, or because its bytes are no text.

* `FileFault`: why there is no text, with the words for it.
* `Config.ofFile`, `Device.ofFile`: what a file holds.
-/

namespace HomeEntities

/-- Why a file gives no text. -/
inductive FileFault where
  | missing
  | denied
  | notDirectory
  | isDirectory
  | nameTooLong
  | linkLoop
  | zeroInName
  | notText
  /-- Any other fault, by the number that the system gives it. -/
  | other (number : Nat)
deriving Repr, DecidableEq

namespace FileFault

/-- The fault of a number of the system. -/
def ofNumber : Nat → FileFault
  | 2 => missing
  | 13 => denied
  | 20 => notDirectory
  | 21 => isDirectory
  | 36 => nameTooLong
  | 40 => linkLoop
  | number => other number

/-- The words for a fault; those of the system come with its number. -/
def message : FileFault → String
  | missing => "No such file or directory (os error 2)"
  | denied => "Permission denied (os error 13)"
  | notDirectory => "Not a directory (os error 20)"
  | isDirectory => "Is a directory (os error 21)"
  | nameTooLong => "File name too long (os error 36)"
  | linkLoop => "Too many levels of symbolic links (os error 40)"
  | zeroInName => "file name contained an unexpected NUL byte"
  | notText => "stream did not contain valid UTF-8"
  | other number => "Input/output error (os error " ++ toString number ++ ")"

end FileFault

/-- What reading a file gives: its bytes, or why there are none. -/
abbrev FileContent := Except FileFault ByteArray

/-- The text in a file. -/
def FileContent.text (content : FileContent) : Except FileFault String :=
  match content with
  | .error fault => .error fault
  | .ok bytes =>
    match String.fromUTF8? bytes with
    | some text => .ok text
    | none => .error .notText

/-- Why no configuration comes of a file. -/
inductive ConfigError where
  | unreadable (path : String) (fault : FileFault)
  | malformed
deriving Repr, DecidableEq

/-- The wording of a failure, without what the grammar has to say. -/
def ConfigError.message : ConfigError → String
  | unreadable path fault => "Failed to read config file " ++ path ++ ": " ++ fault.message
  | malformed => "Failed to parse TOML"

/-- The configuration that a text holds. -/
def Config.ofText (text : String) : Except ConfigError Config :=
  match Config.read? text with
  | some config => .ok config
  | none => .error .malformed

/-- The configuration in a file. -/
def Config.ofFile (path : String) (content : FileContent) : Except ConfigError Config :=
  match content.text with
  | .ok text => Config.ofText text
  | .error fault => .error (.unreadable path fault)

/-- Why no device comes of a snapshot file. -/
inductive SnapshotError where
  | unreadable (path : String)
  | malformed (path : String)
deriving Repr, DecidableEq

/-- The wording of a failure, without its cause. -/
def SnapshotError.message : SnapshotError → String
  | unreadable path => "Failed to read device snapshot " ++ path
  | malformed path => "Failed to parse device snapshot " ++ path

/-- The device tree in a snapshot file. -/
def Device.ofFile (path : String) (content : FileContent) : Except SnapshotError Device :=
  match content.text with
  | .error _ => .error (.unreadable path)
  | .ok text =>
    match Device.read? text with
    | some device => .ok device
    | none => .error (.malformed path)

end HomeEntities
