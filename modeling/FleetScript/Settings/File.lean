import FleetScript.Disk
import FleetScript.Json.Printer
import FleetScript.Json.Reader
import FleetScript.Path
import FleetScript.Settings

/-!
The file that settings are kept in: reading it, and saving it with a backup of what it held. A
file that does not exist gives the default settings.
-/

namespace FleetScript.Settings

open Text

/-! ### Place -/

/-- The folder of the settings of a user with a home folder; without one, the home of the account
that runs the program. -/
def folder (home : String) : String :=
  Path.join (Path.join (if home.isEmpty then "/root" else home) ".config") "termrun"

/-- The path of the settings of a user with a home folder. -/
def path (home : String) : String := Path.join (folder home) "config.json"

def backupPath (path : String) : String := Path.withExtension path "json.bak"

/-! ### Causes -/

/-- Why a settings file cannot be read or saved. -/
inductive FileError where
  | unreadable (path : String) (cause : IoError)
  | malformed
  | empty
  | undecodable (path : String) (cause : Json.DecodeError)
  | beyondLimit (path : String) (limit : Limit)
  | noFolder (folder : String) (cause : IoError)
  | noBackup (path : String) (cause : IoError)
  | uncreatable (path : String) (cause : IoError)

namespace FileError

/-- The texts of a cause and of what caused it, outermost first. -/
def chain : FileError → List String
  | unreadable path cause => ["Failed to read config file: " ++ path, cause.message]
  | malformed => ["Invalid JSONC in config file"]
  | empty => ["Config file is empty"]
  | undecodable path cause =>
    ["Invalid configuration in " ++ path ++ ". Check for unknown fields or invalid values.",
      cause.message]
  | beyondLimit path limit => ["Invalid configuration in " ++ path ++ ": " ++ limit.message]
  | noFolder folder cause => ["Failed to create config directory: " ++ folder, cause.message]
  | noBackup path cause => ["Failed to create backup at: " ++ path, cause.message]
  | uncreatable path cause => ["Failed to create config file: " ++ path, cause.message]

/-- The text of a cause with what caused it. -/
def message (e : FileError) : String := joinWith ": " e.chain

end FileError

/-! ### Reading -/

def ofText (path text : String) : Except FileError Settings :=
  match Json.read text.toList with
  | .malformed => .error .malformed
  | .empty => .error .empty
  | .value v =>
    match ofJson v with
    | .error cause => .error (.undecodable path cause)
    | .ok s =>
      match s.validate with
      | .error limit => .error (.beyondLimit path limit)
      | .ok () => .ok s

def load (disk : Disk) (path : String) : Except FileError Settings :=
  if disk.has path then
    match disk.readText path with
    | .error cause => .error (.unreadable path cause)
    | .ok text => ofText path text
  else .ok {}

/-! ### Saving -/

def prepareFolder (disk : Disk) (path : String) : Except FileError Unit × Disk :=
  match Path.parent? path with
  | none => (.ok (), disk)
  | some dir =>
    if disk.has dir then (.ok (), disk)
    else
      let (made, disk) := disk.makeFolders dir
      (made.mapError (.noFolder dir), disk)

def backUp (disk : Disk) (path : String) : Except FileError Disk :=
  if disk.has path then
    (disk.copy path (backupPath path)).mapError (.noBackup (backupPath path))
  else .ok disk

/-- Saves settings to a file; the disk is as far as the saving came. -/
def save (s : Settings) (path : String) (disk : Disk) : Except FileError Unit × Disk :=
  match prepareFolder disk path with
  | (.error e, disk) => (.error e, disk)
  | (.ok (), disk) =>
    match backUp disk path with
    | .error e => (.error e, disk)
    | .ok disk =>
      match disk.write path .replace (toBytes (Json.print s.toJson)) with
      | .error cause => (.error (.uncreatable path cause), disk)
      | .ok disk => (.ok (), disk)

end FleetScript.Settings
