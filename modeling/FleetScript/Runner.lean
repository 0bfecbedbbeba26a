import FleetScript.Host.Table
import FleetScript.Script
import FleetScript.Settings

/-!
The runner: registered hosts, the loaded script, and the settings that shape sessions. Loading
checks a script against the variables of the first host, and a script that fails the check leaves
the one that was loaded before.
-/

namespace FleetScript

open Text

/-! ### Causes -/

/-- Why a script cannot be loaded, or a host's sequence not made. -/
inductive RunnerError where
  | notLoaded
  | unreadable (path : String) (cause : IoError)
  | script (cause : Script.Error)
  | host (cause : Host.Error)
  deriving DecidableEq

namespace RunnerError

/-- The texts of a cause and of what caused it, outermost first. -/
def chain : RunnerError → List String
  | notLoaded => ["A script was not yet loaded using load()"]
  | unreadable path cause =>
    ["Failed to read script " ++ path ++ ": " ++ cause.message, cause.message]
  | script cause =>
    ["Script error: " ++ cause.message, cause.message] ++
      (match cause with
        | .unreadable _ io => [io.message]
        | _ => [])
  | host cause => cause.chain

def message (e : RunnerError) : String := e.chain.head?.getD ""

end RunnerError

/-! ### Runners -/

/-- A loaded script: its text, and its path if it came from a file. -/
structure Loaded where
  code : String
  filename : Option String
  deriving DecidableEq

/-- Registered hosts, the loaded script and the settings of sessions. -/
structure Runner where
  registry : Host.Registry := {}
  script : Option Loaded := none
  domain : String := ""
  logdir : Option String := none
  overwriteLogs : Bool := false
  deriving DecidableEq

namespace Runner

/-- A runner with settings; their defines are the first ones. -/
def new (s : Settings) : Runner where
  registry := { scopes := Scopes.define {} s.defines.pairs }
  domain := s.domain
  logdir := s.logdir
  overwriteLogs := s.overwriteLogs

def define (r : Runner) (vars : List (String × String)) : Runner :=
  { r with registry := { r.registry with scopes := r.registry.scopes.define vars } }

/-- Replaces variables of one host by single values. -/
def defineHost (r : Runner) (hostname : String) (vars : List (String × String)) : Runner :=
  { r with registry := { r.registry with scopes := r.registry.scopes.defineHost hostname vars } }

/-! ### Loading -/

/-- The variables that a script is checked against: those of the first host, or without hosts the
defines alone. -/
def checkVariables (r : Runner) : Except Host.Error Variables :=
  match r.registry.entries with
  | [] => .ok (r.registry.scopes.merge "" ∅ "")
  | entry :: _ =>
    (Host.parse entry.raw Host.defaultProtocol).map fun address =>
      r.registry.scopes.merge address.hostname entry.queryVars r.domain

/-- Loads a script that has been read from the file `filename`, or from no file. -/
def loadScript (r : Runner) (code : String) (filename : Option String) :
    Except RunnerError Runner := do
  let vars ← r.checkVariables.mapError .host
  let vars := vars.reserve { filename := filename.getD "", runner := "", parent := "" }
  let _ ← (Script.read code vars).mapError .script
  pure { r with script := some { code, filename } }

def load (r : Runner) (code : String) : Except RunnerError Runner := r.loadScript code none

def loadFile (r : Runner) (disk : Disk) (path : String) : Except RunnerError Runner :=
  match disk.readText path with
  | .error cause => .error (.unreadable path cause)
  | .ok code => r.loadScript code (some path)

end Runner

end FleetScript
