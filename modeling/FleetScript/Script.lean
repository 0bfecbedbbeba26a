import FleetScript.Disk
import FleetScript.Script.Line

/-!
Scripts: the command lines of a text with the variables they refer to. A script is read with
variables that define every name in it, and gives its commands with the values that its
variables have at the time.
-/

namespace FleetScript

open Text

/-- Command lines and variables. -/
structure Script where
  lines : List Script.Line
  vars : Variables
  deriving DecidableEq

namespace Script

/-! ### Causes -/

/-- Why a script cannot be read or rendered. -/
inductive Error where
  | unreadable (path : String) (cause : IoError)
  | malformed (line : Nat) (fault : Fault)
  | undefined (line : Nat) (name : String)
  deriving DecidableEq

/-- The text that a malformed line is reported with. -/
def malformedMessage (line : Nat) (fault : String) : String :=
  "Syntax error on line " ++ decimal line ++ ": " ++ fault

/-- The text that an undefined variable is reported with. -/
def undefinedMessage (line : Nat) (name : String) : String :=
  "Undefined variable '" ++ name ++ "' on line " ++ decimal line

def Error.message : Error → String
  | unreadable path cause => "Failed to read script " ++ path ++ ": " ++ cause.message
  | malformed line fault => malformedMessage line fault.message
  | undefined line name => undefinedMessage line name

/-! ### Reading -/

/-- Reads a command line; all names in it must be defined. -/
def readLine (vars : Variables) (text : List Char) (number : Nat) : Except Error Line :=
  match pieces text with
  | .error fault => .error (.malformed number fault)
  | .ok ps =>
    let line : Line := { number, pieces := ps }
    match line.names.find? fun name => !vars.contains name with
    | some name => .error (.undefined number name)
    | none => .ok line

def read (text : String) (vars : Variables) : Except Error Script := do
  let lines ← (commandLines text.toList).mapM fun (l, n) => readLine vars l n
  pure { lines, vars }

def readFrom (disk : Disk) (path : String) (vars : Variables) : Except Error Script :=
  match disk.readText path with
  | .error cause => .error (.unreadable path cause)
  | .ok text => read text vars

/-! ### Variables -/

def get? (s : Script) (key : String) : Option (List String) := s.vars.get? key

def define (s : Script) (key : String) (values : List String) : Script :=
  { s with vars := s.vars.insert key values }

def bind (s : Script) (r : Variables.Reserved) : Script := { s with vars := s.vars.reserve r }

/-! ### Commands -/

/-- The commands of a line; all names in it must be defined. -/
def renderLine (vars : Variables) (l : Line) : Except Error (List String) :=
  match l.names.find? fun name => !vars.contains name with
  | some name => .error (.undefined l.number name)
  | none => .ok (l.render vars)

def commands (s : Script) : Except Error (List String) :=
  (s.lines.mapM (renderLine s.vars)).map List.flatten

end Script

end FleetScript
