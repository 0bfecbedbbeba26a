import FleetScript.Disk
import FleetScript.Host.Address

/-!
Why hosts cannot be registered.
-/

namespace FleetScript.Host

/-- What is wrong with the header of a table. -/
inductive HeaderFault where
  | notHostname
  | notTabs
  deriving DecidableEq

def HeaderFault.message : HeaderFault → String
  | notHostname => "File does not start with \"hostname\"."
  | notTabs => "Make sure to separate columns by tabs."

/-- Why hosts cannot be registered. -/
inductive Error where
  | fileNotFound (path : String)
  | unreadable (path : String) (cause : IoError)
  | header (fault : HeaderFault)
  | invalidHost (raw : String) (cause : AddressError)
  | unanswered (key reason : String)
  deriving DecidableEq

namespace Error

def message : Error → String
  | fileNotFound path => "No such file: " ++ path
  | unreadable path cause => "Failed to read " ++ path ++ ": " ++ cause.message
  | header fault => "Syntax error in CSV file header: " ++ fault.message
  | invalidHost raw cause => "Invalid host '" ++ raw ++ "': " ++ cause.message
  | unanswered key reason => "Failed to read a value for '" ++ key ++ "': " ++ reason

/-- The texts of a cause and of what caused it, outermost first. -/
def chain (e : Error) : List String :=
  match e with
  | unreadable _ cause => [e.message, cause.message]
  | _ => [e.message]

end Error

/-- The address that a text spells, with the text kept in the error. -/
def parse (raw protocol : String) : Except Error Address :=
  (Address.read raw protocol).mapError (.invalidHost raw)

end FleetScript.Host
