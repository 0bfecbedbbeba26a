import FleetScript.Bindings
import FleetScript.Json.Number

/-!
JSON values. The members of an object are kept in the order of their keys, each key once.
-/

namespace FleetScript

/-- A JSON value. -/
inductive Json where
  | null
  | bool (b : Bool)
  | number (n : Json.Number)
  | string (s : String)
  | array (items : List Json)
  | object (members : List (String × Json))

namespace Json

instance : Inhabited Json := ⟨null⟩

/-- The object with these members: in the order of the keys, and of two members with one key the
later. -/
def ofMembers (members : List (String × Json)) : Json :=
  object (Bindings.ofList members).pairs

def member? (key : String) : Json → Option Json
  | object members => members.lookup key
  | _ => none

end Json

end FleetScript
