import FleetScript.Json.Value
import FleetScript.Text.Blank
import FleetScript.Text.Quoted

/-!
Reading typed values and records out of JSON values. A record is an object with known keys, read
in the order of the keys, or an array with its values in the order of declaration; the first
fault is reported.
-/

namespace FleetScript.Json

open Text

/-! ### Faults -/

/-- Why a JSON value is not of the wanted type. -/
inductive DecodeError where
  | invalidType (found : Json) (expected : String)
  | invalidValue (found : Json) (expected : String)
  | unknownField (name : String) (known : List String)
  | missingField (name : String)
  | invalidLength (n : Nat) (expected : String)

/-- A value as it is named in a fault. -/
def describe : Json → String
  | .null => "null"
  | .bool b => "boolean `" ++ (if b then "true" else "false") ++ "`"
  | .number (.real x) => "floating point `" ++ x.text ++ "`"
  | .number n => "integer `" ++ n.text ++ "`"
  | .string s => "string " ++ quoted s
  | .array _ => "sequence"
  | .object _ => "map"

def DecodeError.message : DecodeError → String
  | invalidType found expected => "invalid type: " ++ found.describe ++ ", expected " ++ expected
  | invalidValue found expected => "invalid value: " ++ found.describe ++ ", expected " ++ expected
  | unknownField name known =>
    "unknown field `" ++ name ++ "`, expected one of " ++
      joinWith ", " (known.map fun k => "`" ++ k ++ "`")
  | missingField name => "missing field `" ++ name ++ "`"
  | invalidLength n expected => "invalid length " ++ decimal n ++ ", expected " ++ expected

/-! ### Single values -/

def asString (expected : String) : Json → Except DecodeError String
  | .string s => .ok s
  | v => .error (.invalidType v expected)

/-- A string, or nothing for null. -/
def asOptional (expected : String) : Json → Except DecodeError (Option String)
  | .null => .ok none
  | v => (asString expected v).map some

def asBool : Json → Except DecodeError Bool
  | .bool b => .ok b
  | v => .error (.invalidType v "a boolean")

/-- A natural number up to a bound. -/
def asNatural (bound : Nat) (expected : String) : Json → Except DecodeError Nat
  | .number (.natural n) =>
    if n ≤ bound then .ok n else .error (.invalidValue (.number (.natural n)) expected)
  | .number (.negative n) => .error (.invalidValue (.number (.negative n)) expected)
  | v => .error (.invalidType v expected)

/-- The members of an object whose values are all strings. -/
def asStrings : Json → Except DecodeError (Bindings String)
  | .object members => do
    let pairs ← members.mapM fun (k, v) => (asString "a string" v).map fun s => (k, s)
    pure (Bindings.ofList pairs)
  | v => .error (.invalidType v "a map")

/-! ### Records -/

/-- A field of a record: its key, and how its value is put into the record. -/
structure RecordField (α : Type) where
  key : String
  put : Json → α → Except DecodeError α

/-- A field of a record with the place of its value. -/
structure Slot (α : Type) where
  Value : Type
  key : String
  read : Json → Except DecodeError Value
  get : α → Value
  set : Value → α → α
  get_set : ∀ x a, get (set x a) = x := by intros; rfl

/-- The field that puts what is read into its place. -/
def Slot.field {α : Type} (f : Slot α) : RecordField α :=
  ⟨f.key, fun v a => (f.read v).map fun x => f.set x a⟩

def putMembers {α : Type} (fields : List (RecordField α)) :
    List (String × Json) → α → Except DecodeError α
  | [], a => .ok a
  | (k, v) :: rest, a =>
    match fields.find? (·.key = k) with
    | none => .error (.unknownField k (fields.map (·.key)))
    | some f => do
      let a ← f.put v a
      putMembers fields rest a

/-- The record after the items of an array, and the items that are left. -/
def putItems {α : Type} :
    List (RecordField α) → List Json → α → Except DecodeError (α × List Json)
  | [], items, a => .ok (a, items)
  | _, [], a => .ok (a, [])
  | f :: fields, v :: items, a => do
    let a ← f.put v a
    putItems fields items a

/-- Reads a record: `required` fields come first in the declaration and must be given. -/
def asRecord {α : Type} (name : String) (fields : List (RecordField α)) (required : List String)
    (a : α) : Json → Except DecodeError α
  | .object members => do
    let a ← putMembers fields members a
    match required.find? (fun k => !(members.map (·.1)).contains k) with
    | some k => .error (.missingField k)
    | none => .ok a
  | .array items => do
    let (a, left) ← putItems fields items a
    if items.length < required.length then
      .error (.invalidLength items.length
        (name ++ " with " ++ decimal fields.length ++ " elements"))
    else if left.isEmpty then .ok a
    else .error (.invalidLength items.length "fewer elements in array")
  | v => .error (.invalidType v name)

end FleetScript.Json
