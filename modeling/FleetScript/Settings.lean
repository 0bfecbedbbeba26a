import FleetScript.Json.Decode
import FleetScript.Protocol

/-!
The settings that a user keeps in a file: their fields, defaults and limits, and their form as
JSON.
-/

namespace FleetScript

open Json

/-- The settings. -/
structure Settings where
  version : Nat := 1
  domain : String := ""
  logdir : Option String := none
  overwriteLogs : Bool := false
  maxThreads : Nat := 1
  protocol : String := "telnet"
  defines : Bindings String := ∅
  deriving DecidableEq

namespace Settings

/-! ### Limits -/

/-- A value that settings may not have. -/
inductive Limit where
  | noThreads
  | unsupportedProtocol (name : String)
  deriving DecidableEq

def Limit.message : Limit → String
  | noThreads => "max_threads must be at least 1"
  | unsupportedProtocol name => Protocol.unsupported name

def validate (s : Settings) : Except Limit Unit :=
  if s.maxThreads = 0 then .error .noThreads
  else
    match Protocol.ofName? s.protocol with
    | none => .error (.unsupportedProtocol s.protocol)
    | some _ => .ok ()

/-! ### Form as JSON -/

/-- The fields of settings in the order of declaration. -/
def slots : List (Slot Settings) :=
  [ { Value := Nat, key := "version", read := asNatural 0xFFFFFFFF "u32"
      get := version, set := fun x s => { s with version := x } },
    { Value := String, key := "domain", read := asString "a string"
      get := domain, set := fun x s => { s with domain := x } },
    { Value := Option String, key := "logdir", read := asOptional "path string"
      get := logdir, set := fun x s => { s with logdir := x } },
    { Value := Bool, key := "overwrite_logs", read := asBool
      get := overwriteLogs, set := fun x s => { s with overwriteLogs := x } },
    { Value := Nat, key := "max_threads", read := asNatural Number.maxNatural "usize"
      get := maxThreads, set := fun x s => { s with maxThreads := x } },
    { Value := String, key := "protocol", read := asString "a string"
      get := protocol, set := fun x s => { s with protocol := x } },
    { Value := Bindings String, key := "defines", read := asStrings
      get := defines, set := fun x s => { s with defines := x } } ]

def fields : List (RecordField Settings) := slots.map Slot.field

/-- Reads settings; all fields but the version may be left out. -/
def ofJson (v : Json) : Except DecodeError Settings :=
  asRecord "struct Config" fields ["version"] {} v

/-- The JSON form of settings, with the fields in the order of declaration. -/
def toJson (s : Settings) : Json :=
  .object
    [ ("version", .number (.natural s.version)),
      ("domain", .string s.domain),
      ("logdir", match s.logdir with
        | some dir => .string dir
        | none => .null),
      ("overwrite_logs", .bool s.overwriteLogs),
      ("max_threads", .number (.natural s.maxThreads)),
      ("protocol", .string s.protocol),
      ("defines", .object (s.defines.pairs.map fun (k, v) => (k, .string v))) ]

end Settings

end FleetScript
