import FleetScript.Session.Transport
import FleetScript.Text.Blank
import FleetScript.Text.Hex

/-!
Dry runs: a transport that only writes down what would have been sent.
-/

namespace FleetScript.DryRun

open Text

/-- The lines written down, and whether they are shown. -/
structure State where
  lines : List String := []
  echo : Bool := false
  deriving DecidableEq

/-! ### Lines -/

def connectLine (spec : ConnectSpec) : String :=
  "connect " ++ spec.protocol.scheme ++ "://" ++ spec.host ++
    (match spec.port with
      | some port => ":" ++ decimal port
      | none => "")

/-- The line for logging in, which never shows a password. -/
def authenticateLine (auth : Authentication) : String :=
  "authenticate " ++ auth.user?.getD "<none>" ++
    (match auth with
      | .password _ _ _ => " with password"
      | .key _ keyFile _ => " with key " ++ keyFile) ++
    (if auth.waits then "" else ", no prompt wait")

def lineOf : Call → String
  | .connect spec => connectLine spec
  | .authenticate auth => authenticateLine auth
  | .execute command => "> " ++ command
  | .close => "close"

/-! ### Answers -/

def transcript (lines : List String) : String := joinWith "\n" lines ++ "\n"

/-- Whether lines are shown from a call on: connecting decides it. -/
def echoAfter (s : State) : Call → Bool
  | .connect spec => spec.echo
  | _ => s.echo

def answer (call : Call) (s : State) : Reply State :=
  let lines := s.lines ++ [lineOf call]
  { result := .ok (if call = .close then transcript lines else "")
    notices := if echoAfter s call then [.printed (lineOf call ++ "\n")] else []
    state := { lines, echo := echoAfter s call } }

def transport : Transport State := { opened := {}, answer }

end FleetScript.DryRun
