import FleetScript.Session.Sequence

/-!
Transports: what carries a session to a host. A transport answers calls, and how it answers may
depend on all calls before.
-/

namespace FleetScript

/-! ### Calls -/

/-- A call on a transport. -/
inductive Call where
  | connect (spec : ConnectSpec)
  | authenticate (auth : Authentication)
  | execute (command : String)
  | close
  deriving DecidableEq

/-- Why a call failed. -/
inductive TransportError where
  | spawn (client reason : String)
  | connectionFailed (host reason : String)
  | authFailed (host : String)
  | notConnected
  deriving DecidableEq

def TransportError.message : TransportError → String
  | spawn client reason => "Failed to spawn " ++ client ++ ": " ++ reason
  | connectionFailed host reason => "Connection to " ++ host ++ " failed: " ++ reason
  | authFailed host => "Authentication failed for " ++ host
  | notConnected => "Not connected"

/-- What the user is told while something runs: text on the terminal, or a warning. -/
inductive Notice where
  | printed (text : String)
  | warned (text : String)
  deriving DecidableEq

/-- The answer to a call: a text, which only closing gives, or an error; what the user is told;
and the state of the transport after it. -/
structure Reply (σ : Type) where
  result : Except TransportError String
  notices : List Notice := []
  state : σ

/-- A transport with states in `σ`: the state in which one is opened, and its answers. -/
structure Transport (σ : Type) where
  opened : σ
  answer : Call → σ → Reply σ

/-- A call with its answer. -/
structure Exchange (σ : Type) where
  call : Call
  reply : Reply σ

namespace Transport

variable {σ : Type}

/-- A call on a transport in state `s`, with its answer. -/
def exchange (t : Transport σ) (s : σ) (call : Call) : Exchange σ :=
  { call, reply := t.answer call s }

end Transport

end FleetScript
