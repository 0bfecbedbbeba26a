import FleetScript.Json.Decode

/-!
The options of a run: what shapes the session of every host.
-/

namespace FleetScript

open Json

/-- The options of a run. -/
structure Options where
  user : Option String := none
  password : Option String := none
  protocol : Option String := none
  noEcho : Bool := false
  sshKey : Option String := none
  sshAutoVerify : Bool := false
  noInitialPrompt : Bool := false
  noPrompt : Bool := false
  noAuthentication : Bool := false
  filename : Option String := none
  code : Option String := none
  deriving DecidableEq

namespace Options

/-- Whether a session waits for a prompt after logging in. -/
def waits (o : Options) : Bool := !o.noInitialPrompt && !o.noPrompt

/-- The fields of options in the order of declaration. -/
def fields : List (RecordField Options) :=
  [ ⟨"user", fun v o => (asOptional "a string" v).map fun x => { o with user := x }⟩,
    ⟨"password", fun v o => (asOptional "a string" v).map fun x => { o with password := x }⟩,
    ⟨"protocol", fun v o => (asOptional "a string" v).map fun x => { o with protocol := x }⟩,
    ⟨"no-echo", fun v o => (asBool v).map fun x => { o with noEcho := x }⟩,
    ⟨"ssh-key", fun v o => (asOptional "path string" v).map fun x => { o with sshKey := x }⟩,
    ⟨"ssh-auto-verify", fun v o => (asBool v).map fun x => { o with sshAutoVerify := x }⟩,
    ⟨"no-initial-prompt", fun v o => (asBool v).map fun x => { o with noInitialPrompt := x }⟩,
    ⟨"no-prompt", fun v o => (asBool v).map fun x => { o with noPrompt := x }⟩,
    ⟨"no-authentication", fun v o => (asBool v).map fun x => { o with noAuthentication := x }⟩,
    ⟨"filename", fun v o => (asOptional "path string" v).map fun x => { o with filename := x }⟩,
    ⟨"code", fun v o => (asOptional "a string" v).map fun x => { o with code := x }⟩ ]

def ofJson (v : Json) : Except DecodeError Options := asRecord "struct RunOptions" fields [] {} v

end Options

end FleetScript
