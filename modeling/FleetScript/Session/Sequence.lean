import FleetScript.Path
import FleetScript.Protocol

/-!
Sequences: what is to be done on one host. A session connects, logs in unless that is left out,
sends the commands of the script, and closes.
-/

namespace FleetScript

/-! ### Connecting and logging in -/

/-- How to connect. With `echo` the output of the session is shown as it comes, and with
`autoVerify` unknown host keys are accepted. -/
structure ConnectSpec where
  protocol : Protocol
  host : String
  port : Option Nat := none
  echo : Bool := false
  autoVerify : Bool := false
  deriving DecidableEq

/-- How to log in: with a password, or with the key in a file. With `wait` the session waits for
a prompt afterwards. -/
inductive Authentication where
  | password (user password : Option String) (wait : Bool)
  | key (user : Option String) (keyFile : String) (wait : Bool)
  deriving DecidableEq

namespace Authentication

def user? : Authentication → Option String
  | password user _ _ => user
  | key user _ _ => user

/-- Whether the session waits for a prompt after logging in. -/
def waits : Authentication → Bool
  | password _ _ wait => wait
  | key _ _ wait => wait

end Authentication

/-! ### Log files -/

/-- The log files of a session. With `overwrite` they hold the last session only. -/
structure LogFiles where
  output : String
  errors : String
  overwrite : Bool
  deriving DecidableEq

/-- What a log file is for. -/
inductive LogKind where
  | output
  | errors
  deriving DecidableEq

def LogFiles.path (l : LogFiles) : LogKind → String
  | .output => l.output
  | .errors => l.errors

/-- The log files of a host in a folder: `<host>.log` and `<host>.log.error`. -/
def LogFiles.inFolder (folder host : String) (overwrite : Bool) : LogFiles where
  output := Path.join folder (host ++ ".log")
  errors := Path.join folder (host ++ ".log.error")
  overwrite := overwrite

/-! ### Sequences -/

/-- What is to be done on one host. The commands are those of the script, or the text of why it
has none. -/
structure Sequence where
  name : String
  connect : ConnectSpec
  authentication : Option Authentication
  commands : Except String (List String)
  log : Option LogFiles := none

/-- A part of a session. -/
inductive Action where
  | connect
  | authenticate
  | runScript
  | close
  deriving DecidableEq

def Action.name : Action → String
  | connect => "connect"
  | authenticate => "authenticate"
  | runScript => "run-script"
  | close => "close"

def Sequence.actions (authentication : Option Authentication) : List Action :=
  if authentication.isSome then [.connect, .authenticate, .runScript, .close]
  else [.connect, .runScript, .close]

end FleetScript
