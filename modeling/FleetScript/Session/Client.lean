import FleetScript.Disk
import FleetScript.Session.Transport
import FleetScript.Text.Hex

/-!
Sessions over the client programs of the system, `ssh` and `telnet`. The client is started with
the first call that needs it; it reads commands from its standard input, and its output is taken
when that input is closed.
-/

namespace FleetScript.Client

open Text

/-! ### Client programs -/

/-- What a client program leaves behind. -/
structure Output where
  stdout : Bytes := []
  stderr : Bytes := []
  exit : Nat := 0
  deriving DecidableEq

/-- How a client behaves once it runs: why it does not take a line of input, if it does not, and
what comes of waiting for its end. Both are told how many clients the session had before, the
arguments, and the input so far. -/
structure Behaviour where
  refuses : Nat → List String → Bytes → String → Option IoError
  ends : Nat → List String → Bytes → Except IoError Output

/-- A client program in the search path: it is missing, or may not be executed, or reads its
input to the end and leaves an output, or behaves in some other way. -/
inductive Program where
  | missing
  | notExecutable
  | installed (run : List String → Bytes → Output)
  | behaving (b : Behaviour)

def Program.behaviour? : Program → Option Behaviour
  | missing => none
  | notExecutable => none
  | installed run =>
    some { refuses := fun _ _ _ _ => none, ends := fun _ args stdin => .ok (run args stdin) }
  | behaving b => some b

abbrev Programs := String → Program

/-- A client that has been started: its name, its arguments, and its input so far. -/
structure Invocation where
  client : String
  args : List String
  stdin : Bytes
  deriving DecidableEq

/-! ### Starting a client -/

def arguments (spec : ConnectSpec) (auth : Option Authentication) : List String :=
  match spec.protocol with
  | .telnet => spec.host :: (spec.port.map decimal).toList
  | .ssh version =>
    ["-o", "BatchMode=yes", "-o", "ConnectTimeout=10"] ++
      (if spec.autoVerify then ["-o", "StrictHostKeyChecking=accept-new"] else []) ++
      (match version with
        | some .v1 => ["-1"]
        | some .v2 => ["-2"]
        | none => []) ++
      (match spec.port with
        | some port => ["-p", decimal port]
        | none => []) ++
      (match auth with
        | some (.key _ keyFile _) => ["-i", keyFile]
        | _ => []) ++
      (match auth.bind (·.user?) with
        | some user => ["-l", user]
        | none => []) ++
      [spec.host]

/-- The lines that log in: only telnet takes a user and a password on its input. -/
def loginLines (spec : ConnectSpec) (auth : Option Authentication) : List String :=
  match spec.protocol, auth with
  | .telnet, some (.password user password _) => user.toList ++ password.toList
  | _, _ => []

def inputLine (line : String) : Bytes := toBytes line ++ [0x0A]

/-- The process of a client without any input, or why it cannot be started. -/
def start (programs : Programs) (spec : ConnectSpec) (auth : Option Authentication) :
    Except TransportError Invocation :=
  let client := spec.protocol.client
  let args := arguments spec auth
  if args.any (·.toList.contains '\x00') then
    .error (.spawn client IoError.nulInArgument.message)
  else
    match programs client with
    | .missing => .error (.spawn client (client ++ " not found in PATH"))
    | .notExecutable => .error (.spawn client IoError.permissionDenied.message)
    | .installed _ | .behaving _ => .ok { client, args, stdin := [] }

/-- Writes a line to a client; `round` is the number of clients that the session had before. -/
def writeLine (programs : Programs) (host : String) (round : Nat) (p : Invocation)
    (line : String) : Except TransportError Invocation :=
  match (programs p.client).behaviour?.bind fun b => b.refuses round p.args p.stdin line with
  | some cause => .error (.connectionFailed host cause.message)
  | none => .ok { p with stdin := p.stdin ++ inputLine line }

/-- Writes lines to a client up to the first that it does not take. -/
def writeLines (programs : Programs) (host : String) (round : Nat) (p : Invocation) :
    List String → Option TransportError × Invocation
  | [] => (none, p)
  | line :: rest =>
    match writeLine programs host round p line with
    | .error e => (some e, p)
    | .ok p => writeLines programs host round p rest

/-! ### Answers -/

/-- The state of a session: the connection and login asked for, the client while it runs, and the
clients that have come to their end. -/
structure State where
  spec : Option ConnectSpec := none
  auth : Option Authentication := none
  current : Option Invocation := none
  finished : List Invocation := []
  deriving DecidableEq

/-- The warning that ssh takes no password. -/
def passwordWarning (host : String) : String :=
  "ssh client cannot take a password non-interactively; " ++ host ++
    " must accept agent or key authentication"

def loginWarnings (spec : Option ConnectSpec) (auth : Authentication) : List Notice :=
  match spec, auth with
  | some { protocol := .ssh _, host, .. }, .password _ (some _) _ =>
    [.warned (passwordWarning host)]
  | _, _ => []

/-- Starts a client and logs in, unless one runs already. A client that does not take a line of
the login goes on running. -/
def ensureStarted (programs : Programs) (s : State) : Option TransportError × State :=
  match s.current, s.spec with
  | some _, _ => (none, s)
  | none, none => (some .notConnected, s)
  | none, some spec =>
    match start programs spec s.auth with
    | .error e => (some e, s)
    | .ok p =>
      let (e, p) := writeLines programs spec.host s.finished.length p (loginLines spec s.auth)
      (e, { s with current := some p })

def send (programs : Programs) (command : String) (s : State) :
    Except TransportError String × State :=
  match s.spec, s.current with
  | some spec, some p =>
    match writeLine programs spec.host s.finished.length p command with
    | .error e => (.error e, s)
    | .ok p => (.ok "", { s with current := some p })
  | _, _ => (.error .notConnected, s)

/-- What waiting for the end of a client comes to. -/
def endOf (programs : Programs) (round : Nat) (p : Invocation) : Except IoError Output :=
  match (programs p.client).behaviour? with
  | some b => b.ends round p.args p.stdin
  | none => .ok {}

def verdict (host : String) (o : Output) : Except TransportError String :=
  if o.exit = 0 then .ok (decodeLossy o.stdout)
  else
    let errors := decodeLossy o.stderr
    if contains errors "Permission denied" || contains errors "Login incorrect" then
      .error (.authFailed host)
    else .error (.connectionFailed host (trim errors))

/-- Ends the input of the client that runs, and waits for its end. -/
def finish (programs : Programs) (s : State) : Reply State :=
  match s.spec, s.current with
  | some spec, some p =>
    let ended := { s with current := none, finished := s.finished ++ [p] }
    match endOf programs s.finished.length p with
    | .error cause =>
      { result := .error (.connectionFailed spec.host cause.message), state := ended }
    | .ok o =>
      { result := verdict spec.host o
        notices := if spec.echo then [.printed (decodeLossy o.stdout)] else []
        state := ended }
  | _, _ => { result := .error .notConnected, state := s }

def answer (programs : Programs) (call : Call) (s : State) : Reply State :=
  match call with
  | .connect spec => { result := .ok "", state := { s with spec := some spec } }
  | .authenticate auth =>
    { result := .ok ""
      notices := loginWarnings s.spec auth
      state := { s with auth := some auth } }
  | .execute command =>
    match ensureStarted programs s with
    | (some e, s) => { result := .error e, state := s }
    | (none, s) =>
      let (result, s) := send programs command s
      { result, state := s }
  | .close =>
    match ensureStarted programs s with
    | (some e, s) => { result := .error e, state := s }
    | (none, s) => finish programs s

def transport (programs : Programs) : Transport State where
  opened := {}
  answer := answer programs

end FleetScript.Client
