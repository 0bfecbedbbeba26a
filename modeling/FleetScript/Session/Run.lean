import FleetScript.Disk
import FleetScript.Session.Transport

/-!
Running a sequence. Its steps are taken in their order up to the first failure; a session whose
transport is still open is then closed once more, so that its output is not lost. Output and
error go to the log files, and what came of the session is reported.
-/

namespace FleetScript.Session

open Text

/-! ### Reports -/

/-- What came of a sequence: the host, the number of commands sent, and the text of the failure
if there was one. -/
structure Report where
  host : String
  commands : Nat
  error : Option String
  deriving DecidableEq

def Report.isSuccess (r : Report) : Bool := r.error.isNone

/-- Why a session failed: a call on its transport, or its script, which has no commands. -/
inductive Failure where
  | transport (cause : TransportError)
  | script (message : String)
  deriving DecidableEq

def Failure.message : Failure → String
  | transport cause => cause.message
  | script message => "Script failed: " ++ message

/-! ### Steps -/

/-- A step of a session: an action with what it needs. -/
inductive Step where
  | connect (spec : ConnectSpec)
  | authenticate (auth : Authentication)
  | runScript (commands : Except String (List String))
  | close

def Step.action : Step → Action
  | connect _ => .connect
  | authenticate _ => .authenticate
  | runScript _ => .runScript
  | close => .close

def steps (q : Sequence) : List Step :=
  .connect q.connect :: (q.authentication.map .authenticate).toList ++
    [.runScript q.commands, .close]

theorem map_action_steps (q : Sequence) :
    (steps q).map Step.action = Sequence.actions q.authentication := by
  unfold steps Sequence.actions
  cases q.authentication <;> rfl

/-- What a session does with transports: it opens one, or makes a call on the one it opened. -/
inductive Deed (σ : Type) where
  | opened
  | made (x : Exchange σ)

/-- A session while it runs: the state of its transport while one is open, the number of commands
sent, the output so far, what was done with transports, and what the user was told. -/
structure Progress (σ : Type) where
  transport : Option σ := none
  commands : Nat := 0
  output : String := ""
  deeds : List (Deed σ) := []
  notices : List Notice := []

section Steps

variable {σ : Type} (t : Transport σ)

def Progress.noted (p : Progress σ) (x : Exchange σ) : Progress σ :=
  { p with deeds := p.deeds ++ [.made x], notices := p.notices ++ x.reply.notices }

def Progress.call (p : Progress σ) (c : Call) : Except TransportError String × Progress σ :=
  match p.transport with
  | none => (.error .notConnected, p)
  | some s =>
    let x := t.exchange s c
    (x.reply.result, { p.noted x with transport := some x.reply.state })

/-- Opens a transport and connects it. It is kept only if it connects. -/
def Progress.connect (p : Progress σ) (spec : ConnectSpec) : Option Failure × Progress σ :=
  let x := t.exchange t.opened (.connect spec)
  let p := ({ p with deeds := p.deeds ++ [.opened] } : Progress σ).noted x
  match x.reply.result with
  | .error e => (some (.transport e), p)
  | .ok _ => (none, { p with transport := some x.reply.state })

/-- Sends commands, and counts those that were sent. -/
def Progress.send (p : Progress σ) : List String → Option Failure × Progress σ
  | [] => (none, p)
  | c :: rest =>
    match p.call t (.execute c) with
    | (.error e, p) => (some (.transport e), p)
    | (.ok _, p) => ({ p with commands := p.commands + 1 } : Progress σ).send rest

/-- Takes a step, and gives its failure if it fails. -/
def Progress.take (p : Progress σ) : Step → Option Failure × Progress σ
  | .connect spec => p.connect t spec
  | .authenticate auth =>
    match p.call t (.authenticate auth) with
    | (.error e, p) => (some (.transport e), p)
    | (.ok _, p) => (none, p)
  | .runScript (.error message) => (some (.script message), p)
  | .runScript (.ok commands) => p.send t commands
  | .close =>
    match p.call t .close with
    | (.error e, p) => (some (.transport e), p)
    | (.ok text, p) => (none, { p with output := p.output ++ text, transport := none })

/-- Takes steps up to the first failure, and gives it if there is one. -/
def perform : List Step → Progress σ → Option Failure × Progress σ
  | [], p => (none, p)
  | step :: rest, p =>
    match p.take t step with
    | (some f, p) => (some f, p)
    | (none, p) => perform rest p

/-- Closes a transport that is still open, and keeps its output. -/
def salvage (p : Progress σ) : Progress σ :=
  match p.transport with
  | none => p
  | some _ =>
    match p.call t .close with
    | (.error _, p) => { p with transport := none }
    | (.ok text, p) => { p with output := p.output ++ text, transport := none }

end Steps

/-! ### Log files -/

/-- Writes to a log file; a failure only warns. -/
def writeLog (path : String) (overwrite : Bool) (text : String) (disk : Disk) :
    Disk × List Notice :=
  match disk.write path (if overwrite then .replace else .append) (toBytes text) with
  | .ok disk => (disk, [])
  | .error cause => (disk, [.warned ("Failed to write log " ++ path ++ ": " ++ cause.message)])

def writeLogs (l : LogFiles) : List (LogKind × String) → Disk → Disk × List Notice
  | [], disk => (disk, [])
  | (kind, text) :: rest, disk =>
    let (disk, first) := writeLog (l.path kind) l.overwrite text disk
    let (disk, others) := writeLogs l rest disk
    (disk, first ++ others)

/-- What a session logs: the output of one that succeeded, and of one that failed its error, and
its output if there is any. -/
def logTexts (output : String) : Option String → List (LogKind × String)
  | none => [(.output, output)]
  | some message =>
    (if output.isEmpty then [] else [(.output, output)]) ++ [(.errors, message ++ "\n")]

/-! ### Whole sequences -/

/-- What came of a sequence, what was done with transports, the state in which the last one was
left, what the user was told, and the disk after it. -/
structure Outcome (σ : Type) where
  report : Report
  deeds : List (Deed σ)
  state : σ
  notices : List Notice
  disk : Disk

def Deed.state? {σ : Type} : Deed σ → Option σ
  | opened => none
  | made x => some x.reply.state

def run {σ : Type} (t : Transport σ) (q : Sequence) (disk : Disk) : Outcome σ :=
  let (failure, p) := perform t (steps q) {}
  let p := if failure.isSome then salvage t p else p
  let error := failure.map (·.message)
  let (disk, logNotices) := match q.log with
    | none => (disk, [])
    | some l => writeLogs l (logTexts p.output error) disk
  { report := { host := q.name, commands := p.commands, error }
    deeds := p.deeds
    state := (p.deeds.filterMap Deed.state?).getLast?.getD t.opened
    notices := p.notices ++ logNotices ++
      (error.map fun m => Notice.warned (q.name ++ ": " ++ m)).toList
    disk }

end FleetScript.Session
