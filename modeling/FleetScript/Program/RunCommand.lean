import FleetScript.Arguments
import FleetScript.Runner.Overview
import FleetScript.Session.Client
import FleetScript.Session.DryRun

/-!
Carrying out a request to run a script. What the request says takes precedence over the settings.
The hosts are registered and the script is loaded before anything is sent, and a fault in either
ends the run; then the sessions run, and the run fails if one of them or a host's script failed.
-/

namespace FleetScript.RunRequest

open Text

/-! ### Faults -/

/-- Why a run fails. -/
inductive Failure where
  | unsupportedProtocol (name : String)
  | hosts (cause : Host.Error)
  | hostsFrom (path : String) (cause : Host.Error)
  | noHosts
  | script (path : String) (cause : RunnerError)
  | stopped (cause : RunnerError)
  | hostsFailed (failed total : Nat)
  deriving DecidableEq

namespace Failure

/-- The texts of a fault and of what caused it, outermost first. -/
def chain : Failure → List String
  | unsupportedProtocol name => [Protocol.unsupported name]
  | hosts cause => "Failed to add hosts" :: cause.chain
  | hostsFrom path cause => ("Failed to read hosts from " ++ path) :: cause.chain
  | noHosts => ["No hosts given. Pass hosts as arguments, --hosts-file or --csv."]
  | script path cause => ("Failed to load script " ++ path) :: cause.chain
  | stopped cause => "Dispatch stopped" :: cause.chain
  | hostsFailed failed total => [decimal failed ++ " of " ++ decimal total ++ " hosts failed"]

def message (f : Failure) : String := joinWith ": " f.chain

def isUnanswered : Failure → Bool
  | hosts (.unanswered _ _) => true
  | hostsFrom _ (.unanswered _ _) => true
  | _ => false

end Failure

/-! ### What takes precedence -/

def settings (r : RunRequest) (s : Settings) : Settings :=
  { s with
    domain := r.domain.getD s.domain
    logdir := r.logdir.or s.logdir
    overwriteLogs := r.overwriteLogs || s.overwriteLogs
    maxThreads := match r.connections with
      | some n => max n 1
      | none => s.maxThreads }

/-- The protocol of hosts that are given without one. -/
def protocol (r : RunRequest) (s : Settings) : String := r.options.protocol.getD s.protocol

def sessionOptions (r : RunRequest) (s : Settings) : Options :=
  { r.options with protocol := some (r.protocol s) }

/-! ### Before anything is sent -/

/-- Placeholders are not filled in where there is no terminal to ask on. -/
def noTerminal : Host.Resolver Unit := fun q u =>
  (.error (.unanswered q.key "IO error: not a terminal"), u)

/-- What hosts are put into, unless that fails. -/
def taken (fault : Host.Error → Failure) :
    Except Host.Error Unit × Host.Intake Unit → Except Failure (Host.Intake Unit)
  | (.ok (), i) => .ok i
  | (.error cause, _) => .error (fault cause)

/-- The runner of a run with all its hosts: those of the request, then those of the lists, then
those of the tables. -/
def withHosts (r : RunRequest) (s : Settings) (disk : Disk) : Except Failure Runner := do
  let runner := (Runner.new (r.settings s)).define r.defines
  let i : Host.Intake Unit := { registry := runner.registry, asker := () }
  let i ← taken .hosts (i.addHosts noTerminal r.hosts)
  let i ← r.hostFiles.foldlM
    (fun i path => taken (.hostsFrom path) (i.addFile noTerminal disk path)) i
  let i ← r.tables.foldlM
    (fun i path => taken (.hostsFrom path) (i.addTable noTerminal disk path)) i
  if i.registry.entries.isEmpty then throw .noHosts
  pure { runner with registry := i.registry }

def prepare (r : RunRequest) (s : Settings) (disk : Disk) : Except Failure Runner := do
  if (Protocol.ofName? (r.protocol s)).isNone then throw (.unsupportedProtocol (r.protocol s))
  let runner ← r.withHosts s disk
  (runner.loadFile disk r.script).mapError (.script r.script)

/-! ### Sessions -/

/-- What came of the sessions of a run: what the user was told, the reports, what became of the
hosts, the disk, and the clients that ran. -/
structure Sent where
  notices : List Notice
  reports : List Session.Report
  result : Except RunnerError Summary
  disk : Disk
  clients : List Client.Invocation

def sentBy {σ : Type} (clients : σ → List Client.Invocation) (d : Dispatch σ) : Sent where
  notices := d.notices
  reports := d.reports
  result := d.result
  disk := d.disk
  clients := d.sessions.flatMap clients

def send (r : RunRequest) (s : Settings) (runner : Runner) (programs : Client.Programs)
    (disk : Disk) : Sent :=
  let options := r.sessionOptions s
  let threads := (r.settings s).maxThreads
  if r.dryRun then
    sentBy (fun _ => [])
      (Dispatch.complete runner options programName DryRun.transport threads disk)
  else
    sentBy (·.finished)
      (Dispatch.complete runner options programName (Client.transport programs) threads disk)

/-! ### Output -/

def announcement (r : RunRequest) (s : Settings) (total : Nat) : String :=
  "[info] Running " ++ r.script ++ " on " ++ decimal total ++ " host" ++
    (if total = 1 then "" else "s") ++ " (" ++ decimal (r.settings s).maxThreads ++
    " at a time)\n"

/-- The lines about hosts that had no session. -/
def remarks (s : Summary) : String :=
  String.join (s.failed.map fun (host, cause) => "failed " ++ host ++ ": " ++ cause ++ "\n") ++
    String.join (s.skipped.map fun host =>
      "skipped " ++ host ++ ": " ++ Overview.unsupported ++ "\n")

def echoed (notices : List Notice) : String :=
  String.join <| notices.map fun
    | .printed text => text
    | .warned _ => ""

/-- The line that counts the hosts that succeeded, up to where the time taken follows. -/
def tally (succeeded total : Nat) : String :=
  decimal succeeded ++ " of " ++ decimal total ++ " hosts succeeded"

/-- Whether a run succeeds, once its sessions have run. -/
def verdict (total : Nat) (sent : Sent) : Except Failure Unit :=
  match sent.result with
  | .error cause => .error (.stopped cause)
  | .ok summary =>
    let failed := Overview.failed sent.reports summary
    if 0 < failed then .error (.hostsFailed failed total) else .ok ()

end FleetScript.RunRequest
