import FleetScript.Runner
import FleetScript.Runner.Options
import FleetScript.Session.Sequence

/-!
Compiling: from a registered host, the loaded script and the options of a run to the plan of the
host's session.
-/

namespace FleetScript

/-- The run that a plan is made for: how many sequences run at once, its name, and the name of
the script it was started from. -/
structure RunContext where
  maxThreads : Nat
  name : String
  parent : Option String := none
  deriving DecidableEq

/-- The plan of a session: what a sequence holds, with the script itself. -/
structure Plan where
  name : String
  connect : ConnectSpec
  authentication : Option Authentication
  script : Script
  log : Option LogFiles
  deriving DecidableEq

/-- The sequence of a plan: its script gives the commands. -/
def Plan.sequence (p : Plan) : Sequence where
  name := p.name
  connect := p.connect
  authentication := p.authentication
  commands := p.script.commands.mapError (·.message)
  log := p.log

/-- What a host compiles to: a plan, or nothing because its protocol is not spoken. -/
inductive Compiled where
  | plan (p : Plan)
  | unsupported (protocol : String)
  deriving DecidableEq

/-- The warning for a host whose protocol is not spoken. -/
def unsupportedWarning (protocol raw : String) : String :=
  "Unsupported protocol " ++ protocol ++ " for " ++ raw

namespace Runner

/-- How to log in, given the address and the options: the address comes first. -/
def authentication (address : Host.Address) (o : Options) : Option Authentication :=
  let user := address.username.or o.user
  if o.noAuthentication then none
  else
    match o.sshKey with
    | some keyFile => some (.key user keyFile o.waits)
    | none => some (.password user (address.password.or o.password) o.waits)

/-- The path of the script of a run: the options come before the loaded script. -/
def scriptPath (loaded : Loaded) (o : Options) : Option String := o.filename.or loaded.filename

/-- The script of a run with variables: from the file or the text of the options, or else the
loaded one. -/
def scriptFor (loaded : Loaded) (o : Options) (disk : Disk) (vars : Variables) :
    Except Script.Error Script :=
  match o.filename, o.code with
  | some path, _ => Script.readFrom disk path vars
  | none, some code => Script.read code vars
  | none, none => Script.read loaded.code vars

def reserved (loaded : Loaded) (o : Options) (ctx : RunContext) : Variables.Reserved where
  filename := (scriptPath loaded o).getD ""
  runner := ctx.name
  parent := ctx.parent.getD ""

/-- The plan for an address, with the script of the run. -/
def planFor (r : Runner) (ctx : RunContext) (o : Options) (address : Host.Address)
    (protocol : Protocol) (script : Script) : Plan :=
  let host := qualify address.hostname r.domain
  { name := host
    connect := {
      protocol
      host
      port := address.port
      echo := ctx.maxThreads = 1 && !o.noEcho
      autoVerify := o.sshAutoVerify }
    authentication := authentication address o
    script
    log := r.logdir.map fun dir => LogFiles.inFolder dir host r.overwriteLogs }

/-- Compiles a registered host. A script that cannot be read comes before a protocol that is not
spoken. -/
def compile (r : Runner) (disk : Disk) (ctx : RunContext) (entry : Host.Entry) (o : Options) :
    Except RunnerError Compiled := do
  let some loaded := r.script | throw .notLoaded
  let address ← (Host.parse entry.raw (o.protocol.getD Host.defaultProtocol)).mapError .host
  let vars := (r.registry.scopes.merge address.hostname entry.queryVars r.domain).reserve
    (reserved loaded o ctx)
  let script ← (scriptFor loaded o disk vars).mapError .script
  match Protocol.ofScheme? address.protocol with
  | none => pure (.unsupported address.protocol)
  | some protocol =>
    pure (.plan (r.planFor ctx o address protocol (script.bind (reserved loaded o ctx))))

end Runner

end FleetScript
