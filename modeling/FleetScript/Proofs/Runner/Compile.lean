import FleetScript.Proofs.Scopes.Lookup
import FleetScript.Proofs.Script.Grammar
import FleetScript.Runner.Compile

/-!
The ways in which compiling a host can end. A plan holds the script as it was read, with the
variables that its names were checked against: the reserved variables have their values in it
before the script is read, and setting them once more changes nothing.
-/

namespace FleetScript.Runner

variable (r : Runner) (disk : Disk) (ctx : RunContext) (entry : Host.Entry) (o : Options)

/-- The address of a registered host, read with the protocol of the options. -/
def addressOf (entry : Host.Entry) (o : Options) : Except Host.Error Host.Address :=
  Host.parse entry.raw (o.protocol.getD Host.defaultProtocol)

/-- The variables that the script of a run is read with. -/
def variablesOf (loaded : Loaded) (address : Host.Address) : Variables :=
  (r.registry.scopes.merge address.hostname entry.queryVars r.domain).reserve
    (reserved loaded o ctx)

/-- The ways in which compiling a host can end. -/
inductive Compiles : Except RunnerError Compiled → Prop where
  | notLoaded (hl : r.script = none) : Compiles (.error .notLoaded)
  | host {loaded : Loaded} {e : Host.Error} (hl : r.script = some loaded)
    (ha : addressOf entry o = .error e) : Compiles (.error (.host e))
  | script {loaded : Loaded} {address : Host.Address} {e : Script.Error}
    (hl : r.script = some loaded) (ha : addressOf entry o = .ok address)
    (hs : scriptFor loaded o disk (r.variablesOf ctx entry o loaded address) = .error e) :
    Compiles (.error (.script e))
  | unsupported {loaded : Loaded} {address : Host.Address} {script : Script}
    (hl : r.script = some loaded) (ha : addressOf entry o = .ok address)
    (hs : scriptFor loaded o disk (r.variablesOf ctx entry o loaded address) = .ok script)
    (hp : Protocol.ofScheme? address.protocol = none) :
    Compiles (.ok (.unsupported address.protocol))
  | plan {loaded : Loaded} {address : Host.Address} {script : Script} {protocol : Protocol}
    (hl : r.script = some loaded) (ha : addressOf entry o = .ok address)
    (hs : scriptFor loaded o disk (r.variablesOf ctx entry o loaded address) = .ok script)
    (hp : Protocol.ofScheme? address.protocol = some protocol) :
    Compiles (.ok (.plan (r.planFor ctx o address protocol script)))

lemma exists_read_of_scriptFor {loaded : Loaded} {o : Options} {disk : Disk} {vars : Variables}
    {s : Script} (h : scriptFor loaded o disk vars = .ok s) :
    ∃ text, Script.read text vars = .ok s := by
  unfold scriptFor Script.readFrom at h
  split at h
  · split at h
    · cases h
    · exact ⟨_, h⟩
  · exact ⟨_, h⟩
  · exact ⟨_, h⟩

lemma vars_of_scriptFor {loaded : Loaded} {o : Options} {disk : Disk} {vars : Variables}
    {s : Script} (h : scriptFor loaded o disk vars = .ok s) : s.vars = vars := by
  obtain ⟨text, ht⟩ := exists_read_of_scriptFor h
  exact (Script.read_eq_ok_iff.mp ht).1

/-- Setting the reserved variables again leaves a script as it was read. -/
lemma bind_of_scriptFor {loaded : Loaded} {o : Options} {disk : Disk} {vars : Variables}
    {res : Variables.Reserved} {s : Script}
    (h : scriptFor loaded o disk (vars.reserve res) = .ok s) : s.bind res = s := by
  have hvars : s.vars.reserve res = s.vars := by
    rw [vars_of_scriptFor h, Variables.reserve_reserve]
  unfold Script.bind
  rw [hvars]

lemma compile_of_none (hl : r.script = none) : r.compile disk ctx entry o = .error .notLoaded := by
  unfold compile
  rw [hl]
  rfl

/-- Compiling reads the address, then the script, and then looks at the protocol. -/
theorem compile_of_some {loaded : Loaded} (hl : r.script = some loaded) :
    r.compile disk ctx entry o =
      match addressOf entry o with
      | .error e => .error (.host e)
      | .ok address =>
        match scriptFor loaded o disk (r.variablesOf ctx entry o loaded address) with
        | .error e => .error (.script e)
        | .ok script =>
          match Protocol.ofScheme? address.protocol with
          | none => .ok (.unsupported address.protocol)
          | some protocol => .ok (.plan (r.planFor ctx o address protocol script)) := by
  unfold compile addressOf
  rw [hl]
  cases Host.parse entry.raw (o.protocol.getD Host.defaultProtocol) with
  | error e => rfl
  | ok address =>
    change (scriptFor loaded o disk (r.variablesOf ctx entry o loaded address)).mapError _ >>= _ = _
    cases hs : scriptFor loaded o disk (r.variablesOf ctx entry o loaded address) with
    | error e =>
      simp only [hs]
      rfl
    | ok script =>
      simp only [hs, Except.mapError, bind, Except.bind, bind_of_scriptFor hs]
      rfl

theorem compiles : Compiles r disk ctx entry o (r.compile disk ctx entry o) := by
  cases hl : r.script with
  | none =>
    rw [compile_of_none _ _ _ _ _ hl]
    exact .notLoaded hl
  | some loaded =>
    rw [compile_of_some _ _ _ _ _ hl]
    cases ha : addressOf entry o with
    | error e => exact .host hl ha
    | ok address =>
      simp only []
      cases hs : scriptFor loaded o disk (r.variablesOf ctx entry o loaded address) with
      | error e => exact .script hl ha hs
      | ok script =>
        simp only []
        cases hp : Protocol.ofScheme? address.protocol with
        | none => exact .unsupported hl ha hs hp
        | some protocol => exact .plan hl ha hs hp

/-! ### Given hosts and a given text

What stands here makes the hosts, the text and the run of single plans short to write. -/

/-- A run with one thread. -/
def oneThread : RunContext := { maxThreads := 1, name := "tool" }

/-- A runner with these hosts, for which a text was loaded. -/
def ofHosts (entries : List Host.Entry) (code : String) : Runner :=
  { registry := { entries }, script := some { code, filename := none } }

variable {r disk ctx entry o} {p : Plan}

/-- The plan that a host compiles to, if it does. -/
def plan? (r : Runner) (disk : Disk) (ctx : RunContext) (entry : Host.Entry) (o : Options) :
    Option Plan :=
  match r.compile disk ctx entry o with
  | .ok (.plan p) => some p
  | _ => none

lemma compile_of_plan? (h : r.plan? disk ctx entry o = some p) :
    r.compile disk ctx entry o = .ok (.plan p) := by
  unfold plan? at h
  split at h
  · next hp => rw [hp, Option.some.inj h]
  · cases h

end FleetScript.Runner
