import FleetScript.Proofs.Host.Table
import FleetScript.Proofs.Runner.Compile
import FleetScript.Proofs.Traversal

/-!
The variables of a compiled script, told from the history of the runner. A history lists the
changes to variables that the operations on a runner bring, the defines of the settings first;
registering hosts and loading scripts bring none. `lookup` says what a script knows of a variable
after such changes, and a plan's script knows just that.
-/

namespace FleetScript

namespace Runner

open Host

/-- The operations on a new runner, with the changes to variables that they bring. -/
inductive History (s : Settings) : Runner → List Change → Prop where
  | new : History s (.new s) (s.defines.pairs.map fun p => .define p.1 p.2)
  | define {r : Runner} {cs : List Change} (h : History s r cs) (vars : List (String × String)) :
    History s (r.define vars) (cs ++ vars.map fun p => .define p.1 p.2)
  | defineHost {r : Runner} {cs : List Change} (h : History s r cs) (hostname : String)
    (vars : List (String × String)) :
    History s (r.defineHost hostname vars) (cs ++ vars.map fun p => .set hostname p.1 p.2)
  | append {r : Runner} {cs : List Change} (h : History s r cs) (hostname key value : String) :
    History s { r with registry := { r.registry with
      scopes := r.registry.scopes.append hostname key value } }
      (cs ++ [.append hostname key value])
  | addHosts {r : Runner} {cs : List Change} (h : History s r cs) {σ : Type} (ask : Resolver σ)
    (asker : σ) (raws : List String) :
    History s { r with registry :=
      (Intake.addHosts ask raws { registry := r.registry, asker }).2.registry } cs
  | addFile {r : Runner} {cs : List Change} (h : History s r cs) {σ : Type} (ask : Resolver σ)
    (asker : σ) (disk : Disk) (path : String) :
    History s { r with registry :=
      (Intake.addFile ask disk path { registry := r.registry, asker }).2.registry } cs
  | addTable {r : Runner} {cs : List Change} (h : History s r cs) {σ : Type} (ask : Resolver σ)
    (asker : σ) (disk : Disk) (path : String) :
    History s { r with registry :=
      (Intake.addTable ask disk path { registry := r.registry, asker }).2.registry }
      (cs ++ Table.changes ask disk path { registry := r.registry, asker })
  | load {r r' : Runner} {cs : List Change} (h : History s r cs) {code : String}
    (hr : r.load code = .ok r') : History s r' cs
  | loadFile {r r' : Runner} {cs : List Change} (h : History s r cs) {disk : Disk} {path : String}
    (hr : r.loadFile disk path = .ok r') : History s r' cs

/-! ### What a history leaves -/

lemma scopes_addHost {σ : Type} (ask : Resolver σ) (raw : String) (i : Intake σ) :
    (Intake.addHost ask raw i).2.registry.scopes = i.registry.scopes := by
  rcases Table.addHost_cases ask raw i with ⟨e, s, h⟩ | ⟨address, queryVars, s, -, -, h⟩
  · rw [h]
  · rw [h]

lemma scopes_addHosts {σ : Type} (ask : Resolver σ) (raws : List String) (i : Intake σ) :
    (Intake.addHosts ask raws i).2.registry.scopes = i.registry.scopes := by
  induction raws generalizing i with
  | nil => rfl
  | cons raw raws ih =>
    have hfirst := scopes_addHost ask raw i
    rw [Intake.addHosts]
    rcases h : Intake.addHost ask raw i with ⟨_ | _, j⟩
    · rw [h] at hfirst
      exact hfirst
    · rw [h] at hfirst
      exact (ih j).trans hfirst

lemma scopes_addFile {σ : Type} (ask : Resolver σ) (disk : Disk) (path : String) (i : Intake σ) :
    (Intake.addFile ask disk path i).2.registry.scopes = i.registry.scopes := by
  unfold Intake.addFile
  cases Intake.readList disk path with
  | error e => rfl
  | ok text => exact scopes_addHosts ask _ i

/-- A script that was loaded could be read with the variables that it was checked against. -/
lemma exists_of_loadScript {r r' : Runner} {code : String} {filename : Option String}
    (h : r.loadScript code filename = .ok r') :
    ∃ vars res s, r.checkVariables = .ok vars ∧
      Script.read code (Variables.reserve vars res) = .ok s ∧
      r' = { r with script := some { code, filename } } := by
  unfold loadScript at h
  obtain ⟨vars, hvars, h⟩ := exists_of_bind h
  obtain ⟨s, hread, h⟩ := exists_of_bind h
  exact ⟨vars, _, s, eq_ok_of_mapError hvars, eq_ok_of_mapError hread, (Except.ok.inj h).symm⟩

lemma eq_of_loadScript {r r' : Runner} {code : String} {filename : Option String}
    (h : r.loadScript code filename = .ok r') :
    r' = { r with script := some { code, filename } } := by
  obtain ⟨_, _, _, -, -, rfl⟩ := exists_of_loadScript h
  rfl

lemma exists_of_loadFile {r r' : Runner} {disk : Disk} {path : String}
    (h : r.loadFile disk path = .ok r') :
    ∃ code, r' = { r with script := some { code, filename := some path } } := by
  unfold loadFile at h
  split at h
  · cases h
  · exact ⟨_, eq_of_loadScript h⟩

variable {s : Settings} {r : Runner} {cs : List Change}

theorem History.reflects (h : History s r cs) : r.registry.scopes.Reflects cs := by
  induction h with
  | new => exact Scopes.reflects_empty.define s.defines.pairs
  | define h vars ih => exact ih.define vars
  | defineHost h hostname vars ih => exact ih.defineHost hostname vars
  | append h hostname key value ih => exact ih.append hostname key value
  -- hosts that are registered from a list have no values of their own
  | addHosts h ask asker raws ih =>
    rw [scopes_addHosts]
    exact ih
  | addFile h ask asker disk path ih =>
    rw [scopes_addFile]
    exact ih
  | addTable h ask asker disk path ih => exact Table.reflects_addTable ih disk path
  | load h hr ih =>
    rw [eq_of_loadScript hr]
    exact ih
  | loadFile h hr ih =>
    obtain ⟨_, rfl⟩ := exists_of_loadFile hr
    exact ih

theorem History.settings (h : History s r cs) :
    r.domain = s.domain ∧ r.logdir = s.logdir ∧ r.overwriteLogs = s.overwriteLogs := by
  induction h with
  | new => exact ⟨rfl, rfl, rfl⟩
  | define _ _ ih | defineHost _ _ _ ih | append _ _ _ _ ih | addHosts _ _ _ _ ih
  | addFile _ _ _ _ _ ih | addTable _ _ _ _ _ ih => exact ih
  | load _ hr ih =>
    rw [eq_of_loadScript hr]
    exact ih
  | loadFile _ hr ih =>
    obtain ⟨_, rfl⟩ := exists_of_loadFile hr
    exact ih

/-! ### What a script knows -/

/-- What a script knows of a variable, given the changes to variables so far: the first of these
that applies. -/
def lookup (cs : List Change) (res : Variables.Reserved) (host hostname : String)
    (query : Variables) (key : String) : Option (List String) :=
  if key = Variables.filenameKey then some [res.filename]
  else if key = Variables.runnerKey then some [res.runner]
  else if key = Variables.parentKey then some [res.parent]
  else if key = Variables.hostnameKey then some [host]
  else (query.get? key).or <| (Change.given? cs hostname key).or <|
    (Change.lastDefined? cs key).map fun v => [v]

lemma lookup_filename {res : Variables.Reserved} {host hostname : String} {query : Variables} :
    lookup cs res host hostname query Variables.filenameKey = some [res.filename] := rfl

theorem get?_variablesOf (h : r.registry.scopes.Reflects cs) (ctx : RunContext)
    (entry : Host.Entry) (o : Options) (loaded : Loaded) (address : Host.Address) (key : String) :
    (r.variablesOf ctx entry o loaded address).get? key =
      lookup cs (reserved loaded o ctx) (qualify address.hostname r.domain) address.hostname
        entry.queryVars key := by
  unfold variablesOf lookup
  rw [Variables.get?_reserve, Scopes.get?_merge, h.values, h.defines]

lemma variablesOf_congr {r r' : Runner} {cs cs' : List Change}
    (h : r.registry.scopes.Reflects cs) (h' : r'.registry.scopes.Reflects cs')
    (hdomain : r'.domain = r.domain) {address : Host.Address}
    (hcs : cs'.filter (·.concerns address.hostname) = cs.filter (·.concerns address.hostname))
    (ctx : RunContext) (entry : Host.Entry) (o : Options) (loaded : Loaded) :
    r'.variablesOf ctx entry o loaded address = r.variablesOf ctx entry o loaded address := by
  refine Bindings.ext_get? fun k => ?_
  have hgiven : Change.given? cs' address.hostname k = Change.given? cs address.hostname k := by
    rw [← Change.given?_filter_concerns, hcs, Change.given?_filter_concerns]
  have hdefined : Change.lastDefined? cs' k = Change.lastDefined? cs k := by
    rw [← Change.lastDefined?_filter_concerns cs' address.hostname, hcs,
      Change.lastDefined?_filter_concerns]
  rw [get?_variablesOf h', get?_variablesOf h, hdomain, lookup, lookup, hgiven, hdefined]

/-! ### Plans -/

/-- The path of the file that holds the text of a run's script, if the text is from a file: that
of the options, or else, unless the options give a text, that of the loaded script. -/
def sourcePath? (loaded : Loaded) (o : Options) : Option String :=
  match o.filename, o.code with
  | some path, _ => some path
  | none, some _ => none
  | none, none => loaded.filename

/-- The reserved variables that tell where the text of a run's script is from. -/
def sources (loaded : Loaded) (o : Options) (ctx : RunContext) : Variables.Reserved where
  filename := (sourcePath? loaded o).getD ""
  runner := ctx.name
  parent := ctx.parent.getD ""

/-- Whether a run's script is a text in the options while a file's is loaded. -/
def HidesFile (loaded : Loaded) (o : Options) : Prop :=
  o.filename = none ∧ o.code.isSome ∧ loaded.filename.getD "" ≠ ""

lemma reserved_eq_sources_iff (loaded : Loaded) (o : Options) (ctx : RunContext) :
    reserved loaded o ctx = sources loaded o ctx ↔ ¬HidesFile loaded o := by
  unfold reserved sources scriptPath sourcePath? HidesFile
  cases o.filename <;> cases o.code <;> simp

/-- **What the script of a plan knows**, told from the history of the runner. A text in the
options that hides a loaded file is the one case in which `__filename__` is no path of the text.
The script was read with the values that it holds, all names of the host are its qualified name,
and other hosts' changes count for nothing. -/
theorem History.get?_of_plan (h : History s r cs) {disk : Disk} {ctx : RunContext}
    {entry : Host.Entry} {o : Options} {p : Plan}
    (hp : r.compile disk ctx entry o = .ok (.plan p)) :
    ∃ loaded address, r.script = some loaded ∧ addressOf entry o = .ok address ∧
      ((∀ key, p.script.get? key = lookup cs (sources loaded o ctx)
          (qualify address.hostname r.domain) address.hostname entry.queryVars key) ↔
        ¬HidesFile loaded o) ∧
      (∀ key, p.script.get? key = lookup cs (reserved loaded o ctx)
        (qualify address.hostname r.domain) address.hostname entry.queryVars key) ∧
      p.name = qualify address.hostname r.domain ∧
      p.connect.host = qualify address.hostname r.domain ∧
      p.log = r.logdir.map (fun folder =>
        LogFiles.inFolder folder (qualify address.hostname r.domain) r.overwriteLogs) ∧
      scriptFor loaded o disk p.script.vars = .ok p.script ∧
      ∀ r' cs', History s r' cs' → r'.script = r.script →
        cs'.filter (·.concerns address.hostname) = cs.filter (·.concerns address.hostname) →
        r'.compile disk ctx entry o = r.compile disk ctx entry o := by
  have hc := compiles r disk ctx entry o
  rw [hp] at hc
  cases hc with
  | @plan loaded address script protocol hl ha hs hscheme =>
    have hvars : script.vars = r.variablesOf ctx entry o loaded address := vars_of_scriptFor hs
    have hget (key : String) : script.get? key = lookup cs (reserved loaded o ctx)
        (qualify address.hostname r.domain) address.hostname entry.queryVars key := by
      rw [← get?_variablesOf h.reflects, ← hvars]
      rfl
    refine ⟨loaded, address, hl, ha, ?_, hget, rfl, rfl, rfl, ?_, fun r' cs' h' hr' hcs => ?_⟩
    · rw [← reserved_eq_sources_iff loaded o ctx]
      refine ⟨fun hall => ?_, fun heq key => heq ▸ hget key⟩
      have hfile := (hget Variables.filenameKey).symm.trans (hall Variables.filenameKey)
      rw [lookup_filename, lookup_filename] at hfile
      exact congrArg (fun f => Variables.Reserved.mk f ctx.name (ctx.parent.getD ""))
        (List.head_eq_of_cons_eq (Option.some.inj hfile))
    · show scriptFor loaded o disk script.vars = .ok script
      rw [hvars]
      exact hs
    · obtain ⟨hd, hlog, hover⟩ := h.settings
      obtain ⟨hd', hlog', hover'⟩ := h'.settings
      rw [compile_of_some _ _ _ _ _ hl, compile_of_some _ _ _ _ _ (hr'.trans hl), ha]
      simp only [variablesOf_congr h.reflects h'.reflects (hd'.trans hd.symm) hcs, planFor,
        hd, hd', hlog, hlog', hover, hover']

/-- A host in a domain with a define, a table of two ports, and a value set for it alone. -/
theorem get?_of_plan_with_ports :
    let s : Settings := { defines := .ofList [("site", "lab")], domain := "example.net" }
    let entry : Host.Entry := { raw := "r1", queryVars := ∅ }
    ∃ r cs disk ctx p, History s r cs ∧ r.compile disk ctx entry {} = .ok (.plan p) ∧
      p.script.get? "hostname" = some ["r1.example.net"] ∧ p.script.get? "site" = some ["lab"] ∧
      p.script.get? "port" = some ["ge0", "ge1"] ∧ p.script.get? "mtu" = some ["1500"] := by
  intro s entry
  let r : Runner :=
    { ofHosts [entry] "$port" with
      registry :=
        { entries := [entry]
          scopes := {
            globals := .ofList [("site", "lab")]
            overlays := .ofList [("r1", .ofList [("mtu", ["1500"]), ("port", ["ge0", "ge1"])])] } }
      domain := "example.net" }
  have htable := History.new.addTable (s := s) noAnswers () (({} : Disk).withFile "ports"
    (Text.toBytes "hostname\tport\nr1\tge0\nr1\tge1\n")) "ports"
  have h := @History.load _ _ r _ (htable.defineHost "r1" [("mtu", "1500")]) "$port"
    (by decide +kernel)
  obtain ⟨p, hp⟩ := Option.isSome_iff_exists.mp
    (by decide +kernel : (r.plan? {} oneThread entry {}).isSome)
  obtain ⟨loaded, address, hl, ha, -, hget, -⟩ := h.get?_of_plan (compile_of_plan? hp)
  obtain rfl := Option.some.inj hl
  obtain rfl := Except.ok.inj ((by decide +kernel : addressOf entry {} =
    .ok ⟨"telnet", none, none, "r1", none, ∅⟩).symm.trans ha)
  exact ⟨r, _, {}, oneThread, p, h, compile_of_plan? hp, (hget _).trans (by decide +kernel),
    (hget _).trans (by decide +kernel), (hget _).trans (by decide +kernel),
    (hget _).trans (by decide +kernel)⟩

/-- With a script loaded from a file, a text in the options is read under the name of that file. -/
theorem get?_of_hidden_file :
    let entry : Host.Entry := { raw := "r1", queryVars := ∅ }
    let loaded : Loaded := { code := "show version\n", filename := some "s.tr" }
    let o : Options := { code := some "show clock" }
    ∃ r cs disk ctx p address, History {} r cs ∧ r.script = some loaded ∧
      addressOf entry o = .ok address ∧ r.compile disk ctx entry o = .ok (.plan p) ∧
      lookup cs (sources loaded o ctx) (qualify address.hostname r.domain) address.hostname
        entry.queryVars "__filename__" = some [""] ∧
      p.script.get? "__filename__" = some ["s.tr"] := by
  intro entry loaded o
  let r : Runner := { ofHosts [entry] loaded.code with script := some loaded }
  have h := @History.loadFile _ _ r _ (History.new.addHosts (s := {}) noAnswers () ["r1"])
    (({} : Disk).withFile "s.tr" (Text.toBytes "show version\n")) "s.tr" (by decide +kernel)
  obtain ⟨p, hp, hname⟩ : ∃ p ∈ r.plan? {} oneThread entry o,
      p.script.get? "__filename__" = some ["s.tr"] := by
    decide +kernel
  refine ⟨r, _, {}, oneThread, p, ⟨"telnet", none, none, "r1", none, ∅⟩, h, rfl, ?_,
    compile_of_plan? hp, ?_, hname⟩
  all_goals decide +kernel

end Runner

end FleetScript
