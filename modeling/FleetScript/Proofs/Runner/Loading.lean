import FleetScript.Proofs.Host.Schemes
import FleetScript.Proofs.Runner.Operations

/-!
What the check of a script at loading is worth later on. A script can be read with any variables
that have values for the names in it, and those of the first host never lose one; so once it is
loaded it can be read for that host. With no host registered it is checked against the variables of
a host whose name is empty: these are the defines, and whatever was set for that name.
-/

namespace FleetScript

/-! ### The names in a script -/

namespace Script

/-- Whether a command line of a text refers to a name. -/
def RefersTo (text name : String) : Prop :=
  ∃ l n ps, (l, n) ∈ commandLines text.toList ∧ pieces l = .ok ps ∧ Piece.ref name ∈ ps

/-- A script that can be read with some variables can be read with others if these have values for
all its names. -/
lemma exists_read_iff {text : String} {vars vars' : Variables}
    (h : ∃ s, read text vars = .ok s) :
    (∃ s, read text vars' = .ok s) ↔
      ∀ name, RefersTo text name → vars'.contains name = true := by
  rw [exists_read_eq_ok_iff, exists_mapM_eq_ok_iff] at h ⊢
  simp only [readable_iff] at h ⊢
  constructor
  · rintro hread name ⟨l, n, ps, hl, hps, hname⟩
    obtain ⟨qs, hspells, hqs⟩ := hread (l, n) hl
    obtain rfl := Except.ok.inj (hps.symm.trans (pieces_eq_ok_iff.mpr hspells))
    exact hqs name hname
  · rintro hall ⟨l, n⟩ hl
    obtain ⟨ps, hspells, -⟩ := h (l, n) hl
    exact ⟨ps, hspells, fun name hname =>
      hall name ⟨l, n, ps, hl, pieces_eq_ok_iff.mpr hspells, hname⟩⟩

lemma contains_of_read {text name : String} {vars : Variables}
    (h : ∃ s, read text vars = .ok s) (hname : RefersTo text name) : vars.contains name = true :=
  (exists_read_iff h).mp h name hname

end Script

namespace Variables

/-- The names that have a value for every host. -/
def computedKeys : List String := [filenameKey, runnerKey, parentKey, hostnameKey]

end Variables

lemma Scopes.contains_merge_reserve (s : Scopes) (hostname : String) (query : Variables)
    (domain name : String) (res : Variables.Reserved) :
    ((s.merge hostname query domain).reserve res).contains name = true ↔
      name ∈ Variables.computedKeys ∨ (query.get? name).isSome ∨
        (s.hostValues? hostname name).isSome ∨ (s.globals.get? name).isSome := by
  unfold Bindings.contains Variables.computedKeys
  rw [Variables.get?_reserve, get?_merge]
  split
  · next h1 => simp [h1]
  split
  · next h2 => simp [h2]
  split
  · next h3 => simp [h3]
  split
  · next h4 => simp [h4]
  next h1 h2 h3 h4 => simp [h1, h2, h3, h4]

namespace Runner

open Host Operation

/-! ### Loading -/

section Loading

variable {r r' : Runner} {code : String} {filename : Option String}

/-- The host name and the query that a script is checked for: those of the first host, and of no
host the empty ones. -/
inductive CheckedFor (r : Runner) : String → Variables → Prop where
  | nobody (h : r.registry.entries = []) : CheckedFor r "" ∅
  | first {entry : Entry} {rest : List Entry} {address : Address}
    (h : r.registry.entries = entry :: rest)
    (ha : parse entry.raw defaultProtocol = .ok address) :
    CheckedFor r address.hostname entry.queryVars

lemma checkedFor_of_checkVariables {vars : Variables} (h : r.checkVariables = .ok vars) :
    ∃ hostname query domain, CheckedFor r hostname query ∧
      vars = r.registry.scopes.merge hostname query domain := by
  unfold checkVariables at h
  split at h
  · next hnone => exact ⟨"", ∅, "", .nobody hnone, (Except.ok.inj h).symm⟩
  · next entry rest hentries =>
    cases ha : parse entry.raw defaultProtocol with
    | error e =>
      rw [ha] at h
      cases h
    | ok address =>
      rw [ha] at h
      exact ⟨_, _, r.domain, .first hentries ha, (Except.ok.inj h).symm⟩

lemma named_of_loadScript (h : r.loadScript code filename = .ok r') :
    ∃ hostname query, CheckedFor r hostname query ∧
      ∀ name, Script.RefersTo code name →
        name ∈ Variables.computedKeys ∨ (query.get? name).isSome ∨
          (r.registry.scopes.hostValues? hostname name).isSome ∨
          (r.registry.scopes.globals.get? name).isSome := by
  obtain ⟨vars, res, s, hvars, hread, -⟩ := exists_of_loadScript h
  obtain ⟨hostname, query, domain, hchecked, rfl⟩ := checkedFor_of_checkVariables hvars
  refine ⟨hostname, query, hchecked, fun name hname => ?_⟩
  rw [← Scopes.contains_merge_reserve]
  exact Script.contains_of_read ⟨s, hread⟩ hname

end Loading

/-! ### Compiling later -/

section Compiling

variable {r : Runner} {loaded : Loaded} {entry : Entry} {o : Options}

/-- Whether options give no script, and no protocol but one that sessions speak. -/
structure Plain (o : Options) : Prop where
  filename : o.filename = none
  code : o.code = none
  protocol : ∀ scheme, o.protocol = some scheme → ∃ p : Protocol, scheme = p.scheme

/-- A host that could be registered has an address with such options, and the same name in it. -/
lemma Plain.exists_address (ho : Plain o) {address : Address}
    (h : parse entry.raw defaultProtocol = .ok address) :
    ∃ address', addressOf entry o = .ok address' ∧ address'.hostname = address.hostname := by
  have hscheme : ∃ p : Protocol, o.protocol.getD defaultProtocol = p.scheme := by
    cases hp : o.protocol with
    | none => exact ⟨.telnet, rfl⟩
    | some scheme => exact ho.protocol scheme hp
  obtain ⟨p, hp⟩ := hscheme
  unfold addressOf
  rw [hp]
  exact hostname_of_parse h

/-- With such options a host compiles to a script's error if the loaded script cannot be read with
the host's variables. -/
lemma Plain.script_error_iff (ho : Plain o) (hl : r.script = some loaded) {address : Address}
    (ha : addressOf entry o = .ok address) (disk : Disk) (ctx : RunContext) :
    (∃ cause, r.compile disk ctx entry o = .error (.script cause)) ↔
      ¬∃ s, Script.read loaded.code (r.variablesOf ctx entry o loaded address) = .ok s := by
  have hscript : ∀ vars, scriptFor loaded o disk vars = Script.read loaded.code vars := by
    intro vars
    unfold scriptFor
    rw [ho.filename, ho.code]
  rw [compile_of_some _ _ _ _ _ hl, ha]
  simp only [hscript]
  cases Script.read loaded.code (r.variablesOf ctx entry o loaded address) with
  | error cause => simp
  | ok script =>
    simp only []
    cases Protocol.ofScheme? address.protocol <;> simp

/-- A host compiles to a script's error if the script refers to a name that has no value now,
provided that it could be read some time ago. -/
lemma Plain.lacks_iff (ho : Plain o) (hl : r.script = some loaded)
    (hread : ∃ vars s, Script.read loaded.code vars = .ok s) {address : Address}
    (h : parse entry.raw defaultProtocol = .ok address) (disk : Disk) (ctx : RunContext) :
    (∃ cause, r.compile disk ctx entry o = .error (.script cause)) ↔
      ∃ name, Script.RefersTo loaded.code name ∧
        ¬(name ∈ Variables.computedKeys ∨ (entry.queryVars.get? name).isSome ∨
          (r.registry.scopes.hostValues? address.hostname name).isSome ∨
          (r.registry.scopes.globals.get? name).isSome) := by
  obtain ⟨address', ha', hhostname⟩ := ho.exists_address h
  obtain ⟨vars, hread⟩ := hread
  rw [ho.script_error_iff hl ha', Script.exists_read_iff hread]
  unfold variablesOf
  simp only [Scopes.contains_merge_reserve, hhostname, not_forall, exists_prop]

end Compiling

/-! ### Whole histories -/

section Histories

variable {r r' : Runner} {code : String} {filename : Option String} {o : Options}

/-- Whether the script of a host refers to a variable that has no value now, but had one for the
host with the empty name when the script was loaded into `before`. -/
def Borrows (before now : Runner) (code : String) (entry : Entry) : Prop :=
  ∃ name address, Script.RefersTo code name ∧ parse entry.raw defaultProtocol = .ok address ∧
    (before.registry.scopes.hostValues? "" name).isSome ∧ name ∉ Variables.computedKeys ∧
    entry.queryVars.get? name = none ∧
    now.registry.scopes.hostValues? address.hostname name = none ∧
    now.registry.scopes.globals.get? name = none

/-- A script that was loaded with no host registered is wrong for a host if it borrows a variable
there. -/
lemma borrows_iff (hload : r.loadScript code filename = .ok r') (hnone : r.registry.entries = [])
    {now : Runner} (hgrown : Grown r.registry now.registry)
    (hscript : now.script = some { code, filename }) (ho : Plain o) {entry : Entry}
    (hentry : entry ∈ now.registry.entries) (disk : Disk) (ctx : RunContext) :
    (∃ cause, now.compile disk ctx entry o = .error (.script cause)) ↔
      Borrows r now code entry := by
  obtain ⟨vars, res, s, -, hread, -⟩ := exists_of_loadScript hload
  obtain ⟨hostname, query, hchecked, hnamed⟩ := named_of_loadScript hload
  obtain ⟨more, hmore, hall⟩ := hgrown.entries
  obtain ⟨address, ha⟩ : ∃ address, parse entry.raw defaultProtocol = .ok address := by
    refine hall entry ?_
    rwa [hmore, hnone, List.nil_append] at hentry
  cases hchecked with
  | first h => cases hnone.symm.trans h
  | nobody _ =>
    rw [ho.lacks_iff hscript ⟨_, s, hread⟩ ha]
    unfold Borrows
    constructor
    · rintro ⟨name, hname, hlacks⟩
      simp only [not_or, Bool.not_eq_true, Option.isSome_eq_false_iff,
        Option.isNone_iff_eq_none] at hlacks
      obtain ⟨hcomputed, hquery, hvalues, hglobals⟩ := hlacks
      refine ⟨name, address, hname, ha, ?_, hcomputed, hquery, hvalues, hglobals⟩
      rcases hnamed name hname with h | h | h | h
      · exact absurd h hcomputed
      · cases h
      · exact h
      · -- a define has stayed since
        have := hgrown.scopes.globals name h
        rw [hglobals] at this
        cases this
    · rintro ⟨name, address', hname, ha', -, hcomputed, hquery, hvalues, hglobals⟩
      obtain rfl := Except.ok.inj (ha.symm.trans ha')
      refine ⟨name, hname, ?_⟩
      simp [hcomputed, hquery, hvalues, hglobals]

/-- A script that was loaded with a first host registered stays right for that host. -/
lemma ne_script_error_of_first (hload : r.loadScript code filename = .ok r') {first : Entry}
    (hfirst : r.registry.entries.head? = some first) {now : Runner}
    (hgrown : Grown r.registry now.registry) (hscript : now.script = some { code, filename })
    (ho : Plain o) (disk : Disk) (ctx : RunContext) (cause : Script.Error) :
    now.compile disk ctx first o ≠ .error (.script cause) := by
  intro hcompile
  obtain ⟨vars, res, s, -, hread, -⟩ := exists_of_loadScript hload
  obtain ⟨hostname, query, hchecked, hnamed⟩ := named_of_loadScript hload
  cases hchecked with
  | nobody hnone =>
    rw [hnone] at hfirst
    cases hfirst
  | @first entry rest address hentries ha =>
    rw [hentries] at hfirst
    obtain rfl := Option.some.inj hfirst
    obtain ⟨name, hname, hlacks⟩ :=
      (ho.lacks_iff hscript ⟨_, s, hread⟩ ha disk ctx).mp ⟨cause, hcompile⟩
    refine hlacks ((hnamed name hname).imp_right (Or.imp_right (Or.imp ?_ ?_)))
    · exact hgrown.scopes.values _ _
    · exact hgrown.scopes.globals _

/-- **What loading a script promises.** A load that fails changes nothing, now or later. After one
that succeeds, and any operations but loads, the first host that was registered compiles to no
script's error; and if there was none, any host compiles to such an error just if the script
borrows a variable of the empty host name. -/
theorem loaded_script_holds (r : Runner) {op : Operation} (hop : op.isLoad = true)
    (later : List Operation) :
    (∀ e, (op.perform r).1 = .error e → after (op :: later) r = after later r) ∧
    ((op.perform r).1 = .ok () → (∀ op ∈ later, op.isLoad = false) →
      ∃ loaded, (after (op :: later) r).script = some loaded ∧
        ∀ disk ctx o, Plain o →
          (∀ first, r.registry.entries.head? = some first →
            (after (op :: later) r).registry.entries.head? = some first ∧
            ∀ cause, (after (op :: later) r).compile disk ctx first o ≠
              .error (.script cause)) ∧
          (r.registry.entries = [] → ∀ entry ∈ (after (op :: later) r).registry.entries,
            ((∃ cause, (after (op :: later) r).compile disk ctx entry o =
              .error (.script cause)) ↔
                Borrows r (after (op :: later) r) loaded.code entry))) := by
  refine ⟨fun e he => ?_, fun hok hlater => ?_⟩
  · rw [after_cons, perform_of_failed_load hop he]
  obtain ⟨code, filename, hload⟩ := exists_loadScript_of_load hop hok
  have hscript : (after (op :: later) r).script = some { code, filename } := by
    rw [after_cons, script_after hlater, eq_of_loadScript hload]
  have hgrown : Grown r.registry (after (op :: later) r).registry := grown_after _ r
  refine ⟨_, hscript, fun disk ctx o ho => ⟨fun first hfirst => ⟨?_, fun cause => ?_⟩, ?_⟩⟩
  · obtain ⟨more, hmore, -⟩ := hgrown.entries
    rw [hmore, List.head?_append, hfirst]
    rfl
  · exact ne_script_error_of_first hload hfirst hgrown hscript ho disk ctx cause
  · intro hnone entry hentry
    exact borrows_iff hload hnone hgrown hscript ho hentry disk ctx

/-- A script that refers to a define, loaded before a host is registered. -/
theorem loaded_script_holds_without_host :
    let before := after [.define [("site", "lab")]] (.new {})
    let now := after [.load "show $site", .register noAnswers () (.hosts ["r1"])] before
    now.registry.entries = [{ raw := "r1", queryVars := ∅ }] ∧
      ¬∃ cause, now.compile {} oneThread { raw := "r1", queryVars := ∅ }
        { protocol := some "ssh" } = .error (.script cause) := by
  intro before now
  have hentries : now.registry.entries = [{ raw := "r1", queryVars := ∅ }] := by decide +kernel
  have ho : Plain { protocol := some "ssh" } := ⟨rfl, rfl, by rintro _ ⟨⟩; exact ⟨.ssh none, rfl⟩⟩
  have hop : (Operation.load "show $site").isLoad = true := rfl
  obtain ⟨loaded, -, hall⟩ := (loaded_script_holds before hop
    [.register noAnswers () (.hosts ["r1"])]).2 (by decide +kernel) (by simp [isLoad])
  refine ⟨hentries, ?_⟩
  rw [((hall {} oneThread _ ho).2 rfl _ (by rw [hentries]; simp))]
  -- nothing was ever set for the empty name
  rintro ⟨name, address, -, -, hvalues, -⟩
  cases hvalues

/-- A variable that was set for the host with the empty name lets a script be loaded, and is
undefined for the host that is registered then. -/
theorem undefined_after_load :
    let before := after [.defineHost "" [("x", "1")]] (.new {})
    let now := after [.load "show $x", .register noAnswers () (.hosts ["r1"])] before
    before.registry.entries = [] ∧ ((Operation.load "show $x").perform before).1 = .ok () ∧
      now.registry.entries = [{ raw := "r1", queryVars := ∅ }] ∧
      now.compile {} oneThread { raw := "r1", queryVars := ∅ } {} =
        .error (.script (.undefined 1 "x")) := by
  decide +kernel

end Histories

end Runner

end FleetScript
