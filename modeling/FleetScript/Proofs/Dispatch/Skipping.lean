import FleetScript.Proofs.Dispatch.Handling
import FleetScript.Proofs.Runner.Loading

/-!
Hosts whose protocol sessions do not speak. Compiling such a host looks at the protocol only after
the script has been read, with the variables of that very host. So it is skipped if the script is
legible for it: there is a text, every command line of it is spelled to its end, and every name in
it has a value for the host. Otherwise the host is compiled to the error of the script, and a
dispatch counts it among the failed ones.
-/

namespace FleetScript

open Script

/-! ### Unspoken protocols -/

lemma Protocol.ofScheme?_eq_none_iff {scheme : String} :
    ofScheme? scheme = none ↔ ∀ p : Protocol, scheme ≠ p.scheme := by
  constructor
  · rintro hnone p rfl
    rw [ofScheme?_scheme] at hnone
    cases hnone
  · intro hne
    cases hp : ofScheme? scheme with
    | none => rfl
    | some p => exact absurd (ofScheme?_eq_some_iff.mp hp) (hne p)

namespace Runner

/-! ### Legible scripts -/

/-- The text of a run's script: that of a file that can be read or the text of the options, and the
loaded one if they give neither. -/
inductive ScriptText (loaded : Loaded) (o : Options) (disk : Disk) : String → Prop where
  | file {path text : String} (hf : o.filename = some path)
    (hread : disk.readText path = .ok text) : ScriptText loaded o disk text
  | code {text : String} (hf : o.filename = none) (hc : o.code = some text) :
    ScriptText loaded o disk text
  | loaded (hf : o.filename = none) (hc : o.code = none) : ScriptText loaded o disk loaded.code

/-- Whether a name has a value for a host: it is computed or reserved, or comes from the query, from
what was set for the host, or from the defines. -/
def HasValue (r : Runner) (entry : Host.Entry) (address : Host.Address) (name : String) : Prop :=
  name ∈ Variables.computedKeys ∨ (entry.queryVars.get? name).isSome ∨
    (r.registry.scopes.hostValues? address.hostname name).isSome ∨
    (r.registry.scopes.globals.get? name).isSome

/-- Whether the script of a run can be read for a host. -/
def Legible (r : Runner) (loaded : Loaded) (o : Options) (disk : Disk) (entry : Host.Entry)
    (address : Host.Address) : Prop :=
  ∃ text, ScriptText loaded o disk text ∧ ∀ n l, CommandLine text.toList n l →
    ∃ ps, Spells l ps [] ∧ ∀ name, .ref name ∈ ps → HasValue r entry address name

variable {r : Runner} {loaded : Loaded} {o : Options} {disk : Disk} {ctx : RunContext}
  {entry : Host.Entry} {address : Host.Address}

lemma exists_scriptFor_iff {vars : Variables} :
    (∃ s, scriptFor loaded o disk vars = .ok s) ↔
      ∃ text, ScriptText loaded o disk text ∧ ∃ s, Script.read text vars = .ok s := by
  unfold scriptFor Script.readFrom
  constructor
  · rintro ⟨s, hs⟩
    split at hs
    · next path _ hf =>
      split at hs
      · cases hs
      · next text hread => exact ⟨text, .file hf hread, s, hs⟩
    · next code hf hc => exact ⟨code, .code hf hc, s, hs⟩
    · next hf hc => exact ⟨_, .loaded hf hc, s, hs⟩
  · rintro ⟨text, htext, s, hs⟩
    refine ⟨s, ?_⟩
    cases htext with
    | file hf hread =>
      simp only [hf, hread]
      exact hs
    | code hf hc =>
      simp only [hf, hc]
      exact hs
    | loaded hf hc =>
      simp only [hf, hc]
      exact hs

variable (r loaded o disk ctx entry address) in
lemma exists_scriptFor_variablesOf_iff :
    (∃ s, scriptFor loaded o disk (r.variablesOf ctx entry o loaded address) = .ok s) ↔
      Legible r loaded o disk entry address := by
  have hread : ∀ text, (∃ s, Script.read text (r.variablesOf ctx entry o loaded address) = .ok s) ↔
      ∀ n l, CommandLine text.toList n l →
        ∃ ps, Spells l ps [] ∧ ∀ name, .ref name ∈ ps → HasValue r entry address name := by
    intro text
    rw [exists_read_eq_ok_iff, exists_mapM_eq_ok_iff]
    simp only [readable_iff, Prod.forall, mem_commandLines_iff, Readable, variablesOf,
      Scopes.contains_merge_reserve]
    exact forall_comm
  rw [exists_scriptFor_iff]
  simp only [hread]
  rfl

/-- A host whose protocol is not spoken compiles to nothing if the script is legible for it, and
to an error of the script if not. -/
lemma compile_of_unspoken (hl : r.script = some loaded) (ha : addressOf entry o = .ok address)
    (hp : ∀ p : Protocol, address.protocol ≠ p.scheme) (disk : Disk) (ctx : RunContext) :
    (Legible r loaded o disk entry address ∧
      r.compile disk ctx entry o = .ok (.unsupported address.protocol)) ∨
    (¬Legible r loaded o disk entry address ∧
      ∃ cause, r.compile disk ctx entry o = .error (.script cause)) := by
  have hlegible := exists_scriptFor_variablesOf_iff r loaded o disk ctx entry address
  rw [compile_of_some _ _ _ _ _ hl, ha]
  simp only []
  cases hs : scriptFor loaded o disk (r.variablesOf ctx entry o loaded address) with
  | error cause =>
    refine .inr ⟨fun h => ?_, cause, rfl⟩
    obtain ⟨s, hs'⟩ := hlegible.mpr h
    rw [hs] at hs'
    cases hs'
  | ok s =>
    refine .inl ⟨hlegible.mp ⟨s, hs⟩, ?_⟩
    simp only [Protocol.ofScheme?_eq_none_iff.mpr hp]

end Runner

namespace Dispatch

open Runner

variable {σ : Type} {r : Runner} {loaded : Loaded} {o : Options} {name : String} {t : Transport σ}
  {threads : Nat} {disk : Disk} {d : Dispatch σ}

/-! ### Skipped and failed hosts -/

/-- What becomes of a host whose protocol is not spoken: it is skipped if the script is legible for
it on the disk of its turn, and failed if not. -/
def SkippedIfLegible (r : Runner) (loaded : Loaded) (o : Options) (disk : Disk)
    (address : Host.Address) (x : Handled) : Prop :=
  (Legible r loaded o disk x.entry address ∧
    x.skipped? = some x.entry.raw ∧ x.failed? = none) ∨
  (¬Legible r loaded o disk x.entry address ∧
    x.skipped? = none ∧ ∃ cause : Script.Error, x.failed? = some (x.entry.raw, cause.message))

lemma skippedIfLegible_of_compile (hl : r.script = some loaded) {x : Handled}
    {address : Host.Address} (ha : addressOf x.entry o = .ok address)
    (hp : ∀ p : Protocol, address.protocol ≠ p.scheme) {ctx : RunContext}
    (hc : r.compile disk ctx x.entry o = x.outcome) :
    SkippedIfLegible r loaded o disk address x := by
  obtain ⟨entry, outcome⟩ := x
  rcases compile_of_unspoken hl ha hp disk ctx with ⟨hlegible, hok⟩ | ⟨hillegible, cause, herror⟩
  · obtain rfl : .ok (.unsupported address.protocol) = outcome := hok.symm.trans hc
    exact .inl ⟨hlegible, rfl, rfl⟩
  · obtain rfl : .error (.script cause) = outcome := herror.symm.trans hc
    exact .inr ⟨hillegible, rfl, cause, rfl⟩

/-- **Which hosts with an unspoken protocol are skipped**: those that the script is legible for.
Such a host compiles to nothing exactly then, whatever the disk, the options and the variables are,
and to an error of the script otherwise. In a dispatch, in which each host is handled in its turn,
it is among the skipped ones exactly if the script is legible for it on the disk of its turn, and
else it is among the failed ones. -/
theorem skipped_iff_legible (hl : r.script = some loaded) :
    (∀ disk ctx entry address, addressOf entry o = .ok address →
      (∀ p : Protocol, address.protocol ≠ p.scheme) →
        (r.compile disk ctx entry o = .ok (.unsupported address.protocol) ↔
          Legible r loaded o disk entry address) ∧
        (¬Legible r loaded o disk entry address →
          ∃ cause, r.compile disk ctx entry o = .error (.script cause))) ∧
    (Leads r o name t (start r threads disk) d →
      ∃ xs : List Handled, xs.map Handled.entry ++ d.hosts = r.registry.entries ∧
        d.summary.skipped = xs.filterMap Handled.skipped? ∧
        d.summary.failed = xs.filterMap Handled.failed? ∧
        ∀ n x, xs[n]? = some x → ∀ address, addressOf x.entry o = .ok address →
          (∀ p : Protocol, address.protocol ≠ p.scheme) →
            ∃ d₀, Leads r o name t (start r threads disk) d₀ ∧ Leads r o name t d₀ d ∧
              d₀.hosts = r.registry.entries.drop n ∧ d₀.stopped = none ∧
              SkippedIfLegible r loaded o d₀.disk address x) := by
  constructor
  · intro disk ctx entry address ha hp
    rcases compile_of_unspoken hl ha hp disk ctx with ⟨hlegible, hok⟩ | ⟨hillegible, herror⟩
    · exact ⟨⟨fun _ => hlegible, fun _ => hok⟩, fun h => absurd hlegible h⟩
    · obtain ⟨cause, herror⟩ := herror
      refine ⟨⟨fun hok => ?_, fun h => absurd h hillegible⟩, fun _ => ⟨cause, herror⟩⟩
      rw [herror] at hok
      cases hok
  · intro hlead
    have hloaded : r.script.isSome := by
      rw [hl]
      rfl
    obtain ⟨xs, es, haccount⟩ := account_of_leads hloaded hlead
    refine ⟨xs, haccount.hosts, haccount.skipped, haccount.failed, fun n x hx address ha hp => ?_⟩
    obtain ⟨d₀, hstart, hgo, hhosts, hstopped, -, hcompile⟩ := haccount.turns n x hx
    exact ⟨d₀, hstart, hgo, hhosts, hstopped, skippedIfLegible_of_compile hl ha hp hcompile⟩

/-- Two hosts with an unspoken protocol, and a script with a variable that only the first has. -/
theorem skipped_iff_legible_ftp :
    let first : Host.Entry := ⟨"ftp://r1?x=1", .ofList [("x", ["1"])]⟩
    let second : Host.Entry := ⟨"ftp://r2", ∅⟩
    let loaded : Loaded := { code := "show $x", filename := none }
    let r : Runner := .ofHosts [first, second] "show $x"
    let a : Host.Address := ⟨"ftp", none, none, "r1", none, .ofList [("x", ["1"])]⟩
    let b : Host.Address := ⟨"ftp", none, none, "r2", none, ∅⟩
    ∃ d : Dispatch DryRun.State, Leads r {} "tool" DryRun.transport (start r 1 {}) d ∧
      d.hosts = [] ∧ d.summary.skipped = ["ftp://r1?x=1"] ∧
      d.summary.failed = [("ftp://r2", "Undefined variable 'x' on line 1")] ∧
      (∃ disk, Legible r loaded {} disk first a) ∧ ∃ disk, ¬Legible r loaded {} disk second b := by
  intro first second loaded r a b
  have ha : addressOf first {} = .ok a := by decide +kernel
  have hb : addressOf second {} = .ok b := by decide +kernel
  have hftp : ∀ p : Protocol, "ftp" ≠ p.scheme :=
    Protocol.ofScheme?_eq_none_iff.mp (by decide)
  obtain ⟨d, hd, hhosts, hskipped, hfailed⟩ :
      ∃ d ∈ dryRun r {} 1 {} (handleEvents 2),
        d.hosts = [] ∧ d.summary.skipped = ["ftp://r1?x=1"] ∧
          d.summary.failed = [("ftp://r2", "Undefined variable 'x' on line 1")] := by
    decide +kernel
  have hlead := (reaches_of_dryRun hd).leads
  obtain ⟨xs, hentries, hxskipped, hxfailed, hall⟩ :=
    (skipped_iff_legible (o := {}) (show r.script = some loaded from rfl)).2 hlead
  rw [hhosts, List.append_nil] at hentries
  obtain ⟨x, y, rfl⟩ : ∃ x y, xs = [x, y] :=
    List.length_eq_two.mp (by simpa [r, Runner.ofHosts] using congrArg List.length hentries)
  obtain ⟨hx, hy⟩ : x.entry = first ∧ y.entry = second := by
    simpa [r, Runner.ofHosts] using hentries
  rw [hskipped] at hxskipped
  rw [hfailed] at hxfailed
  refine ⟨d, hlead, hhosts, hskipped, hfailed, ?_, ?_⟩
  · obtain ⟨d₀, -, -, -, -, hcase⟩ := hall 0 x rfl a (hx ▸ ha) hftp
    rcases hcase with ⟨hlegible, -⟩ | ⟨-, -, cause, hfail⟩
    · exact ⟨d₀.disk, hx ▸ hlegible⟩
    · simp [hfail, hx, first] at hxfailed
  · obtain ⟨d₀, -, -, -, -, hcase⟩ := hall 1 y rfl b (hy ▸ hb) hftp
    rcases hcase with ⟨-, hskip, -⟩ | ⟨hillegible, -⟩
    · have := hxskipped ▸ List.mem_filterMap.mpr ⟨y, by simp, hskip⟩
      simp [hy, second] at this
    · exact ⟨d₀.disk, hy ▸ hillegible⟩

/-- A script is loaded that the first host has a variable for. A second host, whose protocol is not
spoken, lacks it: it is not skipped, and a dispatch that has come to its end counts it as failed. -/
theorem failed_with_unspoken_protocol :
    let ops : List Operation :=
      [.register Host.noAnswers () (.hosts ["r1?x=1", "ftp://r2"]), .load "show $x"]
    let r := Operation.after ops (.new {})
    let entry : Host.Entry := ⟨"ftp://r2", ∅⟩
    let address : Host.Address := ⟨"ftp", none, none, "r2", none, ∅⟩
    r.script = some { code := "show $x", filename := none } ∧ entry ∈ r.registry.entries ∧
      addressOf entry {} = .ok address ∧ (∀ p : Protocol, address.protocol ≠ p.scheme) ∧
      r.compile {} Runner.oneThread entry {} =
        .error (.script (.undefined 1 "x")) ∧
      ∃ d : Dispatch DryRun.State, Reaches r {} "tool" DryRun.transport (start r 1 {}) d ∧ Over d ∧
        d.result = .ok {
          submitted := 1
          skipped := []
          failed := [("ftp://r2", "Undefined variable 'x' on line 1")] } := by
  intro ops r entry address
  have hftp : ∀ p : Protocol, address.protocol ≠ p.scheme :=
    Protocol.ofScheme?_eq_none_iff.mp (by decide)
  obtain ⟨hscript, hentry, haddress, hcompile⟩ :
      r.script = some { code := "show $x", filename := none } ∧ entry ∈ r.registry.entries ∧
        addressOf entry {} = .ok address ∧
        r.compile {} Runner.oneThread entry {} =
          .error (.script (.undefined 1 "x")) := by
    decide +kernel
  obtain ⟨d, hd, hover, hresult⟩ :
      ∃ d ∈ dryRun r {} 1 {} (handleEvents 2 ++ taskEvents 0 ++ [.collect]),
        Over d ∧ d.result = .ok {
          submitted := 1
          skipped := []
          failed := [("ftp://r2", "Undefined variable 'x' on line 1")] } := by
    decide +kernel
  exact ⟨hscript, hentry, haddress, hftp, hcompile, d, reaches_of_dryRun hd, hover, hresult⟩

end Dispatch

end FleetScript
