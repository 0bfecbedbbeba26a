import FleetScript.Proofs.Disk.Places
import FleetScript.Proofs.Runner.Operations

/-!
Where the script of a session comes from. The script that is loaded is that of the last load that
succeeded (`script_after_iff`), and a sequence is read from the file of the options, or the text of
the options, or the loaded script (`Origin`). Its `__filename__` is the path of the file that it was
read from, and empty if it was read from a text, with one exception: a text of the options stands
under the path of a file that was loaded before (`filename_of_plan`).
-/

namespace FleetScript

/-! ### The last load -/

namespace Operation

/-- What an operation loads: a text, or what it reads from a file, with the path of that file. -/
inductive Loads : Operation → Loaded → Prop where
  | text (code : String) : Loads (.load code) { code, filename := none }
  | file {disk : Disk} {path code : String} (h : disk.readText path = .ok code) :
    Loads (.loadFile disk path) { code, filename := some path }

/-- What the last load that succeeded has loaded. Loads that failed since do not count. -/
inductive LastLoad (r : Runner) : List Operation → Loaded → Prop where
  | now {ops : List Operation} {op : Operation} {loaded : Loaded} (h : op.Loads loaded)
    (hok : (op.perform (after ops r)).1 = .ok ()) : LastLoad r (ops ++ [op]) loaded
  | before {ops : List Operation} {op : Operation} {loaded : Loaded} (h : LastLoad r ops loaded)
    (hop : op.isLoad = false ∨ ∃ e, (op.perform (after ops r)).1 = .error e) :
    LastLoad r (ops ++ [op]) loaded

section Loading

variable {r : Runner} {op : Operation} {loaded : Loaded}

lemma after_concat (ops : List Operation) (op : Operation) (r : Runner) :
    after (ops ++ [op]) r = (op.perform (after ops r)).2 := by
  unfold after
  rw [List.foldl_append]
  rfl

lemma Loads.isLoad (h : op.Loads loaded) : op.isLoad = true := by
  cases h <;> rfl

lemma exists_loads_of_ok (hop : op.isLoad = true) (hok : (op.perform r).1 = .ok ()) :
    ∃ loaded, op.Loads loaded ∧ (op.perform r).2 = { r with script := some loaded } := by
  have hscript {code filename} (h : (ofLoad r (r.loadScript code filename)).1 = .ok ()) :
      (ofLoad r (r.loadScript code filename)).2 = { r with script := some { code, filename } } := by
    cases hl : r.loadScript code filename with
    | error e =>
      rw [hl] at h
      cases h
    | ok r' => exact Runner.eq_of_loadScript hl
  cases op with
  | load code => exact ⟨_, .text code, hscript hok⟩
  | loadFile disk path =>
    change (ofLoad r (r.loadFile disk path)).1 = _ at hok
    change ∃ _, _ ∧ (ofLoad r (r.loadFile disk path)).2 = _
    unfold Runner.loadFile at hok ⊢
    split at hok
    · cases hok
    · next code hread => exact ⟨_, .file hread, hscript hok⟩
  | define _ | defineHost _ _ | append _ _ _ | register _ _ _ => cases hop

lemma Loads.unique {other : Loaded} (h : op.Loads loaded) (h' : op.Loads other) :
    other = loaded := by
  cases h with
  | text => cases h' with | text => rfl
  | file h =>
    cases h' with
    | file h' =>
      obtain rfl := Except.ok.inj (h.symm.trans h')
      rfl

lemma Loads.script_of_ok (h : op.Loads loaded) (hok : (op.perform r).1 = .ok ()) :
    (op.perform r).2.script = some loaded := by
  obtain ⟨other, hother, hr⟩ := exists_loads_of_ok h.isLoad hok
  rw [hr, h.unique hother]

lemma script_of_no_load (hop : op.isLoad = false ∨ ∃ e, (op.perform r).1 = .error e) :
    (op.perform r).2.script = r.script := by
  cases hload : op.isLoad with
  | false => exact script_after (List.forall_mem_singleton.mpr hload) r
  | true =>
    rcases hop with hop | ⟨e, he⟩
    · rw [hload] at hop
      cases hop
    · rw [perform_of_failed_load hload he]

/-- **The loaded script is that of the last load that succeeded.** -/
theorem script_after_iff (hr : r.script = none) (ops : List Operation) :
    (after ops r).script = some loaded ↔ LastLoad r ops loaded := by
  constructor
  · induction ops using List.reverseRecOn with
    | nil =>
      intro h
      exact absurd (hr.symm.trans h) nofun
    | append_singleton ops op ih =>
      intro h
      rw [after_concat] at h
      by_cases hkept : op.isLoad = false ∨ ∃ e, (op.perform (after ops r)).1 = .error e
      · rw [script_of_no_load hkept] at h
        exact .before (ih h) hkept
      · obtain ⟨hload, hok⟩ := not_or.mp hkept
        have hok : (op.perform (after ops r)).1 = .ok () := by
          cases hres : (op.perform (after ops r)).1 with
          | error e => exact absurd ⟨e, hres⟩ hok
          | ok _ => rfl
        obtain ⟨other, hother, hafter⟩ := exists_loads_of_ok (by simpa using hload) hok
        rw [hafter] at h
        obtain rfl := Option.some.inj h
        exact .now hother hok
  · intro h
    induction h with
    | now h hok => rw [after_concat, h.script_of_ok hok]
    | before h hop ih => rw [after_concat, script_of_no_load hop, ih]

lemma LastLoad.filename_ne {ops : List Operation} (h : LastLoad r ops loaded) :
    loaded.filename ≠ some "" := by
  induction h with
  | before _ _ ih => exact ih
  | now h _ =>
    cases h with
    | text => exact nofun
    | file h =>
      intro hempty
      obtain rfl := Option.some.inj hempty
      obtain ⟨place, hplace⟩ := Disk.exists_resolve_of_readText h
      cases hplace

end Loading

end Operation

/-! ### Compiled scripts -/

namespace Runner

open Operation

/-- What the script of a run is read from, with the path of its file if it has one: the file of the
options, or else the text of the options, or else what was loaded last. -/
inductive Origin (last : Loaded) (o : Options) (disk : Disk) : Loaded → Prop where
  | file {path code : String} (hf : o.filename = some path) (h : disk.readText path = .ok code) :
    Origin last o disk { code, filename := some path }
  | text {code : String} (hf : o.filename = none) (hc : o.code = some code) :
    Origin last o disk { code, filename := none }
  | loaded (hf : o.filename = none) (hc : o.code = none) : Origin last o disk last

section Plans

variable {last source : Loaded} {o : Options} {disk : Disk}

lemma exists_origin_of_scriptFor {vars : Variables} {s : Script}
    (h : scriptFor last o disk vars = .ok s) :
    ∃ source, Origin last o disk source ∧ Script.read source.code vars = .ok s := by
  unfold scriptFor Script.readFrom at h
  split at h
  · next path _ hf =>
    split at h
    · cases h
    · next code hread => exact ⟨_, .file hf hread, h⟩
  · next code hf hc => exact ⟨_, .text hf hc, h⟩
  · next hf hc => exact ⟨_, .loaded hf hc, h⟩

/-- Whether a text in the options stands in for a script that was loaded from a file. -/
def Supplants (o : Options) (last : Loaded) : Prop :=
  o.filename = none ∧ o.code.isSome ∧ last.filename.isSome

/-- The path that a run goes by is the one of its origin unless a text of the options supplants a
file. -/
lemma Origin.scriptPath_eq_iff (h : Origin last o disk source) (hlast : last.filename ≠ some "") :
    (scriptPath last o).getD "" = source.filename.getD "" ↔ ¬Supplants o last := by
  unfold scriptPath Supplants
  cases h with
  | file hf _ => simp [hf]
  | text hf hc => cases hpath : last.filename <;> simp_all
  | loaded hf hc => simp [hf, hc]

/-- **Where the script of a sequence comes from,** after any operations on a new runner. It is read
with the variables that it keeps, from the file or the text of the options or what was loaded last.
Its `__filename__` is the path of the file that it was read from, or empty if it was read from a
text, exactly if no text of the options supplants a file; otherwise it is the path of that file. -/
theorem filename_of_plan (s : Settings) (ops : List Operation) {ctx : RunContext}
    {entry : Host.Entry} {p : Plan}
    (hp : (after ops (.new s)).compile disk ctx entry o = .ok (.plan p)) :
    ∃ last source, (∀ other, LastLoad (.new s) ops other ↔ other = last) ∧
      Origin last o disk source ∧ Script.read source.code p.script.vars = .ok p.script ∧
      (p.script.get? Variables.filenameKey = some [source.filename.getD ""] ↔
        ¬Supplants o last) ∧
      (Supplants o last → ∃ path, last.filename = some path ∧
        p.script.get? Variables.filenameKey = some [path]) := by
  have hcompiles := compiles (after ops (.new s)) disk ctx entry o
  rw [hp] at hcompiles
  cases hcompiles with
  | @plan last address script protocol hl ha hs hscheme =>
    have hlast (other : Loaded) : LastLoad (.new s) ops other ↔ other = last := by
      rw [← script_after_iff rfl, hl, Option.some.injEq, eq_comm]
    have hvars := vars_of_scriptFor hs
    obtain ⟨source, horigin, hread⟩ := exists_origin_of_scriptFor hs
    have hget : script.get? Variables.filenameKey = some [(scriptPath last o).getD ""] := by
      unfold Script.get?
      rw [hvars, variablesOf, Variables.get?_reserve, if_pos rfl]
      rfl
    refine ⟨last, source, hlast, horigin, ?_, ?_, ?_⟩
    · show Script.read source.code script.vars = .ok script
      rw [hvars, hread]
    · show script.get? _ = _ ↔ _
      rw [hget, ← horigin.scriptPath_eq_iff ((hlast last).mpr rfl).filename_ne]
      simp
    · rintro ⟨hf, -, hfile⟩
      obtain ⟨path, hpath⟩ := Option.isSome_iff_exists.mp hfile
      refine ⟨path, hpath, hget.trans ?_⟩
      rw [scriptPath, hf, hpath]
      rfl

/-- A script from a file is loaded after a text, and kept by a load that fails. Options that give
another file have the script read from there. -/
theorem filename_of_plan_after_failed_load :
    let disk := (({} : Disk).withFile "s.tr" (Text.toBytes "show version\n")).withFile "t.tr"
      (Text.toBytes "copy $__filename__\n")
    let entry : Host.Entry := { raw := "r1", queryVars := ∅ }
    let loaded : Loaded := { code := "show version\n", filename := some "s.tr" }
    let ops : List Operation := [.register Host.noAnswers () (.hosts ["r1"]), .load "show clock",
      .loadFile disk "s.tr", .load "show $x"]
    LastLoad (.new {}) ops loaded ∧ ∃ (p p' : Plan),
      (after ops (.new {})).compile disk oneThread entry {} = .ok (.plan p) ∧
        p.script.get? "__filename__" = some ["s.tr"] ∧
      (after ops (.new {})).compile disk oneThread entry { filename := some "t.tr" } =
          .ok (.plan p') ∧
        p'.script.get? "__filename__" = some ["t.tr"] := by
  intro disk entry loaded ops
  have hlast : LastLoad (.new {}) ops loaded :=
    (script_after_iff rfl ops).mp (by decide +kernel)
  obtain ⟨p, hp⟩ := Option.isSome_iff_exists.mp
    (by decide +kernel : ((after ops (.new {})).plan? disk oneThread entry {}).isSome)
  obtain ⟨p', hp'⟩ := Option.isSome_iff_exists.mp (by decide +kernel :
    ((after ops (.new {})).plan? disk oneThread entry { filename := some "t.tr" }).isSome)
  have hp := compile_of_plan? hp
  have hp' := compile_of_plan? hp'
  refine ⟨hlast, _, _, hp, ?_, hp', ?_⟩
  · obtain ⟨last, source, hunique, horigin, -, hiff, -⟩ := filename_of_plan {} ops hp
    obtain rfl := (hunique _).mp hlast
    cases horigin with
    | file hf => cases hf
    | text _ hc => cases hc
    | loaded => exact hiff.mpr fun h => nomatch h.2.1
  · obtain ⟨last, source, hunique, horigin, -, hiff, -⟩ := filename_of_plan {} ops hp'
    cases horigin with
    | file hf =>
      obtain rfl := Option.some.inj hf
      exact hiff.mpr fun h => nomatch h.1
    | text hf => cases hf
    | loaded hf => cases hf

/-- A text of the options that names its file is sent with the path of the file that it
supplants. -/
theorem filename_of_supplanted :
    let disk := ({} : Disk).withFile "s.tr" (Text.toBytes "show version\n")
    let entry : Host.Entry := { raw := "r1", queryVars := ∅ }
    let ops : List Operation :=
      [.register Host.noAnswers () (.hosts ["r1"]), .loadFile disk "s.tr"]
    let o : Options := { code := some "copy $__filename__" }
    ∃ (last source : Loaded) (p : Plan), LastLoad (.new {}) ops last ∧
      (after ops (.new {})).compile disk oneThread entry o = .ok (.plan p) ∧
      Origin last o disk source ∧ Script.read source.code p.script.vars = .ok p.script ∧
      source.filename = none ∧ p.script.get? "__filename__" = some ["s.tr"] ∧
      p.script.commands = .ok ["copy s.tr"] := by
  intro disk entry ops o
  obtain ⟨p, hp, hread, hname, hcommands⟩ :
      ∃ p ∈ (after ops (.new {})).plan? disk oneThread entry o,
      Script.read "copy $__filename__" p.script.vars = .ok p.script ∧
      p.script.get? "__filename__" = some ["s.tr"] ∧ p.script.commands = .ok ["copy s.tr"] := by
    decide +kernel
  exact ⟨{ code := "show version\n", filename := some "s.tr" },
    { code := "copy $__filename__", filename := none }, p,
    (script_after_iff rfl ops).mp (by decide +kernel), compile_of_plan? hp, .text rfl rfl, hread,
    rfl, hname, hcommands⟩

end Plans

end Runner

end FleetScript
