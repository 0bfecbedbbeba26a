import FleetScript.Proofs.Runner.Framing
import FleetScript.Proofs.Script.Commands
import FleetScript.Proofs.Session.Course
import FleetScript.Proofs.Session.Logs

/-!
Scripts that do not fail once they have been read. A script has commands if it is `Closed`: every
name in its lines has a list of values, if only an empty one. Reading a script closes it, and no
change to its variables opens it again. So the script of a plan is no reason for a session to fail
after it has connected and logged in: what fails there is a call on the transport
(`no_script_failure`).
-/

namespace FleetScript

/-! ### Closed scripts -/

namespace Script

/-- Whether every name in the lines of a script has a list of values. -/
def Closed (s : Script) : Prop := ∀ l ∈ s.lines, ∀ name ∈ l.names, s.vars.contains name = true

lemma exists_renderLine_iff {vars : Variables} {l : Line} :
    (∃ cs, renderLine vars l = .ok cs) ↔ ∀ name ∈ l.names, vars.contains name = true := by
  constructor
  · rintro ⟨cs, hcs⟩ name hname
    by_contra hno
    unfold renderLine at hcs
    split at hcs
    · cases hcs
    · next hfind =>
      have hdefined := List.find?_eq_none.mp hfind name hname
      simp only [Bool.not_eq_true', Bool.not_eq_false] at hdefined
      exact hno hdefined
  · exact fun h => ⟨_, renderLine_of_defined h⟩

variable {s : Script}

/-- **A script has commands if it is closed,** and only then. -/
theorem exists_commands_iff : (∃ commands, s.commands = .ok commands) ↔ s.Closed := by
  have hmap : (∃ commands, s.commands = .ok commands) ↔
      ∃ groups, s.lines.mapM (renderLine s.vars) = .ok groups := by
    unfold commands
    cases s.lines.mapM (renderLine s.vars) <;> simp [Except.map]
  rw [hmap, exists_mapM_eq_ok_iff]
  simp only [exists_renderLine_iff]
  rfl

lemma Closed.edited (h : s.Closed) (edits : List Edit) : (s.edited edits).Closed := by
  rw [edited_eq]
  exact fun l hl name hname => contains_foldl_on (h l hl name hname) edits

lemma closed_of_read {text : String} {vars : Variables} (h : read text vars = .ok s) : s.Closed :=
  defined_of_read h

end Script

/-! ### Failures of sessions -/

namespace Session

lemma head?_toList_append {s : String} {c : Char} (h : s.toList.head? = some c) (t : String) :
    (s ++ t).toList.head? = some c := by
  rw [String.toList_append, List.head?_append, h]
  rfl

/-- No text of a failed call reads like that of a failed script. -/
lemma message_ne_script (e : TransportError) (message : String) :
    e.message ≠ (Failure.script message).message := by
  intro h
  have hscript : (Failure.script message).message.toList.head? = some 'S' :=
    head?_toList_append (by decide) _
  have hcall : e.message.toList.head? ≠ some 'S' := by
    cases e with
    | spawn client reason =>
      show ("Failed to spawn " ++ client ++ ": " ++ reason).toList.head? ≠ _
      rw [String.append_assoc, String.append_assoc, head?_toList_append (c := 'F') (by decide)]
      decide
    | connectionFailed host reason =>
      show ("Connection to " ++ host ++ " failed: " ++ reason).toList.head? ≠ _
      rw [String.append_assoc, String.append_assoc, head?_toList_append (c := 'C') (by decide)]
      decide
    | authFailed host =>
      show ("Authentication failed for " ++ host).toList.head? ≠ _
      rw [head?_toList_append (c := 'A') (by decide)]
      decide
    | notConnected => decide
  exact hcall (h ▸ hscript)

section Run

variable {σ : Type} (t : Transport σ) {q : Sequence} {xs : List (Exchange σ)}
  {error : Option String}

/-- Whether an error is the text of a call that failed, or there is none. -/
def ByCall (xs : List (Exchange σ)) (error : Option String) : Prop :=
  error = none ∨ ∃ x ∈ xs, ∃ e, x.reply.result = .error e ∧ error = some e.message

lemma byCall_of_course (h : Course q xs error) {commands : List String}
    (hq : q.commands = .ok commands) : ByCall xs error := by
  cases h with
  | finished => exact .inl rfl
  | refused hc he => exact .inr ⟨_, by simp, _, he, rfl⟩
  | broken h0 hc hx he hy => exact .inr ⟨_, by simp, _, he, rfl⟩
  | unscripted hno =>
    rw [hq] at hno
    cases hno

/-- A session with commands fails by a call on its transport, if it fails. -/
theorem byCall_of_commands {commands : List String} (hq : q.commands = .ok commands)
    (disk : Disk) : ∃ xs, (run t q disk).deeds = .opened :: xs.map .made ∧
      ByCall xs (run t q disk).report.error := by
  obtain ⟨xs, hagrees, hcourse⟩ := course_of_perform t q
  exact ⟨xs, hagrees.deeds, byCall_of_course hcourse hq⟩

lemma ByCall.ne_script (h : ByCall xs error) (message : String) :
    error ≠ some (Failure.script message).message := by
  rcases h with rfl | ⟨x, -, e, -, rfl⟩
  · exact nofun
  · exact fun he => message_ne_script e message (Option.some.inj he)

end Run

end Session

/-! ### Plans -/

namespace Runner

open Session

/-- **A script that has been read has commands, whatever becomes of its variables:** no line of it
comes to a name without values. So no session of a plan fails by its script: there is no error, or
it is the text of a call on the transport that failed. -/
theorem no_script_failure :
    (∀ text vars s, Script.read text vars = .ok s → ∀ edits : List Script.Edit,
      (∀ l ∈ (s.edited edits).lines, ∃ cs, Script.renderLine (s.edited edits).vars l = .ok cs) ∧
        ∃ commands, (s.edited edits).commands = .ok commands) ∧
    ∀ (r : Runner) disk ctx entry o p, r.compile disk ctx entry o = .ok (.plan p) →
      ∀ (edits : List Script.Edit) {σ : Type} (t : Transport σ) (disk' : Disk),
        let q := ({ p with script := p.script.edited edits } : Plan).sequence
        ∃ xs, (run t q disk').deeds = .opened :: xs.map .made ∧
          ByCall xs (run t q disk').report.error ∧
          ∀ message, (run t q disk').report.error ≠ some (Failure.script message).message := by
  have hclosed {text vars s} (h : Script.read text vars = .ok s) (edits : List Script.Edit) :
      (s.edited edits).Closed := (Script.closed_of_read h).edited edits
  constructor
  · intro text vars s h edits
    exact ⟨fun l hl => Script.exists_renderLine_iff.mpr (hclosed h edits l hl),
      Script.exists_commands_iff.mpr (hclosed h edits)⟩
  · intro r disk ctx entry o p hp edits σ t disk' q
    obtain ⟨text, vars, hread⟩ := exists_read_of_plan hp
    obtain ⟨commands, hcommands⟩ := Script.exists_commands_iff.mpr (hclosed hread edits)
    have hq : q.commands = .ok commands := by
      show (p.script.edited edits).commands.mapError _ = _
      rw [hcommands]
      rfl
    obtain ⟨xs, hdeeds, hcall⟩ := byCall_of_commands t hq disk'
    exact ⟨xs, hdeeds, hcall, hcall.ne_script⟩

/-- The values of a variable go away once the script has been read, and the host gives no answer. -/
theorem no_script_failure_without_values :
    let s : Script := { lines := [⟨1, [.ref "port"]⟩], vars := .ofList [("port", ["ge0"])] }
    let entry : Host.Entry := { raw := "r1", queryVars := .ofList [("port", ["ge0"])] }
    let edits : List Script.Edit := [.define "port" []]
    Script.read "$port" (.ofList [("port", ["ge0"])]) = .ok s ∧
      (s.edited edits).vars.get? "port" = some [] ∧
      (∃ commands, (s.edited edits).commands = .ok commands) ∧
      ∃ (r : Runner) (ctx : RunContext) (p : Plan),
        r.compile {} ctx entry {} = .ok (.plan p) ∧
        let q := ({ p with script := p.script.edited edits } : Plan).sequence
        (run unanswered q {}).report.error = some "Not connected" ∧
          ∃ xs, (run unanswered q {}).deeds = .opened :: xs.map .made ∧
            ByCall xs (run unanswered q {}).report.error := by
  intro s entry edits
  let r : Runner := .ofHosts [entry] "$port"
  obtain ⟨p, hp, herror⟩ : ∃ p ∈ r.plan? {} oneThread entry {},
      let q := ({ p with script := p.script.edited edits } : Plan).sequence
      (run unanswered q {}).report.error = some "Not connected" := by
    decide +kernel
  have hp := compile_of_plan? hp
  have hread : Script.read "$port" (.ofList [("port", ["ge0"])]) = .ok s := by decide +kernel
  obtain ⟨xs, hdeeds, hcall, -⟩ := no_script_failure.2 r {} oneThread entry {} p hp edits
    unanswered {}
  exact ⟨hread, by decide +kernel, (no_script_failure.1 _ _ s hread edits).2, r, oneThread, p, hp,
    herror, xs, hdeeds, hcall⟩

end Runner

end FleetScript
