import FleetScript.Proofs.Session.Success
import FleetScript.Session.DryRun
import Mathlib.Data.List.Induction

/-!
Dry runs. No call of a dry run fails, so a session whose script has commands makes all its calls:
it writes down the line of each, reports its commands, and logs the lines. Nothing of this depends
on whether the lines are shown.
-/

namespace FleetScript.DryRun

open Session

/-! ### Calls -/

lemma succeeds_of_mem_replay {s : State} {cs : List Call} {x : Exchange State}
    (h : x ∈ transport.replay s cs) : x.Succeeds := by
  induction cs generalizing s with
  | nil => cases h
  | cons c cs ih =>
    rcases List.mem_cons.mp h with rfl | h
    · exact ⟨_, rfl⟩
    · exact ih h

lemma lines_after (s : State) (cs : List Call) :
    (transport.after s cs).lines = s.lines ++ cs.map lineOf := by
  induction cs using List.reverseRecOn with
  | nil => simp [Transport.after]
  | append_singleton cs c ih =>
    rw [Transport.after_concat, List.map_append, ← List.append_assoc, ← ih]
    rfl

/-- The output of calls of which only the last closes: the lines of all of them. -/
lemma transcript_replay {s : State} {cs : List Call} (h : Call.close ∉ cs) :
    FleetScript.transcript (transport.replay s (cs ++ [Call.close])) =
      transcript (s.lines ++ (cs ++ [Call.close]).map lineOf) := by
  have hnone : FleetScript.transcript (transport.replay s cs) = "" := by
    induction cs using List.reverseRecOn with
    | nil => rfl
    | append_singleton cs c ih =>
      rw [Transport.replay_concat, transcript_concat, ih fun hm => h (List.mem_append_left _ hm)]
      cases c with
      | close => exact absurd (List.mem_append_right _ (List.mem_singleton_self _)) h
      | _ => rfl
  rw [Transport.replay_concat, transcript_concat, hnone, List.map_append, ← List.append_assoc,
    ← lines_after]
  exact String.empty_append

/-! ### Sessions -/

variable {q : Sequence} {commands : List String}

def linesOf (q : Sequence) : List String := (calls q).map lineOf

/-- **A dry run makes all calls.** It reports the commands, leaves the lines of the calls, and
writes them to the log. -/
theorem run_eq (hq : q.commands = .ok commands) (disk : Disk) :
    (run transport q disk).report =
        { host := q.name, commands := commands.length, error := none } ∧
      (run transport q disk).state.lines = linesOf q ∧
      (run transport q disk).disk = match q.log with
        | none => disk
        | some l => (writeLog l.output l.overwrite (transcript (linesOf q)) disk).1 := by
  have hsucceeds : ∀ x ∈ transport.replay transport.opened (calls q), x.Succeeds :=
    fun x => succeeds_of_mem_replay
  have houtput : FleetScript.transcript (transport.replay transport.opened (calls q)) =
      transcript (linesOf q) := by
    rw [linesOf, calls_eq hq, transcript_replay]
    · rfl
    · simp [close_not_mem_opening]
  refine ⟨report_of_succeeds disk hq hsucceeds, ?_, ?_⟩
  · rw [state_of_succeeds disk hq hsucceeds, lines_after]
    rfl
  · have hdisk := disk_of_succeeds disk hq hsucceeds
    rw [houtput] at hdisk
    exact hdisk

end FleetScript.DryRun
