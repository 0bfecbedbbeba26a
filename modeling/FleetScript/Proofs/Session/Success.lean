import FleetScript.Proofs.Session.Course

/-!
Sessions none of whose calls fails. If a transport answers all calls of a sequence well, then the
session makes them all, no more and no fewer: it is not refused, breaks off nowhere, and has nothing
left to close. Its report and its transport are then those of the calls made one after another.
-/

namespace FleetScript

/-! ### Calls made one after another -/

namespace Transport

variable {σ : Type} (t : Transport σ)

lemma replay_append (s : σ) (before rest : List Call) :
    t.replay s (before ++ rest) = t.replay s before ++ t.replay (t.after s before) rest := by
  induction before generalizing s with
  | nil => rfl
  | cons c before ih => exact congrArg (_ :: ·) (ih _)

lemma map_call_replay (s : σ) (cs : List Call) : (t.replay s cs).map Exchange.call = cs := by
  induction cs generalizing s with
  | nil => rfl
  | cons c cs ih => exact congrArg (_ :: ·) (ih _)

/-- Exchanges that were had one after another are found among those of more calls. -/
lemma mem_replay_of_initial {s : σ} {xs : List (Exchange σ)} {cs : List Call}
    (hreplayed : t.replay s (xs.map Exchange.call) = xs) (hbegins : xs.map Exchange.call <+: cs)
    {x : Exchange σ} (hx : x ∈ xs) : x ∈ t.replay s cs := by
  obtain ⟨rest, rfl⟩ := hbegins
  rw [replay_append, hreplayed]
  exact List.mem_append_left _ hx

lemma replayed_of_append {s : σ} {xs ys : List (Exchange σ)}
    (h : t.replay s ((xs ++ ys).map Exchange.call) = xs ++ ys) :
    t.replay s (xs.map Exchange.call) = xs := by
  rw [List.map_append, replay_append] at h
  refine (List.append_inj h ?_).1
  have hcalls := congrArg List.length (t.map_call_replay s (xs.map Exchange.call))
  simpa using hcalls

end Transport

namespace Session

/-! ### Commands -/

def isCommand : Call → Bool
  | .execute _ => true
  | _ => false

section Commands

variable {q : Sequence} {commands : List String}

lemma calls_eq (hq : q.commands = .ok commands) :
    calls q = opening q ++ commands.map .execute ++ [.close] := by
  unfold calls
  rw [hq, List.append_assoc]

lemma filter_isCommand_opening (q : Sequence) : (opening q).filter isCommand = [] := by
  unfold opening
  cases q.authentication <;> rfl

lemma filter_isCommand_execute (commands : List String) :
    (commands.map Call.execute).filter isCommand = commands.map Call.execute :=
  List.filter_eq_self.mpr (List.forall_mem_map.mpr fun _ _ => rfl)

lemma close_not_mem_opening (q : Sequence) : Call.close ∉ opening q := by
  unfold opening
  cases q.authentication <;> simp

lemma sent_of_succeeds {σ : Type} {xs : List (Exchange σ)} (h : ∀ x ∈ xs, x.Succeeds) :
    sent xs = ((xs.map Exchange.call).filter isCommand).length := by
  have hsame : ∀ x ∈ xs, x.isSent = (isCommand ∘ Exchange.call) x := by
    intro x hx
    obtain ⟨text, htext⟩ := h x hx
    unfold Exchange.isSent isCommand Function.comp
    rw [htext]
    cases x.call <;> rfl
  unfold sent
  rw [List.filter_congr hsame, List.filter_map, List.length_map]

end Commands

/-! ### Whole sessions -/

section Run

variable {σ : Type} {t : Transport σ} {q : Sequence} {commands : List String}

/-- A session all calls of which would succeed comes to its end with no failure, and has made
exactly these calls. -/
lemma agrees_of_succeeds (hq : q.commands = .ok commands)
    (h : ∀ x ∈ t.replay t.opened (calls q), x.Succeeds) :
    (perform t (steps q) {}).1 = none ∧
      Agrees t (perform t (steps q) {}).2 (t.replay t.opened (calls q)) := by
  obtain ⟨xs, ha, hc⟩ := course_of_perform t q
  -- no call of the course has failed, as it would not have in the replay
  have hnever : ∀ (ys zs : List (Exchange σ)) {y : Exchange σ} {e : TransportError},
      xs = ys ++ zs → ys.map Exchange.call <+: calls q → y ∈ ys → y.reply.result ≠ .error e := by
    intro ys zs y e hxs hbegins hy he
    have hreplayed := ha.replayed
    rw [hxs] at hreplayed
    obtain ⟨text, htext⟩ := h y
      (t.mem_replay_of_initial (t.replayed_of_append hreplayed) hbegins hy)
    rw [he] at htext
    cases htext
  generalize hr : perform t (steps q) {} = r at ha hc
  obtain ⟨failure, p⟩ := r
  generalize herror : failure.map Failure.message = error at hc
  cases hc with
  | finished _ hcalls _ =>
    obtain rfl := Option.map_eq_none_iff.mp herror
    rw [← hcalls, ha.replayed]
    exact ⟨rfl, ha⟩
  | @refused x e hcall he =>
    refine absurd he (hnever [x] [] rfl ?_ (List.mem_singleton_self x))
    rw [List.map_singleton, hcall]
    exact (List.prefix_append _ _).trans (List.prefix_append (opening q) _)
  | @broken ys x y e _ hbegins _ he _ =>
    refine absurd he (hnever (ys ++ [x]) [y] ?_ ?_ (by simp))
    · rw [List.append_assoc]
      rfl
    · rwa [List.map_append]
  | unscripted hq' =>
    rw [hq] at hq'
    cases hq'

variable (disk : Disk)

/-- **A session none of whose calls fails reports all its commands.** -/
theorem report_of_succeeds (hq : q.commands = .ok commands)
    (h : ∀ x ∈ t.replay t.opened (calls q), x.Succeeds) :
    (run t q disk).report = { host := q.name, commands := commands.length, error := none } := by
  obtain ⟨hfailure, ha⟩ := agrees_of_succeeds hq h
  have hcommands : (perform t (steps q) {}).2.commands = commands.length := by
    rw [ha.commands, sent_of_succeeds h, t.map_call_replay, calls_eq hq, List.filter_append,
      List.filter_append, filter_isCommand_opening, filter_isCommand_execute]
    simp [isCommand]
  show Report.mk q.name (ended t (perform t (steps q) {})).commands
    ((perform t (steps q) {}).1.map Failure.message) = _
  unfold ended
  rw [hfailure]
  exact congrArg (Report.mk q.name · none) hcommands

theorem state_of_succeeds (hq : q.commands = .ok commands)
    (h : ∀ x ∈ t.replay t.opened (calls q), x.Succeeds) :
    (run t q disk).state = t.after t.opened (calls q) := by
  obtain ⟨hfailure, ha⟩ := agrees_of_succeeds hq h
  show ((ended t (perform t (steps q) {})).deeds.filterMap Deed.state?).getLast?.getD t.opened = _
  unfold ended
  rw [hfailure]
  refine ha.state.trans ?_
  rw [t.map_call_replay]

theorem disk_of_succeeds (hq : q.commands = .ok commands)
    (h : ∀ x ∈ t.replay t.opened (calls q), x.Succeeds) :
    (run t q disk).disk = match q.log with
      | none => disk
      | some l =>
        (writeLog l.output l.overwrite (transcript (t.replay t.opened (calls q))) disk).1 := by
  obtain ⟨hfailure, ha⟩ := agrees_of_succeeds hq h
  show (match q.log with
    | none => (disk, [])
    | some l => writeLogs l (logTexts (ended t (perform t (steps q) {})).output
        ((perform t (steps q) {}).1.map Failure.message)) disk).1 = _
  unfold ended
  rw [hfailure]
  simp only [Option.isSome_none, Bool.false_eq_true, if_false]
  rw [ha.output]
  cases q.log <;> rfl

end Run

end Session

end FleetScript
