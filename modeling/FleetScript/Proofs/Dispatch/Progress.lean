import FleetScript.Proofs.Dispatch.Steps
import FleetScript.Proofs.Queue.Progress
import FleetScript.Proofs.Runner.Compile
import FleetScript.Session.DryRun

/-!
A dispatch cannot get stuck. Every event leaves less to do, whatever the order of events; and as
long as a host is to come, a sequence is under way, or a report is not collected, some event can
happen. So every dispatch can go on until it is over, and no dispatch goes on for ever.
-/

namespace FleetScript.Dispatch

variable {σ : Type} {r : Runner} {o : Options} {name : String} {t : Transport σ}
  {d d' : Dispatch σ} {e : Event} {threads : Nat} {disk : Disk}

/-! ### The queue of a dispatch -/

/-- Whether a dispatch is over: no host is to come, and all sequences have been joined. -/
structure Over (d : Dispatch σ) : Prop where
  hosts : d.stopped.isSome ∨ d.hosts = []
  tasks : d.queue.tasks = []
  finished : d.queue.finished = []

instance (d : Dispatch σ) : Decidable (Over d) :=
  decidable_of_iff
    ((d.stopped.isSome ∨ d.hosts = []) ∧ d.queue.tasks = [] ∧ d.queue.finished = [])
    ⟨fun ⟨hh, ht, hf⟩ => ⟨hh, ht, hf⟩, fun h => ⟨h.hosts, h.tasks, h.finished⟩⟩

/-- A slot is held for one host at a time, and only while there is one to come. -/
structure Ready (d : Dispatch σ) : Prop where
  balanced : Queue.Balanced d.queue
  workers : 0 < d.queue.workers
  held : d.queue.held = 0 ∨ d.queue.held = 1 ∧ d.stopped = none ∧ d.hosts ≠ []

lemma ready_start (r : Runner) (threads : Nat) (disk : Disk) :
    Ready (start r threads disk : Dispatch σ) where
  balanced := Queue.balanced_new threads
  workers := Nat.lt_of_lt_of_le Nat.one_pos (Nat.le_max_right _ _)
  held := .inl rfl

lemma held_of_isWork {q q' : Queue Sequence} {qe : Queue.Event Sequence}
    (hs : Queue.Step q qe q') (he : qe.isWork = true) : q'.held = q.held := by
  cases hs with
  | move ht hm => cases hm <;> rfl
  | finish | collect => rfl
  | _ => cases he

lemma slotEvent_held {c : Except RunnerError Compiled} {q : Queue Sequence}
    (h : d.queue.step? (slotEvent c) = some q) : q.held = d.queue.held - 1 := by
  unfold slotEvent at h
  split at h
  · cases Queue.step_of_step? h
    rfl
  · cases Queue.step_of_step? h
    rfl

theorem Ready.step (h : Ready d) (hs : Takes r o name t d e d') : Ready d' := by
  -- an event of the queue keeps the balance and the workers, so only the slots held are left
  have hkeep {qe : Queue.Event Sequence} {q : Queue Sequence} (hq : d.queue.step? qe = some q) :
      Queue.Balanced q ∧ 0 < q.workers :=
    have hstep := Queue.step_of_step? hq
    ⟨h.balanced.step hstep, Queue.workers_step hstep ▸ h.workers⟩
  cases hs with
  | reserve hstop hh h0 hq =>
    refine ⟨(hkeep hq).1, (hkeep hq).2, .inr ⟨?_, hstop, hh⟩⟩
    cases Queue.step_of_step? hq
    exact congrArg (· + 1) h0
  | handle _ hstop hh hc hq =>
    refine ⟨(hkeep hq).1, (hkeep hq).2, .inl ?_⟩
    show _ = 0
    rw [slotEvent_held hq]
    have := h.held
    omega
  | run ht hq =>
    exact ⟨(hkeep hq).1, (hkeep hq).2, held_of_isWork (Queue.step_of_step? hq) rfl ▸ h.held⟩
  | move hq =>
    exact ⟨(hkeep hq).1, (hkeep hq).2, held_of_isWork (Queue.step_of_step? hq) rfl ▸ h.held⟩
  | collect hd hf hq =>
    exact ⟨(hkeep hq).1, (hkeep hq).2, held_of_isWork (Queue.step_of_step? hq) rfl ▸ h.held⟩

theorem ready_of_reaches (h : Reaches r o name t (start r threads disk) d) : Ready d := by
  induction h with
  | refl => exact ready_start r threads disk
  | step _ e he ih => exact ih.step (takes_of_step? he)

/-! ### Less to do -/

/-- The events that are still to come: for a host to come two, and nine for its sequence. -/
def left (d : Dispatch σ) : Nat := 11 * d.hosts.length + d.queue.work + (1 - d.queue.held)

lemma left_handled {entry : Host.Entry} {hosts : List Host.Entry}
    {c : Except RunnerError Compiled} {q : Queue Sequence} (hh : d.hosts = entry :: hosts)
    (hq : d.queue.step? (slotEvent c) = some q) :
    11 * hosts.length + q.work + (1 - q.held) < d.left := by
  have hwork : q.work ≤ d.queue.work + 9 := by
    unfold slotEvent at hq
    split at hq
    · cases Queue.step_of_step? hq
      unfold Queue.work
      rw [Queue.tally_submit]
      show _ + Stage.left .waiting + _ ≤ _
      simp only [Stage.left]
      omega
    · cases Queue.step_of_step? hq
      exact Nat.le_add_right _ _
  unfold left
  rw [hh, List.length_cons]
  omega

/-- **Every event leaves less to do.** -/
theorem left_lt (h : Ready d) (hs : Takes r o name t d e d') : d'.left < d.left := by
  have hless {qe : Queue.Event Sequence} {q : Queue Sequence} (hq : d.queue.step? qe = some q)
      (he : qe.isWork = true) : 11 * d.hosts.length + q.work + (1 - q.held) < d.left := by
    have := h.balanced.work_lt (Queue.step_of_step? hq) he
    have := held_of_isWork (Queue.step_of_step? hq) he
    unfold left
    omega
  cases hs with
  | reserve hstop hh h0 hq =>
    cases Queue.step_of_step? hq
    show 11 * d.hosts.length + d.queue.work + (1 - (d.queue.held + 1)) < d.left
    unfold left
    omega
  | handle _ hstop hh hc hq => exact left_handled hh hq
  | run ht hq => exact hless hq rfl
  | move hq => exact hless hq rfl
  | collect hd hf hq => exact hless hq rfl

/-- No more events happen than were to come. -/
theorem length_add_left_le (h : Ready d) {es : List Event}
    (hes : es.foldlM (step? r o name t) d = some d') : es.length + d'.left ≤ d.left := by
  induction es generalizing d with
  | nil =>
    obtain rfl := Option.some.inj hes
    exact (Nat.zero_add _).le
  | cons e es ih =>
    obtain ⟨d₁, hd₁, hes⟩ := Option.bind_eq_some_iff.mp hes
    have htakes := takes_of_step? hd₁
    have hless := left_lt h htakes
    have hrest := ih (h.step htakes) hes
    rw [List.length_cons]
    omega

lemma left_start (r : Runner) (threads : Nat) (disk : Disk) :
    (start r threads disk : Dispatch σ).left = 11 * r.registry.entries.length + 1 := rfl

/-! ### Never stuck -/

lemma exists_step_of_running (r : Runner) (o : Options) (name : String) (t : Transport σ)
    (h : Ready d) {task : Task Sequence} (ht : task ∈ d.queue.tasks)
    (hrun : task.stage = .running) : ∃ d', step? r o name t d (.run task.ticket) = some d' := by
  obtain ⟨q, hq⟩ := Queue.step?_running h.balanced ht hrun
    (.report (Session.run t task.job d.disk).report)
  simp only [step?, run?, h.balanced.task?_ticket ht, queueStep?, hq, Option.map_some]
  exact ⟨_, rfl⟩

lemma exists_step_of_task (r : Runner) (o : Options) (name : String) (t : Transport σ)
    (h : Ready d) {task : Task Sequence} (ht : task ∈ d.queue.tasks) :
    ∃ e d', step? r o name t d e = some d' := by
  rcases h.balanced.exists_move_or_running h.workers ht with ⟨n, m, q, hq⟩ | ⟨u, hu, hrun⟩
  · exact ⟨.move n m, _, congrArg (Option.map _) hq⟩
  · exact ⟨_, exists_step_of_running r o name t h hu hrun⟩

lemma exists_step_of_held (r : Runner) (o : Options) (name : String) (t : Transport σ)
    (hs : d.stopped = none) (hh : d.hosts ≠ []) (h : 0 < d.queue.held) :
    ∃ d', step? r o name t d .handle = some d' := by
  obtain ⟨entry, hosts, hh⟩ := List.exists_cons_of_ne_nil hh
  have hpos := Nat.ne_of_gt h
  simp only [step?, handle?, hs, hh, hpos, if_false]
  split
  all_goals
    simp only [queueStep?, Queue.step?, h, if_true, Option.map_some]
    exact ⟨_, rfl⟩

lemma exists_step_of_free (r : Runner) (o : Options) (name : String) (t : Transport σ)
    (h : Ready d) (hs : d.stopped = none) (hh : d.hosts ≠ []) (h0 : d.queue.held = 0)
    (hf : 0 < d.queue.slots.free) : ∃ d', step? r o name t d .reserve = some d' := by
  simp [step?, hs, hh, h0, queueStep?, Queue.step?, Semaphore.take?, hf, h.balanced.slots_open]

lemma exists_step_of_finished (r : Runner) (o : Options) (name : String) (t : Transport σ)
    (hd : d.stopped.isSome ∨ d.hosts = []) (hf : d.queue.finished ≠ []) :
    ∃ d', step? r o name t d .collect = some d' := by
  have hcond : (d.stopped.isNone && !d.hosts.isEmpty) = false := by
    rcases hd with hs | hh
    · simp [Option.isSome_iff_ne_none.mp hs]
    · simp [hh]
  obtain ⟨x, rest, hf⟩ := List.exists_cons_of_ne_nil hf
  simp only [step?, collect?, hcond, hf, queueStep?, Queue.step?]
  exact ⟨_, rfl⟩

/-- **A dispatch to which nothing can happen is over.** -/
theorem over_of_stuck (h : Ready d) (hstuck : ∀ e, step? r o name t d e = none) : Over d := by
  have hnever {e : Event} (he : ∃ d', step? r o name t d e = some d') : False := by
    obtain ⟨d', he⟩ := he
    rw [hstuck e] at he
    cases he
  have htasks : d.queue.tasks = [] := by
    by_contra hne
    obtain ⟨task, ht⟩ := List.exists_mem_of_ne_nil _ hne
    obtain ⟨e, he⟩ := exists_step_of_task r o name t h ht
    exact hnever he
  have hhosts : d.stopped.isSome ∨ d.hosts = [] := by
    by_contra hno
    obtain ⟨hs, hh⟩ := not_or.mp hno
    have hs : d.stopped = none := by simpa using hs
    rcases h.held with h0 | ⟨h1, -⟩
    · -- no task holds a slot, so one is free
      have hslots := h.balanced.slots
      have hworkers := h.workers
      have htally : d.queue.tally (fun _ s => s.holdsSlot.toNat) = 0 := by
        simp [Queue.tally, htasks]
      exact hnever (exists_step_of_free r o name t h hs hh h0 (by omega))
    · exact hnever (exists_step_of_held r o name t hs hh (by omega))
  refine ⟨hhosts, htasks, ?_⟩
  by_contra hne
  exact hnever (exists_step_of_finished r o name t hhosts hne)

lemma Reaches.trans {d'' : Dispatch σ} (h : Reaches r o name t d d')
    (h' : Reaches r o name t d' d'') : Reaches r o name t d d'' := by
  induction h' with
  | refl => exact h
  | step _ e he ih => exact ih.step e he

lemma reaches_of_foldlM {es : List Event} (h : es.foldlM (step? r o name t) d = some d') :
    Reaches r o name t d d' := by
  induction es generalizing d with
  | nil => exact Option.some.inj h ▸ .refl
  | cons e es ih =>
    obtain ⟨d₁, hd₁, h⟩ := Option.bind_eq_some_iff.mp h
    exact (Reaches.refl.step e hd₁).trans (ih h)

/-- The events that handle a number of hosts, with a slot free for each of them. -/
def handleEvents (hosts : Nat) : List Event :=
  (List.replicate hosts [Event.reserve, .handle]).flatten

def taskEvents (n : Nat) : List Event :=
  [.move n .enter, .move n .launch, .run n, .move n .release, .move n .announce, .move n .uncount,
    .move n .free, .move n .complete]

def dryRun (r : Runner) (o : Options) (threads : Nat) (disk : Disk) (es : List Event) :
    Option (Dispatch DryRun.State) :=
  es.foldlM (step? r o "tool" DryRun.transport) (start r threads disk)

lemma reaches_of_dryRun {threads : Nat} {disk : Disk} {es : List Event}
    {d : Dispatch DryRun.State} (h : dryRun r o threads disk es = some d) :
    Reaches r o "tool" DryRun.transport (start r threads disk) d :=
  reaches_of_foldlM h

/-- **Every dispatch can go on until it is over.** -/
theorem exists_over (h : Ready d) : ∃ d', Reaches r o name t d d' ∧ Over d' := by
  induction hn : d.left using Nat.strong_induction_on generalizing d with
  | h n ih =>
    by_cases hstuck : ∀ e, step? r o name t d e = none
    · exact ⟨d, .refl, over_of_stuck h hstuck⟩
    · obtain ⟨e, he⟩ := not_forall.mp hstuck
      obtain ⟨d₁, hd₁⟩ := Option.ne_none_iff_exists'.mp he
      have htakes := takes_of_step? hd₁
      obtain ⟨d', hreach, hover⟩ := ih _ (hn ▸ left_lt h htakes) (h.step htakes) rfl
      exact ⟨d', (Reaches.refl.step e hd₁).trans hreach, hover⟩

end FleetScript.Dispatch
