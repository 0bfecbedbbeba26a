import FleetScript.Proofs.Dispatch.Progress
import FleetScript.Proofs.Queue.Joining

/-!
The order of events that is carried out comes to an end. The event that is chosen can always happen,
and none is chosen only if the dispatch is over. As every event leaves less to do, the number of
events that is allowed is enough, whatever the hosts compile to.
-/

namespace FleetScript

/-! ### Queues at rest -/

namespace Queue

variable {α : Type} {q : Queue α}

/-- No task can go on: none waits for nothing, none waits while a permit is free, and none runs. -/
structure AtRest (q : Queue α) : Prop where
  due : ∀ task ∈ q.tasks, task.stage.due? = none
  waiting : 0 < q.permits.free → ∀ task ∈ q.tasks, task.stage ≠ .waiting
  running : ∀ task ∈ q.tasks, task.stage ≠ .running

lemma Balanced.tasks_eq_nil (hb : Balanced q) (hw : 0 < q.workers) (h : AtRest q) :
    q.tasks = [] := by
  have hwaits : ∀ task ∈ q.tasks, task.stage = .waiting := by
    intro task ht
    have hdue := h.due task ht
    have hrun := h.running task ht
    cases hs : task.stage with
    | waiting => rfl
    | running => exact absurd hs hrun
    | _ =>
      rw [hs] at hdue
      cases hdue
  by_contra hne
  obtain ⟨task, ht⟩ := List.exists_mem_of_ne_nil _ hne
  have hfree : 0 < q.permits.free := hb.permits_free hw fun u hu => by rw [hwaits u hu]; rfl
  exact h.waiting hfree task ht (hwaits task ht)

end Queue

namespace Dispatch

variable {σ : Type} {r : Runner} {o : Options} {name : String} {t : Transport σ}
  {d d' : Dispatch σ} {e : Event} {threads : Nat} {disk : Disk}

/-! ### The event that is chosen -/

/-- No host can be handled: none is to come, or no slot is free. -/
def HostsRest (d : Dispatch σ) : Prop :=
  d.stopped.isSome ∨ d.hosts = [] ∨ d.queue.held = 0 ∧ d.queue.slots.free = 0

/-- The event that is chosen in a state, and what it is chosen for. -/
inductive Chosen (d : Dispatch σ) : Option Event → Prop where
  | due {task : Task Sequence} {m : Move} (ht : task ∈ d.queue.tasks)
    (hm : task.stage.due? = some m) : Chosen d (some (.move task.ticket m))
  | handle (hs : d.stopped = none) (hh : d.hosts ≠ []) (hheld : d.queue.held ≠ 0) :
    Chosen d (some .handle)
  | reserve (hs : d.stopped = none) (hh : d.hosts ≠ []) (h0 : d.queue.held = 0)
    (hf : 0 < d.queue.slots.free) : Chosen d (some .reserve)
  | enter {task : Task Sequence} (hf : 0 < d.queue.permits.free) (ht : task ∈ d.queue.tasks)
    (hs : task.stage = .waiting) : Chosen d (some (.move task.ticket .enter))
  | run {task : Task Sequence} (ht : task ∈ d.queue.tasks) (hs : task.stage = .running) :
    Chosen d (some (.run task.ticket))
  | collect (hq : d.queue.AtRest) (hh : HostsRest d) (hf : d.queue.finished ≠ []) :
    Chosen d (some .collect)
  | nothing (hq : d.queue.AtRest) (hh : HostsRest d) (hf : d.queue.finished = []) : Chosen d none

lemma chosen_or_hostsRest (d : Dispatch σ) {e? : Option Event}
    (he : (if d.stopped.isSome || d.hosts.isEmpty then none
      else if d.queue.held ≠ 0 then some Event.handle
      else if 0 < d.queue.slots.free then some .reserve
      else none) = e?) : (∃ e, e? = some e ∧ Chosen d (some e)) ∨ e? = none ∧ HostsRest d := by
  subst he
  by_cases hdone : d.stopped.isSome || d.hosts.isEmpty
  · rw [if_pos hdone]
    simp only [Bool.or_eq_true, List.isEmpty_iff] at hdone
    exact .inr ⟨rfl, hdone.imp_right .inl⟩
  · rw [if_neg hdone]
    simp only [Bool.or_eq_true, List.isEmpty_iff, not_or, Bool.not_eq_true,
      Option.isSome_eq_false_iff, Option.isNone_iff_eq_none] at hdone
    obtain ⟨hs, hh⟩ := hdone
    split
    · next hheld => exact .inl ⟨_, rfl, .handle hs hh hheld⟩
    · next hheld =>
      have h0 : d.queue.held = 0 := not_not.mp hheld
      split
      · next hf => exact .inl ⟨_, rfl, .reserve hs hh h0 hf⟩
      · next hf => exact .inr ⟨rfl, .inr (.inr ⟨h0, Nat.eq_zero_of_not_pos hf⟩)⟩

theorem chosen (d : Dispatch σ) : Chosen d d.next? := by
  unfold next?
  cases hdue : d.queue.tasks.findSome? fun task =>
      task.stage.due?.map fun m => Event.move task.ticket m with
  | some e =>
    -- a task that waits for nothing comes first
    obtain ⟨task, ht, he⟩ := List.exists_of_findSome?_eq_some hdue
    obtain ⟨m, hm, rfl⟩ := Option.map_eq_some_iff.mp he
    exact .due ht hm
  | none =>
  rw [Option.none_or]
  -- then the hosts, as long as a slot is free
  rcases chosen_or_hostsRest d rfl with ⟨e, he, hchosen⟩ | ⟨he, hrest⟩
  · rw [he]
    exact hchosen
  rw [he, Option.none_or]
  cases hwaiting : (if 0 < d.queue.permits.free then
      (d.queue.tasks.find? (·.stage = .waiting)).map fun task => Event.move task.ticket .enter
    else none) with
  | some e =>
    -- then a task gets a permit
    obtain ⟨hf, he⟩ := Option.ite_none_right_eq_some.mp hwaiting
    obtain ⟨task, htask, rfl⟩ := Option.map_eq_some_iff.mp he
    exact .enter hf (List.mem_of_find?_eq_some htask) (by simpa using List.find?_some htask)
  | none =>
  rw [Option.none_or]
  cases hrunning : d.queue.tasks.find? (·.stage = .running) with
  | some task =>
    -- then a sequence is run
    exact .run (List.mem_of_find?_eq_some hrunning) (by simpa using List.find?_some hrunning)
  | none =>
  rw [Option.map_none, Option.none_or]
  -- what is left is a queue at rest, and perhaps reports to collect
  have hq : d.queue.AtRest := by
    refine ⟨fun task ht => ?_, fun hf task ht => ?_, fun task ht => ?_⟩
    · simpa using List.findSome?_eq_none_iff.mp hdue task ht
    · rw [if_pos hf, Option.map_eq_none_iff] at hwaiting
      simpa using List.find?_eq_none.mp hwaiting task ht
    · simpa using List.find?_eq_none.mp hrunning task ht
  split
  · next hf => exact .nothing hq hrest (List.isEmpty_iff.mp hf)
  · next hf => exact .collect hq hrest fun hnil => hf (List.isEmpty_iff.mpr hnil)

/-- When no task can go on and no host can be handled, no host is to come. -/
lemma Ready.hosts_done (h : Ready d) (hq : d.queue.AtRest) (hh : HostsRest d) :
    d.stopped.isSome ∨ d.hosts = [] := by
  rcases hh with hs | hh | ⟨h0, hf⟩
  · exact .inl hs
  · exact .inr hh
  · -- a queue without tasks has free slots
    have hslots := h.balanced.slots
    have hworkers := h.workers
    rw [Queue.tally_of_no_tasks (h.balanced.tasks_eq_nil h.workers hq)] at hslots
    omega

lemma over_of_next? (h : Ready d) (hnext : d.next? = none) : Over d := by
  have hchosen := chosen d
  rw [hnext] at hchosen
  cases hchosen with
  | nothing hq hh hf => exact ⟨h.hosts_done hq hh, h.balanced.tasks_eq_nil h.workers hq, hf⟩

lemma exists_step_of_next? (r : Runner) (o : Options) (name : String) (t : Transport σ)
    (h : Ready d) (hnext : d.next? = some e) : ∃ d', step? r o name t d e = some d' := by
  have hchosen := chosen d
  rw [hnext] at hchosen
  cases hchosen with
  | due ht hm =>
    obtain ⟨q, hq⟩ := Queue.step?_due h.balanced ht hm
    exact ⟨_, congrArg (Option.map _) hq⟩
  | handle hs hh hheld =>
    exact exists_step_of_held r o name t hs hh (Nat.pos_of_ne_zero hheld)
  | reserve hs hh h0 hf => exact exists_step_of_free r o name t h hs hh h0 hf
  | enter hf ht hs =>
    obtain ⟨q, hq⟩ := Queue.step?_enter h.balanced ht hs hf
    exact ⟨_, congrArg (Option.map _) hq⟩
  | run ht hs => exact exists_step_of_running r o name t h ht hs
  | collect hq hh hf => exact exists_step_of_finished r o name t (h.hosts_done hq hh) hf

/-! ### The whole order -/

lemma reaches_proceed (n : Nat) (d : Dispatch σ) :
    Reaches r o name t d (proceed r o name t n d) := by
  induction n generalizing d with
  | zero => exact .refl
  | succ n ih =>
    unfold proceed
    split
    · next d' h =>
      obtain ⟨e, -, he⟩ := Option.bind_eq_some_iff.mp h
      exact (Reaches.refl.step e he).trans (ih d')
    · exact .refl

/-- Where one event is left at most, none is: hosts to come have more, and so have tasks. -/
lemma over_of_left_le_one (h : Ready d) (hleft : d.left ≤ 1) : Over d := by
  unfold left at hleft
  have hhosts : d.hosts = [] := List.length_eq_zero_iff.mp (by omega)
  have hheld : d.queue.held = 0 := by
    rcases h.held with h0 | ⟨-, -, hne⟩
    · exact h0
    · exact absurd hhosts hne
  have hwork : d.queue.work = 0 := by omega
  unfold Queue.work at hwork
  refine ⟨.inr hhosts, ?_, List.length_eq_zero_iff.mp (by omega)⟩
  by_contra hne
  obtain ⟨task, ht⟩ := List.exists_mem_of_ne_nil _ hne
  have hle := Queue.le_tally ht fun _ s => s.left
  have hpos : 0 < task.stage.left := by
    cases task.stage <;> exact Nat.succ_pos _
  omega

lemma over_proceed (n : Nat) (h : Ready d) (hleft : d.left ≤ n + 1) :
    Over (proceed r o name t n d) := by
  induction n generalizing d with
  | zero => exact over_of_left_le_one h hleft
  | succ n ih =>
    unfold proceed
    cases hnext : d.next? with
    | none => exact over_of_next? h hnext
    | some e =>
      obtain ⟨d', hd'⟩ := exists_step_of_next? r o name t h hnext
      have htakes := takes_of_step? hd'
      have hless := left_lt h htakes
      rw [Option.bind_some, hd']
      exact ih (h.step htakes) (by omega)

/-- **The order that is carried out comes to the end of the dispatch**, for every runner, transport
and number of threads. -/
theorem reaches_complete (r : Runner) (o : Options) (name : String) (t : Transport σ)
    (threads : Nat) (disk : Disk) :
    Reaches r o name t (start r threads disk) (complete r o name t threads disk) ∧
      Over (complete r o name t threads disk) := by
  refine ⟨reaches_proceed _ _, over_proceed _ (ready_start r threads disk) ?_⟩
  show 11 * r.registry.entries.length + 0 + (1 - 0) ≤ _
  omega

end Dispatch

end FleetScript
