import FleetScript.Proofs.Dispatch.Handling

/-!
What a dispatch waits for. Its hosts may be dispatched to a queue that is in use, as long as nobody
else holds a slot of it. Then the dispatch waits for a slot only while all slots are with submitted
sequences that have not come to their end, and one of these can go on by itself: if none has a
permit, all permits are free, and there is at least one. So the two semaphores never block each
other, and some event can happen until all is done.
-/

namespace FleetScript

open Session

/-! ### Tasks that can go on -/

namespace Queue

variable {α : Type} {q p : Queue α} {n : Nat} {task : Task α}

/-- The moves by which a task whose run has ended comes to free its slot. -/
def movesToFree : Stage → List Move
  | .returned _ => [.release, .announce, .uncount, .free]
  | .released _ => [.announce, .uncount, .free]
  | .announced _ => [.uncount, .free]
  | .uncounted _ => [.free]
  | _ => []

/-- A task that holds a slot and can go on. It takes a permit that is free, starts to run with the
permit it has, runs and may end in any way, or has ended and frees its slot by moves of its own. -/
inductive GoesOn (q : Queue α) (task : Task α) : Prop where
  | enters {q' : Queue α} (hs : task.stage = .waiting) (hf : 0 < q.permits.free)
    (h : q.step? (.move task.ticket .enter) = some q')
  | launches {q' : Queue α} (hs : task.stage = .entered)
    (h : q.step? (.move task.ticket .launch) = some q')
  | runs (hs : task.stage = .running)
    (h : ∀ ending, ∃ q', q.step? (.finish task.ticket ending) = some q')
  | frees {q' : Queue α} (hr : task.stage.hasReport = true)
    (h : q.run? ((movesToFree task.stage).map (.move task.ticket)) = some q')
    (hf : q'.slots.free = q.slots.free + 1)

lemma run?_cons (q : Queue α) (e : Event α) (es : List (Event α)) :
    q.run? (e :: es) = (q.step? e).bind (·.run? es) := rfl

lemma task?_put (hp : p.tasks = q.tasks) (ht : q.task? n = some task) (s : Stage) :
    (p.put n s).task? n = some { task with stage := s } := by
  have hticket : task.ticket = n := (mem_of_task? ht).2
  have hsame : ((fun u : Task α => decide (u.ticket = n)) ∘
      fun u : Task α => if u.ticket = n then { u with stage := s } else u) =
      fun u => decide (u.ticket = n) := by
    funext u
    by_cases hu : u.ticket = n
    · simp [hu]
    · simp [hu]
  unfold task? put
  rw [hp, List.find?_map, hsame]
  change Option.map _ (q.task? n) = _
  rw [ht, Option.map_some, if_pos hticket]

lemma freed_of_moved {m : Move} {s : Stage} (ht : q.task? n = some task)
    (hm : q.step? (.move n m) = some (p.put n s)) (hp : p.tasks = q.tasks)
    (hslots : p.slots = q.slots)
    (hnext : ∀ (q : Queue α) task, q.task? n = some task → task.stage = s →
      ∃ q', q.run? ((movesToFree s).map (.move n)) = some q' ∧ q'.slots.free = q.slots.free + 1) :
    ∃ q', q.run? ((m :: movesToFree s).map (.move n)) = some q' ∧
      q'.slots.free = q.slots.free + 1 := by
  obtain ⟨q', hrun, hfree⟩ := hnext (p.put n s) _ (task?_put hp ht s) rfl
  refine ⟨q', ?_, ?_⟩
  · rw [List.map_cons, run?_cons, hm, Option.bind_some, hrun]
  · rw [hfree, ← hslots]
    rfl

/-- The moves of an ended task wait for nothing, up to the one that frees its slot. -/
lemma exists_freed (ht : q.task? n = some task) (hr : task.stage.hasReport = true)
    (hslot : task.stage.holdsSlot = true) :
    ∃ q', q.run? ((movesToFree task.stage).map (.move n)) = some q' ∧
      q'.slots.free = q.slots.free + 1 := by
  -- from the last move back to the first
  have huncounted (r : Report) (q : Queue α) task (ht : q.task? n = some task)
      (hs : task.stage = .uncounted r) :
      ∃ q', q.run? [.move n .free] = some q' ∧ q'.slots.free = q.slots.free + 1 := by
    simp only [run?_cons, step?, ht, Option.bind_some, move?, hs]
    exact ⟨_, rfl, rfl⟩
  have hannounced (r : Report) (q : Queue α) task (ht : q.task? n = some task)
      (hs : task.stage = .announced r) :=
    freed_of_moved ht (p := { q with length := q.length - 1 }) (m := .uncount) (s := .uncounted r)
      (by simp only [step?, ht, Option.bind_some, move?, hs, (mem_of_task? ht).2]) rfl rfl
      (huncounted r)
  have hreleased (r : Report) (q : Queue α) task (ht : q.task? n = some task)
      (hs : task.stage = .released r) :=
    freed_of_moved ht (p := { q with announced := q.announced ++ [(n, r)] }) (m := .announce)
      (s := .announced r)
      (by simp only [step?, ht, Option.bind_some, move?, hs, (mem_of_task? ht).2]) rfl rfl
      (hannounced r)
  cases hs : task.stage with
  | returned r =>
    exact freed_of_moved ht (p := { q with permits := q.permits.give }) (m := .release)
      (s := .released r)
      (by simp only [step?, ht, Option.bind_some, move?, hs, (mem_of_task? ht).2]) rfl rfl
      (hreleased r)
  | released r => exact hreleased r q task ht hs
  | announced r => exact hannounced r q task ht hs
  | uncounted r => exact huncounted r q task ht hs
  | freed r =>
    rw [hs] at hslot
    cases hslot
  | _ =>
    rw [hs] at hr
    cases hr

/-- A task that holds a slot and does not wait for a permit can go on. -/
lemma Balanced.goesOn (hb : Balanced q) (ht : task ∈ q.tasks) (hslot : task.stage.holdsSlot = true)
    (hs : task.stage ≠ .waiting) : GoesOn q task := by
  have htask := hb.task?_ticket ht
  cases hstage : task.stage with
  | waiting => exact absurd hstage hs
  | entered =>
    obtain ⟨q', hq'⟩ := step?_due hb ht (m := .launch) (by rw [hstage]; rfl)
    exact .launches hstage hq'
  | running => exact .runs hstage (step?_running hb ht hstage)
  | _ =>
    have hr : task.stage.hasReport = true := by
      rw [hstage]
      rfl
    obtain ⟨q', hrun, hfree⟩ := exists_freed htask hr hslot
    exact .frees hr hrun hfree

/-- **While no slot is free, one of the tasks that hold them can go on.** -/
theorem Balanced.exists_goesOn (hb : Balanced q) (hw : 0 < q.workers) (hheld : q.held = 0)
    (hfree : q.slots.free = 0) : ∃ task ∈ q.slotHolders, GoesOn q task := by
  have hslots := hb.slots
  by_cases hwaiting : ∀ task ∈ q.slotHolders, task.stage = .waiting
  · obtain ⟨task, ht, hholds⟩ : ∃ task ∈ q.tasks, 0 < task.stage.holdsSlot.toNat :=
      exists_of_tally_pos (f := fun _ s => s.holdsSlot.toNat) (by omega)
    have hholds : task.stage.holdsSlot = true := by
      by_contra hno
      rw [Bool.not_eq_true] at hno
      rw [hno] at hholds
      cases hholds
    have hslot : task ∈ q.slotHolders := List.mem_filter.mpr ⟨ht, hholds⟩
    -- a task with a permit has a slot too, so none has one
    have hpermit : 0 < q.permits.free := by
      refine hb.permits_free hw fun u hu => ?_
      by_contra hno
      rw [Bool.not_eq_false] at hno
      have hu' : u.stage = .waiting := by
        refine hwaiting u (List.mem_filter.mpr ⟨hu, ?_⟩)
        cases hs : u.stage <;> simp_all [Stage.holdsPermit, Stage.holdsSlot]
      rw [hu'] at hno
      cases hno
    have hs := hwaiting task hslot
    obtain ⟨q', hq'⟩ := step?_enter hb ht hs hpermit
    exact ⟨task, hslot, .enters hs hpermit hq'⟩
  · push Not at hwaiting
    obtain ⟨task, hslot, hs⟩ := hwaiting
    obtain ⟨ht, hholds⟩ := List.mem_filter.mp hslot
    exact ⟨task, hslot, hb.goesOn ht hholds hs⟩

end Queue

namespace Dispatch

variable {σ : Type} {r : Runner} {o : Options} {name : String} {t : Transport σ}
  {d d' : Dispatch σ} {e : Event} {q : Queue Sequence} {threads : Nat} {disk : Disk}

/-! ### Dispatches to a queue in use -/

/-- The dispatch of a runner's hosts to a queue, before anything has happened. -/
def onto (r : Runner) (q : Queue Sequence) (disk : Disk) : Dispatch σ where
  hosts := r.registry.entries
  stopped := if r.script.isNone then some .notLoaded else none
  queue := q
  disk := disk

lemma ready_onto {es : List (Queue.Event Sequence)} (hq : (Queue.new threads).run? es = some q)
    (h0 : q.held = 0) : Ready (onto r q disk : Dispatch σ) where
  balanced := Queue.balanced_of_run? hq
  workers := by
    show 0 < q.workers
    rw [Queue.workers_of_run? hq]
    omega
  held := .inl h0

lemma workers_of_takes (hs : Takes r o name t d e d') : d'.queue.workers = d.queue.workers := by
  cases hs with
  | reserve _ _ _ hq => exact Queue.workers_step (Queue.step_of_step? hq)
  | handle _ _ _ _ hq => exact Queue.workers_step (Queue.step_of_step? hq)
  | run _ hq => exact Queue.workers_step (Queue.step_of_step? hq)
  | move hq => exact Queue.workers_step (Queue.step_of_step? hq)
  | collect _ _ hq => exact Queue.workers_step (Queue.step_of_step? hq)

lemma workers_of_leads (h : Leads r o name t d d') : d'.queue.workers = d.queue.workers := by
  induction h with
  | refl => rfl
  | step _ e he ih => exact (workers_of_takes (takes_of_step? he)).trans ih
  | ends _ ticket ending disk hq ih =>
    exact (Queue.workers_step (Queue.step_of_step? hq)).trans ih

/-! ### Waiting and compiling -/

/-- Whether the next host waits for a slot. -/
structure Waits (d : Dispatch σ) : Prop where
  stopped : d.stopped = none
  hosts : d.hosts ≠ []
  held : d.queue.held = 0
  reserve : d.queue.step? .reserve = none

/-- Whether the next host is being compiled: a slot is held for it. -/
structure Compiling (d : Dispatch σ) : Prop where
  stopped : d.stopped = none
  hosts : d.hosts ≠ []
  held : d.queue.held ≠ 0

lemma Ready.slots_eq (h : Ready d) :
    d.queue.slots.free + d.queue.held + d.queue.slotHolders.length = 2 * d.queue.workers := by
  have hslots := h.balanced.slots
  unfold Queue.slotHolders
  rw [Queue.length_filter_stage]
  exact hslots

lemma Ready.free_of_waits (h : Ready d) (hw : Waits d) : d.queue.slots.free = 0 := by
  have hreserve := hw.reserve
  simp only [Queue.step?, Semaphore.take?, h.balanced.slots_open, and_true,
    Option.map_eq_none_iff, ite_eq_right_iff, reduceCtorEq, imp_false] at hreserve
  omega

/-- **A dispatch waits only for what goes on by itself.** It may be fed to a queue in use, if nobody
else holds a slot of it, and its sequences may end in any way. As long as it is not over, some event
can happen. While it waits for a slot, all slots belong to submitted sequences that have not come to
their end, and one of these can go on. While it compiles a host there is a slot for this host too,
so handling it leaves no more such sequences than there are slots. -/
theorem goesOn_while_waiting {es : List (Queue.Event Sequence)}
    (hq : (Queue.new threads).run? es = some q) (h0 : q.held = 0)
    (h : Leads r o name t (onto r q disk) d) :
    (Over d ∨ ∃ e d', step? r o name t d e = some d') ∧
    (Waits d → d.queue.slots.free = 0 ∧ d.queue.slotHolders.length = 2 * max threads 1 ∧
      (d.queue.slotHolders.map Task.ticket).Nodup ∧
      (∀ task ∈ d.queue.slotHolders, task.ticket < d.queue.submitted) ∧
      ∃ task ∈ d.queue.slotHolders, Queue.GoesOn d.queue task) ∧
    (Compiling d → d.queue.slotHolders.length + 1 ≤ 2 * max threads 1 ∧
      ∃ d', step? r o name t d .handle = some d' ∧
        d'.queue.slotHolders.length ≤ 2 * max threads 1) := by
  have hready : Ready d := (ready_onto hq h0).leads h
  have hworkers : d.queue.workers = max threads 1 :=
    (workers_of_leads h).trans (Queue.workers_of_run? hq)
  have hslots := hready.slots_eq
  rw [hworkers] at hslots
  refine ⟨?_, fun hwaits => ?_, fun hcompiling => ?_⟩
  · -- a dispatch that nothing can happen in is over
    by_cases hstuck : ∀ e, step? r o name t d e = none
    · exact .inl (over_of_stuck hready hstuck)
    · obtain ⟨e, he⟩ := not_forall.mp hstuck
      exact .inr ⟨e, Option.ne_none_iff_exists'.mp he⟩
  · -- while the next host waits for a slot
    have hfree := hready.free_of_waits hwaits
    have hheld := hwaits.held
    refine ⟨hfree, by omega, ?_, ?_, ?_⟩
    · exact hready.balanced.nodup.sublist (List.filter_sublist.map _)
    · exact fun task htask => hready.balanced.ticket_lt task (List.mem_of_mem_filter htask)
    · exact hready.balanced.exists_goesOn hready.workers hheld hfree
  · -- while a host is compiled its slot is held, so one slot less is in use
    have hheld := hcompiling.held
    obtain ⟨d', hd'⟩ := exists_step_of_held r o name t hcompiling.stopped hcompiling.hosts
      (Nat.pos_of_ne_zero hheld)
    have hlead : Leads r o name t (onto r q disk) d' := h.step _ hd'
    have hslots' := ((ready_onto hq h0).leads hlead).slots_eq
    rw [workers_of_leads hlead] at hslots'
    have hq' : q.workers = max threads 1 := Queue.workers_of_run? hq
    refine ⟨by omega, d', hd', ?_⟩
    change _ = 2 * q.workers at hslots'
    omega

/-- A queue with one worker, in which a sequence runs already. The first host is skipped; a slot is
held for the second, and the third has to wait. -/
theorem goesOn_while_waiting_in_use :
    let job : Sequence :=
      { name := "r0"
        connect := { protocol := .telnet, host := "r0" }
        authentication := none
        commands := .ok ["show version"] }
    let r : Runner := .ofHosts [⟨"rsh://w1", ∅⟩, ⟨"r1", ∅⟩, ⟨"r2", ∅⟩] "show version"
    ∃ (q : Queue Sequence) (d d' : Dispatch DryRun.State),
      (Queue.new 0).run? [.reserve, .submit "r0" job, .move 0 .enter, .move 0 .launch] = some q ∧
        q.held = 0 ∧ Leads r {} "tool" DryRun.transport (onto r q {}) d ∧ Compiling d ∧
        d.queue.slotHolders.length + 1 ≤ 2 ∧
        Leads r {} "tool" DryRun.transport (onto r q {}) d' ∧ Waits d' ∧
        d'.queue.slotHolders.length = 2 ∧ (∃ task ∈ d'.queue.slotHolders,
          Queue.GoesOn d'.queue task) ∧
        ¬Over d' ∧ ∃ e d'', step? r {} "tool" DryRun.transport d' e = some d'' := by
  intro job r
  obtain ⟨q, hq, h0, d, hd, hcompiling, d', hd', hwaits, hover⟩ :
      ∃ q ∈ (Queue.new 0).run? [.reserve, .submit "r0" job, .move 0 .enter, .move 0 .launch],
        q.held = 0 ∧
        ∃ d ∈ [Event.reserve, .handle, .reserve].foldlM (step? r {} "tool" DryRun.transport)
            (onto r q {}),
          (d.stopped = none ∧ d.hosts ≠ [] ∧ d.queue.held ≠ 0) ∧
          ∃ d' ∈ step? r {} "tool" DryRun.transport d .handle,
            (d'.stopped = none ∧ d'.hosts ≠ [] ∧ d'.queue.held = 0 ∧
              (d'.queue.step? .reserve).isNone) ∧ ¬Over d' := by
    decide +kernel
  have hlead := (reaches_of_foldlM hd).leads
  have hlead' := hlead.step .handle hd'
  obtain ⟨hstopped, hhosts, hheld⟩ := hcompiling
  obtain ⟨hstopped', hhosts', hheld', hreserve⟩ := hwaits
  have hcompiling : Compiling d := ⟨hstopped, hhosts, hheld⟩
  have hwaits : Waits d' := ⟨hstopped', hhosts', hheld', Option.isNone_iff_eq_none.mp hreserve⟩
  obtain ⟨-, -, hcompile⟩ := goesOn_while_waiting hq h0 hlead
  obtain ⟨hgo, hwait, -⟩ := goesOn_while_waiting hq h0 hlead'
  obtain ⟨-, hall, -, -, hgoesOn⟩ := hwait hwaits
  exact ⟨q, d, d', hq, h0, hlead, hcompiling, (hcompile hcompiling).1, hlead', hwaits, hall,
    hgoesOn, hover, hgo.resolve_left hover⟩

end Dispatch

end FleetScript
