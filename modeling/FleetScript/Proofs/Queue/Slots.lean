import FleetScript.Proofs.Queue.Steps

/-!
Slots and permits are neither lost nor made. What a task holds follows from its stage alone: a
worker permit from taking it to giving it back, a place in the count of the queue up to leaving
it, and its slot up to freeing it. `Balanced` says that the free permits, the count and the free
slots agree with the tallies of these; every event keeps it, and the bounds of a queue are read
off it.
-/

namespace FleetScript

open Session

/-! ### What a task holds -/

namespace Stage

def isRunning : Stage → Bool
  | running => true
  | _ => false

def holdsPermit : Stage → Bool
  | entered | running | returned _ => true
  | _ => false

/-- Whether a task counts to the length of the queue. -/
def isCounted : Stage → Bool
  | uncounted _ | freed _ => false
  | _ => true

def holdsSlot : Stage → Bool
  | freed _ => false
  | _ => true

lemma isRunning_le_holdsPermit (s : Stage) : s.isRunning.toNat ≤ s.holdsPermit.toNat := by
  cases s <;> simp [isRunning, holdsPermit]

lemma isCounted_le_holdsSlot (s : Stage) : s.isCounted.toNat ≤ s.holdsSlot.toNat := by
  cases s <;> simp [isCounted, holdsSlot]

end Stage

namespace Queue

variable {α : Type} {q q' : Queue α} {e : Event α} {es : List (Event α)} {n : Nat} {t : Task α}
  {m : Move}

/-- The tasks that hold a slot. -/
def slotHolders (q : Queue α) : List (Task α) := q.tasks.filter (·.stage.holdsSlot)

lemma length_running (q : Queue α) :
    q.running.length = q.tally fun _ s => s.isRunning.toNat := by
  rw [← length_filter_stage]
  unfold running
  congr 2
  funext t
  cases t.stage <;> rfl

/-! ### The invariant -/

/-- The numbers of tasks are distinct, the semaphores are open, and the free permits, the length
and the free slots agree with what the tasks hold. -/
structure Balanced (q : Queue α) : Prop where
  nodup : (q.tasks.map Task.ticket).Nodup
  ticket_lt : ∀ t ∈ q.tasks, t.ticket < q.submitted
  slots_open : q.slots.closed = false
  permits_open : q.permits.closed = false
  permits : q.permits.free + q.tally (fun _ s => s.holdsPermit.toNat) = q.workers
  length : q.length = q.tally fun _ s => s.isCounted.toNat
  slots : q.slots.free + q.held + q.tally (fun _ s => s.holdsSlot.toNat) = 2 * q.workers

lemma balanced_new (n : Nat) : Balanced (new n : Queue α) where
  nodup := List.nodup_nil
  ticket_lt := fun _ h => absurd h List.not_mem_nil
  slots_open := rfl
  permits_open := rfl
  permits := by simp [new, tally]
  length := by simp [new, tally]
  slots := by simp [new, tally]

/-- Bringing the task `t` to the stage `s` keeps the balance if what is free changes by what
the task takes or gives. -/
lemma Balanced.put {p : Queue α} {s : Stage} (h : Balanced q) (ht : t ∈ q.tasks)
    (htasks : p.tasks = q.tasks) (hsub : p.submitted = q.submitted) (hw : p.workers = q.workers)
    (hso : p.slots.closed = q.slots.closed) (hpo : p.permits.closed = q.permits.closed)
    (hpermits : p.permits.free + s.holdsPermit.toNat =
      q.permits.free + t.stage.holdsPermit.toNat)
    (hlength : p.length + t.stage.isCounted.toNat = q.length + s.isCounted.toNat)
    (hslots : p.slots.free + p.held + s.holdsSlot.toNat =
      q.slots.free + q.held + t.stage.holdsSlot.toNat) :
    Balanced (p.put t.ticket s) := by
  have hp : ∀ f, (p.put t.ticket s).tally f = (q.put t.ticket s).tally f := fun f => by
    unfold Queue.put tally
    rw [htasks]
  -- each sum changes by what the two stages of `t` count in it
  have h1 := tally_put h.nodup ht s fun _ s => s.holdsPermit.toNat
  have h2 := tally_put h.nodup ht s fun _ s => s.isCounted.toNat
  have h3 := tally_put h.nodup ht s fun _ s => s.holdsSlot.toNat
  have hb1 := h.permits
  have hb2 := h.length
  have hb3 := h.slots
  refine ⟨?_, ?_, hso.trans h.slots_open, hpo.trans h.permits_open, ?_, ?_, ?_⟩
  · rw [map_ticket_put, htasks]
    exact h.nodup
  · intro u hu
    obtain ⟨v, hv, hvu, -⟩ := mem_put hu
    rw [← hvu]
    exact hsub ▸ h.ticket_lt v (htasks ▸ hv)
  · rw [hp]
    show p.permits.free + _ = p.workers
    omega
  · rw [hp]
    show p.length = _
    omega
  · rw [hp]
    show p.slots.free + p.held + _ = 2 * p.workers
    omega

lemma Balanced.moved (h : Balanced q) (ht : t ∈ q.tasks) (hm : Moved q t m q') :
    Balanced q' := by
  cases hm with
  | enter hs hf =>
    refine h.put ht rfl rfl rfl rfl rfl ?_ ?_ ?_ <;> rw [hs]
    · exact Nat.sub_add_cancel hf
    · rfl
    · rfl
  | turnAway hs hc =>
    -- the permits are never closed
    rw [h.permits_open] at hc
    cases hc
  | launch hs => refine h.put ht rfl rfl rfl rfl rfl ?_ ?_ ?_ <;> rw [hs] <;> rfl
  | release hs => refine h.put ht rfl rfl rfl rfl rfl ?_ ?_ ?_ <;> rw [hs] <;> rfl
  | announce hs => refine h.put ht rfl rfl rfl rfl rfl ?_ ?_ ?_ <;> rw [hs] <;> rfl
  | uncount hs =>
    -- a task that counts to the length makes it positive
    have hpos : 1 ≤ q.length := by
      have := le_tally ht fun _ s => s.isCounted.toNat
      rw [h.length]
      rwa [hs] at this
    refine h.put ht rfl rfl rfl rfl rfl ?_ ?_ ?_ <;> rw [hs]
    · rfl
    · exact Nat.sub_add_cancel hpos
    · rfl
  | free hs =>
    refine h.put ht rfl rfl rfl rfl rfl ?_ ?_ ?_ <;> rw [hs]
    · rfl
    · rfl
    · show q.slots.free + 1 + q.held + 0 = q.slots.free + q.held + 1
      omega
  | complete hs =>
    -- a task that completes holds nothing any more
    have h1 := sum_remove h.nodup ht fun _ s => s.holdsPermit.toNat
    have h2 := sum_remove h.nodup ht fun _ s => s.isCounted.toNat
    have h3 := sum_remove h.nodup ht fun _ s => s.holdsSlot.toNat
    rw [hs] at h1 h2 h3
    refine ⟨?_, ?_, h.slots_open, h.permits_open, ?_, ?_, ?_⟩
    · exact h.nodup.sublist (List.filter_sublist.map _)
    · exact fun u hu => h.ticket_lt u (List.mem_of_mem_filter hu)
    · exact (congrArg (q.permits.free + ·) h1).trans h.permits
    · exact h.length.trans h2.symm
    · exact (congrArg (q.slots.free + q.held + ·) h3).trans h.slots

/-- **Every event keeps the balance.** -/
theorem Balanced.step (h : Balanced q) (hs : Step q e q') : Balanced q' := by
  have hslots := h.slots
  cases hs with
  | reserve hf =>
    -- the slot that was free is held now
    refine { h with slots := ?_ }
    show q.slots.free - 1 + (q.held + 1) + q.tally (fun _ s => s.holdsSlot.toNat) = 2 * q.workers
    omega
  | refuse => exact h
  | drop hh =>
    refine { h with slots := ?_ }
    show q.slots.free + 1 + (q.held - 1) + q.tally (fun _ s => s.holdsSlot.toNat) = 2 * q.workers
    omega
  | submit hh =>
    refine ⟨?_, ?_, h.slots_open, h.permits_open, ?_, ?_, ?_⟩
    · rw [List.map_append, List.nodup_append]
      refine ⟨h.nodup, List.nodup_singleton _, ?_⟩
      intro n hn k hk
      obtain ⟨u, hu, rfl⟩ := List.mem_map.mp hn
      obtain rfl := List.mem_singleton.mp hk
      exact Nat.ne_of_lt (h.ticket_lt u hu)
    · intro u hu
      rcases List.mem_append.mp hu with hu | hu
      · exact Nat.lt_succ_of_lt (h.ticket_lt u hu)
      · obtain rfl := List.mem_singleton.mp hu
        exact Nat.lt_succ_self _
    · rw [tally_submit]
      exact h.permits
    · rw [tally_submit]
      exact congrArg (· + 1) h.length
    · rw [tally_submit]
      show q.slots.free + (q.held - 1) + (_ + 1) = 2 * q.workers
      omega
  | move ht hm => exact h.moved ht hm
  | finish ht hrun => refine h.put ht rfl rfl rfl rfl rfl ?_ ?_ ?_ <;> rw [hrun] <;> rfl
  | collect hx => exact { h with }
  | join ht hx => exact { h with }

theorem balanced_of_run? (h : (new n).run? es = some q) : Balanced q :=
  run?_induction (P := fun _ q => Balanced q) (balanced_new n) (fun _ _ _ _ hb hs => hb.step hs) h

/-! ### Workers -/

lemma workers_step (hs : Step q e q') : q'.workers = q.workers := by
  cases hs with
  | move ht hm => cases hm <;> rfl
  | _ => rfl

lemma workers_of_run? (h : (new n).run? es = some q) : q.workers = max n 1 :=
  run?_induction (P := fun _ q => q.workers = max n 1) rfl
    (fun _ _ _ _ hw hs => (workers_step hs).trans hw) h

/-! ### Bounds -/

/-- **Slots are conserved and bound the queue.** After any events, no more tasks run than there
are workers, the queue with the slots reserved for it is at most twice as long, and every slot is
free, held by the caller, or held by a task. -/
theorem bounds_of_run? (h : (new n).run? es = some q) :
    q.running.length ≤ max n 1 ∧ q.length + q.held ≤ 2 * max n 1 ∧
      q.slots.free + q.held + q.slotHolders.length = 2 * max n 1 := by
  have hb := balanced_of_run? h
  have hw := workers_of_run? h
  have hpermits := hb.permits
  have hslots := hb.slots
  have hrun := tally_le (q := q) fun _ s => s.isRunning_le_holdsPermit
  have hcount := tally_le (q := q) fun _ s => s.isCounted_le_holdsSlot
  refine ⟨?_, ?_, ?_⟩
  · rw [length_running]
    omega
  · rw [hb.length]
    omega
  · unfold slotHolders
    rw [length_filter_stage]
    omega

/-- One worker runs a sequence that panics while another waits and a third slot is wanted. -/
theorem bounds_of_run?_panicking :
    ∃ q : Queue Unit, (new 0).run? [.reserve, .reserve, .submit "r1" (), .submit "r2" (),
        .move 1 .enter, .move 1 .launch, .finish 1 (.panic "task 1 panicked"), .move 1 .release,
        .move 0 .enter, .move 0 .launch, .move 1 .announce, .move 1 .uncount] = some q ∧
      q.running.length ≤ max 0 1 ∧ q.length + q.held ≤ 2 * max 0 1 ∧
      q.slots.free + q.held + q.slotHolders.length = 2 * max 0 1 :=
  Exists.imp (fun _ hq => ⟨hq, bounds_of_run? hq⟩) ⟨_, rfl⟩

end Queue

end FleetScript
