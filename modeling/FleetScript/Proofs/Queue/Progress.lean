import FleetScript.Proofs.Queue.Slots

/-!
A queue cannot get stuck. As long as a task is not through, or a report is not collected, some
task can move, some run can end, or a report can be collected; and each of these leaves less to
do. So if runs come to an end, joining does, whatever the order of events.
-/

namespace FleetScript

open Session

/-- The events that a task has before it, the collecting of its report among them. -/
def Stage.left : Stage → Nat
  | waiting => 9
  | entered => 8
  | running => 7
  | returned _ => 6
  | released _ => 5
  | announced _ => 4
  | uncounted _ => 3
  | freed _ => 2

namespace Queue

variable {α : Type} {q q' : Queue α} {e : Event α} {es : List (Event α)} {t : Task α} {m : Move}

/-- Whether an event carries work on that has been submitted. -/
def Event.isWork : Event α → Bool
  | .move _ _ | .finish _ _ | .collect => true
  | _ => false

/-- The events that are still to come for the submitted tasks. -/
def work (q : Queue α) : Nat := q.tally (fun _ s => s.left) + q.finished.length

/-! ### Less to do -/

lemma Balanced.work_moved (hb : Balanced q) (ht : t ∈ q.tasks) (hm : Moved q t m q') :
    q'.work < q.work := by
  have hput := fun s => tally_put hb.nodup ht s fun _ s => s.left
  have htally : ∀ (p : Queue α) s, p.tasks = q.tasks →
      (p.put t.ticket s).tally (fun _ s => s.left) =
        (q.put t.ticket s).tally (fun _ s => s.left) := fun p s hp => by
    unfold Queue.put tally
    rw [hp]
  -- every move but the last brings the task to a stage with less before it
  have hless : ∀ (p : Queue α) s, p.tasks = q.tasks → p.finished = q.finished →
      s.left < t.stage.left → (p.put t.ticket s).work < q.work := fun p s hp hf hs => by
    have := hput s
    unfold work
    rw [htally p s hp]
    show _ + p.finished.length < _
    rw [hf]
    omega
  cases hm with
  | enter hs hf => exact hless _ _ rfl rfl (by rw [hs]; decide)
  | turnAway hs hc => exact hless _ _ rfl rfl (by rw [hs]; simp [Stage.left])
  | launch hs => exact hless _ _ rfl rfl (by rw [hs]; decide)
  | release hs => exact hless _ _ rfl rfl (by rw [hs]; simp [Stage.left])
  | announce hs => exact hless _ _ rfl rfl (by rw [hs]; simp [Stage.left])
  | uncount hs => exact hless _ _ rfl rfl (by rw [hs]; simp [Stage.left])
  | free hs => exact hless _ _ rfl rfl (by rw [hs]; simp [Stage.left])
  | complete hs =>
    have hrest := sum_remove hb.nodup ht fun _ s => s.left
    rw [hs] at hrest
    change _ + 2 = _ at hrest
    simp only [work, tally, List.length_append, List.length_singleton]
    omega

/-- **Work that is carried on gets less.** -/
theorem Balanced.work_lt (hb : Balanced q) (hs : Step q e q') (he : e.isWork = true) :
    q'.work < q.work := by
  cases hs with
  | move ht hm => exact hb.work_moved ht hm
  | @finish t ending ht hrun =>
    have hput := tally_put hb.nodup ht (.returned (ending.reportFor t.host)) fun _ s => s.left
    rw [hrun] at hput
    change _ + 7 = _ + 6 at hput
    show tally _ _ + q.finished.length < tally _ _ + _
    omega
  | @collect x rest hx =>
    show q.tally (fun _ s => s.left) + rest.length < q.work
    unfold work
    rw [hx, List.length_cons]
    omega
  | _ => cases he

theorem Balanced.length_le_work (hb : Balanced q) (h : q.run? es = some q')
    (hes : ∀ e ∈ es, e.isWork = true) : es.length ≤ q.work := by
  have hrun : Balanced q' ∧ ((∀ e ∈ es, e.isWork = true) → es.length + q'.work ≤ q.work) :=
    run?_induction (P := fun es q' =>
        Balanced q' ∧ ((∀ e ∈ es, e.isWork = true) → es.length + q'.work ≤ q.work))
      ⟨hb, fun _ => by simp⟩
      (fun es p e p' ⟨hp, ih⟩ hs => ⟨hp.step hs, fun hes => by
        have h1 := ih fun e he => hes e (List.mem_append_left _ he)
        have h2 := hp.work_lt hs (hes e (List.mem_append_right _ (List.mem_singleton.mpr rfl)))
        rw [List.length_append, List.length_singleton]
        omega⟩) h
  have := hrun.2 hes
  omega

/-! ### Never stuck -/

lemma Balanced.task?_ticket (hb : Balanced q) (ht : t ∈ q.tasks) : q.task? t.ticket = some t := by
  have hsome : (q.task? t.ticket).isSome := List.find?_isSome.mpr ⟨t, ht, by simp⟩
  obtain ⟨u, hu⟩ := Option.isSome_iff_exists.mp hsome
  obtain ⟨hmem, hticket⟩ := mem_of_task? hu
  rw [hu, List.inj_on_of_nodup_map hb.nodup hmem ht hticket]

lemma step?_due (hb : Balanced q) (ht : t ∈ q.tasks) (hm : t.stage.due? = some m) :
    ∃ q', q.step? (.move t.ticket m) = some q' := by
  simp only [step?, hb.task?_ticket ht, Option.bind_some]
  cases hs : t.stage <;> rw [hs] at hm <;> cases hm <;> simp [move?, hs]

lemma step?_running (hb : Balanced q) (ht : t ∈ q.tasks) (hs : t.stage = .running)
    (ending : Ending) : ∃ q', q.step? (.finish t.ticket ending) = some q' := by
  simp only [step?, hb.task?_ticket ht, Option.bind_some, hs, if_true]
  exact ⟨_, rfl⟩

lemma step?_enter (hb : Balanced q) (ht : t ∈ q.tasks) (hs : t.stage = .waiting)
    (hf : 0 < q.permits.free) : ∃ q', q.step? (.move t.ticket .enter) = some q' := by
  simp only [step?, hb.task?_ticket ht, Option.bind_some, move?, hs, Semaphore.take?,
    hf, hb.permits_open, and_self, if_true, Option.map_some]
  exact ⟨_, rfl⟩

lemma exists_of_tally_pos {f : Nat → Stage → Nat} (h : 0 < q.tally f) :
    ∃ t ∈ q.tasks, 0 < f t.ticket t.stage := by
  by_contra hno
  have hzero : q.tally f = 0 := List.sum_eq_zero fun x hx => by
    obtain ⟨t, ht, rfl⟩ := List.mem_map.mp hx
    exact Nat.eq_zero_of_not_pos fun hpos => hno ⟨t, ht, hpos⟩
  omega

lemma Balanced.permits_free (hb : Balanced q) (hw : 0 < q.workers)
    (h : ∀ t ∈ q.tasks, t.stage.holdsPermit = false) : 0 < q.permits.free := by
  have hnone : ¬0 < q.tally fun _ s => s.holdsPermit.toNat := by
    intro hpos
    obtain ⟨t, ht, hheld⟩ := exists_of_tally_pos hpos
    rw [h t ht] at hheld
    cases hheld
  have := hb.permits
  omega

/-- A task that has its permit can go on, unless it runs. -/
lemma Balanced.exists_move_of_permit (hb : Balanced q) (ht : t ∈ q.tasks)
    (hs : t.stage ≠ .waiting) :
    (∃ n m q', q.step? (.move n m) = some q') ∨ ∃ u ∈ q.tasks, u.stage = .running := by
  cases hm : t.stage.due? with
  | some m =>
    obtain ⟨q', h⟩ := step?_due hb ht hm
    exact .inl ⟨_, _, q', h⟩
  | none =>
    refine .inr ⟨t, ht, ?_⟩
    cases hst : t.stage with
    | running => rfl
    | waiting => exact absurd hst hs
    | _ => rw [hst] at hm; cases hm

lemma Balanced.exists_move_or_running (hb : Balanced q) (hw : 0 < q.workers) (ht : t ∈ q.tasks) :
    (∃ n m q', q.step? (.move n m) = some q') ∨ ∃ u ∈ q.tasks, u.stage = .running := by
  by_cases hs : t.stage = .waiting
  · by_cases hf : 0 < q.permits.free
    · obtain ⟨q', h⟩ := step?_enter hb ht hs hf
      exact .inl ⟨_, _, q', h⟩
    · -- all permits are with other tasks
      have hpos : 0 < q.tally fun _ s => s.holdsPermit.toNat := by
        have := hb.permits
        omega
      obtain ⟨u, hu, hheld⟩ := exists_of_tally_pos hpos
      refine hb.exists_move_of_permit hu fun hu' => ?_
      rw [hu'] at hheld
      cases hheld
  · exact hb.exists_move_of_permit ht hs

lemma Balanced.exists_work (hb : Balanced q) (hw : 0 < q.workers) (ht : t ∈ q.tasks) :
    ∃ e q', Event.isWork e = true ∧ q.step? e = some q' := by
  rcases hb.exists_move_or_running hw ht with ⟨n, m, q', h⟩ | ⟨u, hu, hs⟩
  · exact ⟨_, q', rfl, h⟩
  · obtain ⟨q', h⟩ := step?_running hb hu hs (.panic "")
    exact ⟨_, q', rfl, h⟩

/-- **A queue without work that can be carried on can be joined.** -/
theorem Balanced.join_of_stuck (hb : Balanced q) (hw : 0 < q.workers)
    (hstuck : ∀ e, Event.isWork e = true → q.step? e = none) : q.tasks = [] ∧ q.finished = [] := by
  constructor
  · by_contra hne
    obtain ⟨t, ht⟩ := List.exists_mem_of_ne_nil _ hne
    obtain ⟨e, q', he, h⟩ := hb.exists_work hw ht
    rw [hstuck e he] at h
    cases h
  · have h := hstuck .collect rfl
    simp only [step?] at h
    split at h
    · cases h
    · assumption

end Queue

end FleetScript
