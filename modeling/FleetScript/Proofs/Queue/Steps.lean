import FleetScript.Queue
import Mathlib.Algebra.Order.BigOperators.Group.List
import Mathlib.Algebra.Order.Ring.Nat
import Mathlib.Data.List.Induction
import Mathlib.Data.List.Nodup
import Mathlib.Tactic.Lemma

/-!
What one event can do to a work queue. `Step` lists the events with their conditions and effects,
`step_of_step?` says that these are all, and the tallies count tasks by their numbers and stages:
how they change is all that later proofs need to know of the list of tasks.
-/

namespace FleetScript.Queue

open Session

variable {α : Type} {q q' : Queue α} {e : Event α} {es : List (Event α)} {n : Nat} {t : Task α}

/-! ### Events -/

/-- A move of the task `t`: what it needs, and what it does. -/
inductive Moved (q : Queue α) (t : Task α) : Move → Queue α → Prop where
  | enter (hs : t.stage = .waiting) (hf : 0 < q.permits.free) :
    Moved q t .enter (({ q with permits := { q.permits with free := q.permits.free - 1 } } :
      Queue α).put t.ticket .entered)
  | turnAway (hs : t.stage = .waiting) (hc : q.permits.closed = true) :
    Moved q t .turnAway (q.put t.ticket (.released (closedReport t.host)))
  | launch (hs : t.stage = .entered) : Moved q t .launch (q.put t.ticket .running)
  | release {r : Report} (hs : t.stage = .returned r) :
    Moved q t .release (({ q with permits := q.permits.give } : Queue α).put t.ticket
      (.released r))
  | announce {r : Report} (hs : t.stage = .released r) :
    Moved q t .announce (({ q with announced := q.announced ++ [(t.ticket, r)] } :
      Queue α).put t.ticket (.announced r))
  | uncount {r : Report} (hs : t.stage = .announced r) :
    Moved q t .uncount (({ q with length := q.length - 1 } : Queue α).put t.ticket
      (.uncounted r))
  | free {r : Report} (hs : t.stage = .uncounted r) :
    Moved q t .free (({ q with slots := q.slots.give } : Queue α).put t.ticket (.freed r))
  | complete {r : Report} (hs : t.stage = .freed r) :
    Moved q t .complete { q with
      tasks := q.tasks.filter (·.ticket ≠ t.ticket)
      finished := q.finished ++ [(t.ticket, r)] }

/-- An event of a queue: what it needs, and what it does. -/
inductive Step (q : Queue α) : Event α → Queue α → Prop where
  | reserve (hf : 0 < q.slots.free) :
    Step q .reserve { q with
      slots := { q.slots with free := q.slots.free - 1 }
      held := q.held + 1 }
  | refuse (hc : q.slots.closed = true) : Step q .refuse q
  | drop (hh : 0 < q.held) : Step q .drop { q with slots := q.slots.give, held := q.held - 1 }
  | submit {host : String} {job : α} (hh : 0 < q.held) :
    Step q (.submit host job) { q with
      held := q.held - 1
      length := q.length + 1
      submitted := q.submitted + 1
      tasks := q.tasks ++ [{ ticket := q.submitted, host, job }] }
  | move {t : Task α} {m : Move} {q' : Queue α} (ht : t ∈ q.tasks) (hm : Moved q t m q') :
    Step q (.move t.ticket m) q'
  | finish {t : Task α} {ending : Ending} (ht : t ∈ q.tasks) (hs : t.stage = .running) :
    Step q (.finish t.ticket ending) (q.put t.ticket (.returned (ending.reportFor t.host)))
  | collect {x : Nat × Report} {rest : List (Nat × Report)} (hx : q.finished = x :: rest) :
    Step q .collect { q with finished := rest, joining := q.joining ++ [x] }
  | join (ht : q.tasks = []) (hx : q.finished = []) :
    Step q .join { q with joining := [], joined := q.joined ++ [q.joining] }

lemma take?_eq_some {s s' : Semaphore} (h : s.take? = some s') :
    0 < s.free ∧ s' = { s with free := s.free - 1 } := by
  unfold Semaphore.take? at h
  split at h
  · exact ⟨by tauto, (Option.some.inj h).symm⟩
  · cases h

lemma mem_of_task? (h : q.task? n = some t) : t ∈ q.tasks ∧ t.ticket = n :=
  ⟨List.mem_of_find?_eq_some h, by simpa using List.find?_some h⟩

lemma moved_of_move? {m : Move} (h : q.move? t m = some q') : Moved q t m q' := by
  cases hs : t.stage <;> cases m <;> simp only [move?, hs, reduceCtorEq, Option.some.injEq] at h
  case waiting.enter =>
    obtain ⟨s, htake, rfl⟩ := Option.map_eq_some_iff.mp h
    obtain ⟨hf, rfl⟩ := take?_eq_some htake
    exact .enter hs hf
  case waiting.turnAway =>
    split at h
    · obtain rfl := Option.some.inj h
      exact .turnAway hs ‹_›
    · cases h
  case entered.launch => exact h ▸ .launch hs
  case returned.release => exact h ▸ .release hs
  case released.announce => exact h ▸ .announce hs
  case announced.uncount => exact h ▸ .uncount hs
  case uncounted.free => exact h ▸ .free hs
  case freed.complete => exact h ▸ .complete hs

/-- **An event does one of these things.** -/
theorem step_of_step? (h : q.step? e = some q') : Step q e q' := by
  cases e with
  | reserve =>
    obtain ⟨s, htake, rfl⟩ := Option.map_eq_some_iff.mp h
    obtain ⟨hf, rfl⟩ := take?_eq_some htake
    exact .reserve hf
  | refuse =>
    simp only [step?] at h
    split at h
    · obtain rfl := Option.some.inj h
      exact .refuse ‹_›
    · cases h
  | drop =>
    simp only [step?] at h
    split at h
    · obtain rfl := Option.some.inj h
      exact .drop ‹_›
    · cases h
  | submit host job =>
    simp only [step?] at h
    split at h
    · obtain rfl := Option.some.inj h
      exact .submit ‹_›
    · cases h
  | move ticket m =>
    obtain ⟨t, ht, hm⟩ := Option.bind_eq_some_iff.mp h
    obtain ⟨hmem, rfl⟩ := mem_of_task? ht
    exact .move hmem (moved_of_move? hm)
  | finish ticket ending =>
    obtain ⟨t, ht, hm⟩ := Option.bind_eq_some_iff.mp h
    obtain ⟨hmem, rfl⟩ := mem_of_task? ht
    split at hm
    · obtain rfl := Option.some.inj hm
      exact .finish hmem ‹_›
    · cases hm
  | collect =>
    simp only [step?] at h
    split at h
    · obtain rfl := Option.some.inj h
      exact .collect ‹_›
    · cases h
  | join =>
    simp only [step?] at h
    split at h
    · rename_i hrest
      obtain rfl := Option.some.inj h
      simp only [Bool.and_eq_true, List.isEmpty_iff] at hrest
      exact .join hrest.1 hrest.2
    · cases h

/-! ### Tallies -/

/-- The sum of a weight over all tasks, by their numbers and stages. -/
def tally (q : Queue α) (f : Nat → Stage → Nat) : Nat :=
  (q.tasks.map fun t => f t.ticket t.stage).sum

lemma length_filter_stage (q : Queue α) (p : Stage → Bool) :
    (q.tasks.filter (p ·.stage)).length = q.tally fun _ s => (p s).toNat := by
  unfold tally
  induction q.tasks with
  | nil => rfl
  | cons t l ih =>
    rw [List.map_cons, List.sum_cons, ← ih]
    cases h : p t.stage
    · simp [h]
    · simp [h, Nat.add_comm]

lemma tally_le {f g : Nat → Stage → Nat} (h : ∀ n s, f n s ≤ g n s) : q.tally f ≤ q.tally g :=
  List.sum_le_sum fun t _ => h t.ticket t.stage

lemma le_tally (ht : t ∈ q.tasks) (f : Nat → Stage → Nat) : f t.ticket t.stage ≤ q.tally f :=
  List.le_sum_of_mem (List.mem_map_of_mem ht)

lemma map_ticket_put (q : Queue α) (n : Nat) (s : Stage) :
    (q.put n s).tasks.map Task.ticket = q.tasks.map Task.ticket := by
  unfold put
  rw [List.map_map]
  refine List.map_congr_left fun t _ => ?_
  simp only [Function.comp]
  split <;> rfl

lemma mem_put {u : Task α} {s : Stage} (h : u ∈ (q.put n s).tasks) :
    ∃ t ∈ q.tasks, t.ticket = u.ticket ∧ t.host = u.host ∧
      (u = t ∨ t.ticket = n ∧ u.stage = s) := by
  obtain ⟨t, ht, rfl⟩ := List.mem_map.mp h
  refine ⟨t, ht, ?_⟩
  by_cases hn : t.ticket = n
  · simp [hn]
  · simp [hn]

/-- In a list of tasks with distinct numbers, no other task has the number of the first. -/
lemma ne_of_nodup_cons {u : Task α} {l : List (Task α)}
    (hnd : ((t :: l).map Task.ticket).Nodup) (hu : u ∈ l) : u.ticket ≠ t.ticket := by
  rw [List.map_cons, List.nodup_cons] at hnd
  exact fun he => hnd.1 (he ▸ List.mem_map_of_mem hu)

lemma sum_put {l : List (Task α)} (hnd : (l.map Task.ticket).Nodup) (ht : t ∈ l) (s : Stage)
    (f : Nat → Stage → Nat) :
    ((l.map fun u => if u.ticket = t.ticket then { u with stage := s } else u).map
        fun u => f u.ticket u.stage).sum + f t.ticket t.stage =
      (l.map fun u => f u.ticket u.stage).sum + f t.ticket s := by
  induction l with
  | nil => cases ht
  | cons u l ih =>
    have hne := fun {v} (hv : v ∈ l) => ne_of_nodup_cons hnd hv
    simp only [List.map_cons, List.sum_cons]
    rcases List.mem_cons.mp ht with rfl | ht
    · have hrest :
          (l.map fun u => if u.ticket = t.ticket then { u with stage := s } else u) = l := by
        refine (List.map_congr_left fun u hu => ?_).trans (List.map_id l)
        simp [hne hu]
      rw [hrest]
      simp only [if_true]
      omega
    · have := ih (List.nodup_cons.mp hnd).2 ht
      simp only [(hne ht).symm, if_false]
      omega

/-- Bringing a task to a stage changes a tally by the weight of that task alone. -/
lemma tally_put (hnd : (q.tasks.map Task.ticket).Nodup) (ht : t ∈ q.tasks) (s : Stage)
    (f : Nat → Stage → Nat) :
    (q.put t.ticket s).tally f + f t.ticket t.stage = q.tally f + f t.ticket s :=
  sum_put hnd ht s f

lemma tally_submit (q : Queue α) (u : Task α) (held length submitted : Nat)
    (f : Nat → Stage → Nat) :
    ({ q with held, length, submitted, tasks := q.tasks ++ [u] } : Queue α).tally f =
      q.tally f + f u.ticket u.stage := by
  simp [tally]

lemma sum_remove {l : List (Task α)} (hnd : (l.map Task.ticket).Nodup) (ht : t ∈ l)
    (f : Nat → Stage → Nat) :
    ((l.filter (·.ticket ≠ t.ticket)).map fun u => f u.ticket u.stage).sum + f t.ticket t.stage =
      (l.map fun u => f u.ticket u.stage).sum := by
  induction l with
  | nil => cases ht
  | cons u l ih =>
    have hne := fun {v} (hv : v ∈ l) => ne_of_nodup_cons hnd hv
    rcases List.mem_cons.mp ht with rfl | ht
    · have hrest : l.filter (·.ticket ≠ t.ticket) = l :=
        List.filter_eq_self.mpr fun u hu => by simpa using hne hu
      rw [List.filter_cons_of_neg (by simp), hrest, List.map_cons, List.sum_cons, Nat.add_comm]
    · have := ih (List.nodup_cons.mp hnd).2 ht
      rw [List.filter_cons_of_pos (by simpa using (hne ht).symm)]
      simp only [List.map_cons, List.sum_cons]
      omega

/-! ### Jobs and joining -/

/-- No event gives a task a job but the one that submits it. -/
lemma exists_job_of_step (hs : Step q e q') {u : Task α} (hu : u ∈ q'.tasks) :
    (∃ t ∈ q.tasks, t.ticket = u.ticket ∧ t.job = u.job) ∨
      u.ticket = q.submitted ∧ ∃ host, e = .submit host u.job := by
  have hput {p : Queue α} {n : Nat} {s : Stage} (hp : p.tasks = q.tasks)
      (hu : u ∈ (p.put n s).tasks) : ∃ t ∈ q.tasks, t.ticket = u.ticket ∧ t.job = u.job := by
    obtain ⟨t, ht, rfl⟩ := List.mem_map.mp hu
    exact ⟨t, hp ▸ ht, by split <;> rfl, by split <;> rfl⟩
  cases hs with
  | submit =>
    rcases List.mem_append.mp hu with hu | hu
    · exact .inl ⟨u, hu, rfl, rfl⟩
    · obtain rfl := List.mem_singleton.mp hu
      exact .inr ⟨rfl, _, rfl⟩
  | move ht hm =>
    cases hm with
    | complete => exact .inl ⟨u, List.mem_of_mem_filter hu, rfl, rfl⟩
    | _ => exact .inl (hput rfl hu)
  | finish => exact .inl (hput rfl hu)
  | _ => exact .inl ⟨u, hu, rfl, rfl⟩

/-- Only collecting and joining change what joining has collected and given. -/
lemma joining_of_step (hs : Step q e q') (hcollect : e ≠ .collect) (hjoin : e ≠ .join) :
    q'.joining = q.joining ∧ q'.joined = q.joined := by
  cases hs with
  | move ht hm => cases hm <;> exact ⟨rfl, rfl⟩
  | collect => exact absurd rfl hcollect
  | join => exact absurd rfl hjoin
  | _ => exact ⟨rfl, rfl⟩

/-! ### Runs -/

@[simp] lemma run?_nil (q : Queue α) : q.run? [] = some q := rfl

lemma run?_concat (q : Queue α) (es : List (Event α)) (e : Event α) :
    q.run? (es ++ [e]) = (q.run? es).bind (·.step? e) := by
  simp [run?, List.foldlM_append]

/-- What holds at first and is kept by every event holds after every run. -/
theorem run?_induction {P : List (Event α) → Queue α → Prop} (h0 : P [] q)
    (hstep : ∀ es q' e q'', P es q' → Step q' e q'' → P (es ++ [e]) q'') :
    ∀ {es q'}, q.run? es = some q' → P es q' := by
  intro es
  induction es using List.reverseRecOn with
  | nil =>
    intro q' h
    obtain rfl := Option.some.inj h
    exact h0
  | append_singleton es e ih =>
    intro q'' h
    rw [run?_concat] at h
    obtain ⟨q', h1, h2⟩ := Option.bind_eq_some_iff.mp h
    exact hstep es q' e q'' (ih h1) (step_of_step? h2)

end FleetScript.Queue
