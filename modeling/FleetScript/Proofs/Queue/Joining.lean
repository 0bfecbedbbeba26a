import FleetScript.Proofs.Queue.Ledger
import FleetScript.Proofs.Queue.Progress

/-!
No report is lost and none is given twice. The ledger holds after every history, and counting in
it shows that a run ends once, that the listener is told once, and that joining collects each
completed task once, always the report that the sequence yields. When joining comes to its end no
task is left, so that then all of this has happened for every submitted sequence.
-/

namespace FleetScript.Queue

open Session

variable {α : Type} {q q' : Queue α} {e : Event α} {es : List (Event α)} {n : Nat} {r : Report}

/-! ### Counting in the ledger -/

theorem ledger_of_run? (h : (new n).run? es = some q) : Balanced q ∧ Ledger es q :=
  run?_induction (P := fun es q => Balanced q ∧ Ledger es q) ⟨balanced_new n, ledger_new n⟩
    (fun _ _ _ _ ⟨hb, hl⟩ hs => ⟨hb.step hs, hl.step hb hs⟩) h

lemma atStage_le (q : Queue α) (n : Nat) (p : Stage → Bool) :
    q.atStage n p ≤ q.atStage n fun _ => true :=
  tally_le fun k s => by split <;> simp_all

namespace Ledger

/-- A number is with one task, or among the completed once, or neither. -/
lemma present_le_one (h : Ledger es q) (n : Nat) (p : Stage → Bool) :
    q.atStage n p + (completions es).count n ≤ 1 := by
  have hp := h.present n
  have hle := atStage_le q n p
  split at hp <;> omega

lemma nodup_completions (h : Ledger es q) : (completions es).Nodup :=
  List.nodup_iff_count_le_one.mpr fun n =>
    (Nat.le_add_left _ _).trans (h.present_le_one n fun _ => true)

lemma nodup_endings (h : Ledger es q) : ((endings es).map Prod.fst).Nodup :=
  List.nodup_iff_count_le_one.mpr fun n => (h.ended n).trans_le (h.present_le_one n _)

lemma nodup_announced (h : Ledger es q) : (q.announced.map Prod.fst).Nodup :=
  List.nodup_iff_count_le_one.mpr fun n => (h.told n).trans_le (h.present_le_one n _)

/-- A list of what sequences yield that has the number of one has its report. -/
lemma mem_of_yields {xs : List (Nat × Report)} (h : Ledger es q)
    (hxs : ∀ x ∈ xs, Yields es x.1 x.2) (hn : n ∈ xs.map Prod.fst) (hr : Yields es n r) :
    (n, r) ∈ xs := by
  obtain ⟨x, hx, rfl⟩ := List.mem_map.mp hn
  rw [Yields.unique h.nodup_endings hr (hxs x hx)]
  exact hx

lemma mem_announced (h : Ledger es q) {x : Nat × Report} (hx : x ∈ q.collected) :
    x ∈ q.announced := by
  have hcomp : x.1 ∈ completions es := by
    rw [← h.collected]
    exact List.mem_map_of_mem hx
  have htold : x.1 ∈ q.announced.map Prod.fst := by
    have := List.count_pos_iff.mpr hcomp
    rw [← List.count_pos_iff, h.told]
    omega
  exact h.mem_of_yields h.announced_yields htold (h.collected_yields x hx)

end Ledger

/-! ### Without tasks -/

/-- A list of numbers that holds each below `k` once is the range up to order. -/
lemma perm_range_of_count {l : List Nat} {k : Nat}
    (h : ∀ n, l.count n = if n < k then 1 else 0) : l.Perm (List.range k) :=
  List.perm_iff_count.mpr fun n => by rw [h n, List.count_range]

lemma tally_of_no_tasks (ht : q.tasks = []) (f : Nat → Stage → Nat) : q.tally f = 0 := by
  unfold tally
  rw [ht]
  rfl

lemma atStage_of_no_tasks (ht : q.tasks = []) (n : Nat) (p : Stage → Bool) : q.atStage n p = 0 :=
  tally_of_no_tasks ht _

namespace Ledger

lemma perm_completions (h : Ledger es q) (ht : q.tasks = []) :
    (completions es).Perm (List.range (hosts es).length) :=
  perm_range_of_count fun n => by
    have := h.present n
    rwa [atStage_of_no_tasks ht, Nat.zero_add, h.submitted] at this

lemma perm_endings (h : Ledger es q) (ht : q.tasks = []) :
    ((endings es).map Prod.fst).Perm (List.range (hosts es).length) := by
  refine .trans (List.perm_iff_count.mpr fun n => ?_) (h.perm_completions ht)
  rw [h.ended n, atStage_of_no_tasks ht, Nat.zero_add]

lemma perm_announced (h : Ledger es q) (ht : q.tasks = []) :
    (q.announced.map Prod.fst).Perm (List.range (hosts es).length) := by
  refine .trans (List.perm_iff_count.mpr fun n => ?_) (h.perm_completions ht)
  rw [h.told n, atStage_of_no_tasks ht, Nat.zero_add]

end Ledger

/-! ### The queue is never found closed -/

def Event.findsClosed : Event α → Bool
  | .refuse | .move _ .turnAway => true
  | _ => false

lemma Balanced.findsClosed_eq_false (hb : Balanced q) (hs : Step q e q') :
    e.findsClosed = false := by
  cases hs with
  | refuse hc =>
    rw [hb.slots_open] at hc
    cases hc
  | move ht hm =>
    cases hm with
    | turnAway _ hc =>
      rw [hb.permits_open] at hc
      cases hc
    | _ => rfl
  | _ => rfl

theorem findsClosed_of_run? (h : (new n).run? es = some q) : ∀ e ∈ es, e.findsClosed = false := by
  have hrun : Balanced q ∧ ∀ e ∈ es, e.findsClosed = false :=
    run?_induction (P := fun es q => Balanced q ∧ ∀ e ∈ es, e.findsClosed = false)
      ⟨balanced_new n, by simp⟩
      (fun es p e p' ⟨hb, ih⟩ hs => ⟨hb.step hs, fun e' he' => by
        rcases List.mem_append.mp he' with he' | he'
        · exact ih e' he'
        · obtain rfl := List.mem_singleton.mp he'
          exact hb.findsClosed_eq_false hs⟩) h
  exact hrun.2

/-! ### Joining -/

/-- What is so when joining comes to its end after the history `es`, and takes `q` to `q'`: it
gives what it has collected, which continues what it gave before in the order of completion; all
submitted sequences have ended, the listener has been told the same reports, and joining has
given them; the length is zero, and every slot is free or held by the caller. -/
structure Joined (es : List (Event α)) (q q' : Queue α) : Prop where
  last : q'.joined = q.joined ++ [q.joining]
  order : (q.joined.flatten ++ q.joining).map Prod.fst = completions es
  ended : ((endings es).map Prod.fst).Perm (List.range (hosts es).length)
  given : (q'.joined.flatten.map Prod.fst).Perm (List.range (hosts es).length)
  told : q'.joined.flatten.Perm q'.announced
  length : q'.length = 0
  slots : q'.slots.free + q'.held = 2 * q'.workers

lemma joined_of_step (hb : Balanced q) (h : Ledger es q) (hs : Step q .join q') :
    Joined es q q' := by
  cases hs with
  | join ht hx =>
    have hcollected : q.collected = q.joined.flatten ++ q.joining := by
      unfold collected
      rw [hx, List.append_nil]
    have hflatten : (q.joined ++ [q.joining]).flatten = q.collected := by
      rw [hcollected]
      simp
    have hgiven : (q.collected.map Prod.fst).Perm (List.range (hosts es).length) := by
      rw [h.collected]
      exact h.perm_completions ht
    refine ⟨rfl, ?_, ?_, ?_, ?_, ?_, ?_⟩
    · rw [← hcollected, h.collected]
    · exact h.perm_endings ht
    · rw [hflatten]
      exact hgiven
    · rw [hflatten]
      have hnd : q.collected.Nodup :=
        List.Nodup.of_map Prod.fst (h.collected ▸ h.nodup_completions)
      refine (List.perm_ext_iff_of_nodup hnd (List.Nodup.of_map _ h.nodup_announced)).mpr
        fun x => ⟨h.mem_announced, fun hx' => ?_⟩
      -- the listener knows of no sequence that joining has not given
      have hmem : x.1 ∈ q.collected.map Prod.fst :=
        (hgiven.trans (h.perm_announced ht).symm).mem_iff.mpr (List.mem_map_of_mem hx')
      exact h.mem_of_yields h.collected_yields hmem (h.announced_yields x hx')
    · rw [hb.length, tally_of_no_tasks ht]
    · have := hb.slots
      rw [tally_of_no_tasks ht] at this
      exact this

/-! ### Histories -/

/-- What holds after a history `es` that leads to `q`: no run ends twice and no sequence yields two
reports; the listener has been told no report twice, and only what sequences yield; joining
collects the completed tasks in their order, with the reports that the listener was told; nothing
finds the queue closed; joining comes to its end as `Joined` says; and it does so once runs have
ended, since work gets less and is stuck only when joining can come to its end. -/
structure Accounted (es : List (Event α)) (q : Queue α) : Prop where
  ended_once : ((endings es).map Prod.fst).Nodup
  yields_once : ∀ n r r', Yields es n r → Yields es n r' → r = r'
  told_once : (q.announced.map Prod.fst).Nodup
  told_yields : ∀ x ∈ q.announced, Yields es x.1 x.2
  collected_once : (q.collected.map Prod.fst).Nodup
  collected_order : q.collected.map Prod.fst = completions es
  collected_told : ∀ x ∈ q.collected, x ∈ q.announced
  never_closed : ∀ e ∈ es, e.findsClosed = false
  joined : ∀ q', q.step? .join = some q' → Joined es q q'
  work_ends : ∀ es' q', q.run? es' = some q' → (∀ e ∈ es', e.isWork = true) →
    es'.length ≤ q.work
  never_stuck : (∀ e, e.isWork = true → q.step? e = none) → ∃ q', q.step? .join = some q'

/-- **Every submitted sequence yields one report, and the listener and joining get it once.** -/
theorem accounted_of_run? (h : (new n).run? es = some q) : Accounted es q := by
  obtain ⟨hb, hl⟩ := ledger_of_run? h
  have hw : 0 < q.workers := by
    rw [workers_of_run? h]
    omega
  refine ⟨hl.nodup_endings, fun _ _ _ => Yields.unique hl.nodup_endings, hl.nodup_announced,
    hl.announced_yields, ?_, hl.collected, fun _ => hl.mem_announced, findsClosed_of_run? h,
    ?_, fun _ _ => hb.length_le_work, ?_⟩
  · rw [hl.collected]
    exact hl.nodup_completions
  · exact fun q' hq' => joined_of_step hb hl (step_of_step? hq')
  · intro hstuck
    obtain ⟨ht, hx⟩ := hb.join_of_stuck hw hstuck
    simp only [step?, ht, hx]
    exact ⟨_, rfl⟩

/-- Two sequences run, one panics, and both are joined; another one is submitted after that. -/
def panickingHistory : List (Event Unit) :=
  [.reserve, .reserve, .submit "r1" (), .submit "r2" (), .move 1 .enter, .move 0 .enter,
    .move 1 .launch, .move 0 .launch, .finish 1 (.panic "task 3 panicked"), .move 1 .release,
    .move 1 .announce, .move 1 .uncount, .move 1 .free, .move 1 .complete, .collect,
    .finish 0 (.report { host := "r1", commands := 3, error := none }), .move 0 .release,
    .move 0 .announce, .move 0 .uncount, .move 0 .free, .move 0 .complete, .collect, .join,
    .reserve, .submit "r3" ()]

/-- Joining gives the report of the panic first, as its run ended first, and the listener was told
the same. -/
theorem accounted_of_run?_panicking :
    ∃ q, (new 2).run? panickingHistory = some q ∧ Accounted panickingHistory q ∧
      q.joined = [
        [(1, { host := "r2", commands := 0, error := some "worker panicked: task 3 panicked" }),
          (0, { host := "r1", commands := 3, error := none })]] ∧
      q.announced = q.joined.flatten := by
  obtain ⟨q, hq⟩ : ∃ q, (new 2).run? panickingHistory = some q := ⟨_, rfl⟩
  refine ⟨q, hq, accounted_of_run? hq, ?_, ?_⟩ <;>
  · obtain rfl := Option.some.inj hq
    rfl

end FleetScript.Queue
