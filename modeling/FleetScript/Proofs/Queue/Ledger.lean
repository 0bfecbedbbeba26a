import FleetScript.Proofs.Queue.Slots
import FleetScript.Proofs.Traversal

/-!
What becomes of submitted sequences. A history of a queue tells which hosts were submitted, how
runs ended, and which tasks came to their end; the ledger says that every number handed out is
either with one task or among the completed, that a task has a report once its run has ended, that
the listener has been told the reports of those tasks that are past telling, and that what joining
has collected or has yet to collect are the completed tasks in their order.
-/

namespace FleetScript

open Session

/-! ### Stages with a report -/

namespace Stage

def report? : Stage → Option Report
  | waiting | entered | running => none
  | returned r | released r | announced r | uncounted r | freed r => some r

/-- Whether a run has ended. -/
def hasReport (s : Stage) : Bool := s.report?.isSome

/-- Whether the listener has been told the report. -/
def isTold : Stage → Bool
  | announced _ | uncounted _ | freed _ => true
  | _ => false

end Stage

namespace Queue

variable {α : Type} {q q' : Queue α} {e : Event α} {es : List (Event α)} {n : Nat} {t : Task α}
  {m : Move} {r r' : Report}

/-! ### Histories -/

def Event.host? : Event α → Option String
  | .submit host _ => some host
  | _ => none

def Event.ending? : Event α → Option (Nat × Ending)
  | .finish n ending => some (n, ending)
  | _ => none

def Event.completed? : Event α → Option Nat
  | .move n .complete => some n
  | _ => none

/-- The hosts of the submitted sequences, by their numbers. -/
def hosts (es : List (Event α)) : List String := es.filterMap Event.host?

def endings (es : List (Event α)) : List (Nat × Ending) := es.filterMap Event.ending?

/-- The tasks that have come to their end, in their order. -/
def completions (es : List (Event α)) : List Nat := es.filterMap Event.completed?

/-- In a history the sequence `n` yields a report: its own if its run came to one, and if its run
panicked one of its host, without commands, with the error `worker panicked` and its cause. -/
inductive Yields (es : List (Event α)) (n : Nat) : Report → Prop where
  | own {r : Report} (h : (n, .report r) ∈ endings es) : Yields es n r
  | panicked {host : String} {cause : String} (hh : (hosts es)[n]? = some host)
    (h : (n, .panic cause) ∈ endings es) :
    Yields es n { host, commands := 0, error := some ("worker panicked: " ++ cause) }

lemma getElem?_hosts_concat {host : String} (h : (hosts es)[n]? = some host) :
    (hosts (es ++ [e]))[n]? = some host := by
  unfold hosts
  rw [filterMap_concat]
  exact (List.getElem?_append_left (List.getElem?_eq_some_iff.mp h).1).trans h

lemma Yields.concat (h : Yields es n r) : Yields (es ++ [e]) n r := by
  have hmem : ∀ x ∈ endings es, x ∈ endings (es ++ [e]) := fun x hx => by
    unfold endings
    rw [filterMap_concat]
    exact List.mem_append_left _ hx
  cases h with
  | own h => exact .own (hmem _ h)
  | panicked hh h => exact .panicked (getElem?_hosts_concat hh) (hmem _ h)

lemma yields_finish {host : String} {ending : Ending} (hh : (hosts es)[n]? = some host) :
    Yields (es ++ [.finish n ending]) n (ending.reportFor host) := by
  have hmem : (n, ending) ∈ endings (es ++ [.finish n ending]) := by
    unfold endings
    rw [filterMap_concat]
    exact List.mem_append_right _ (List.mem_singleton.mpr rfl)
  cases ending with
  | report r => exact .own hmem
  | panic cause => exact .panicked (getElem?_hosts_concat hh) hmem

/-- If runs end once, no sequence yields two reports. -/
lemma Yields.unique (hnd : ((endings es).map Prod.fst).Nodup) (h : Yields es n r)
    (h' : Yields es n r') : r = r' := by
  have huniq : ∀ {a b : Ending}, (n, a) ∈ endings es → (n, b) ∈ endings es → a = b :=
    fun ha hb => (Prod.mk.inj (List.inj_on_of_nodup_map hnd ha hb rfl)).2
  cases h with
  | own h =>
    cases h' with
    | own h' => exact Ending.report.inj (huniq h h')
    | panicked hh h' => cases huniq h h'
  | panicked hh h =>
    cases h' with
    | own h' => cases huniq h h'
    | panicked hh' h' =>
      obtain rfl := Option.some.inj (hh.symm.trans hh')
      obtain rfl := Ending.panic.inj (huniq h h')
      rfl

/-! ### The ledger -/

/-- How many tasks have the number `n` and a stage in `p`. -/
def atStage (q : Queue α) (n : Nat) (p : Stage → Bool) : Nat :=
  q.tally fun k s => if k = n ∧ p s then 1 else 0

/-- What joining has collected or has yet to collect, in the order of completion. -/
def collected (q : Queue α) : List (Nat × Report) := q.joined.flatten ++ q.joining ++ q.finished

/-- What the history `es` of a queue says about its tasks, and about what the listener and joining
have seen. -/
structure Ledger (es : List (Event α)) (q : Queue α) : Prop where
  submitted : q.submitted = (hosts es).length
  host : ∀ t ∈ q.tasks, (hosts es)[t.ticket]? = some t.host
  present : ∀ n, q.atStage n (fun _ => true) + (completions es).count n =
    if n < q.submitted then 1 else 0
  ended : ∀ n, ((endings es).map Prod.fst).count n =
    q.atStage n Stage.hasReport + (completions es).count n
  told : ∀ n, (q.announced.map Prod.fst).count n =
    q.atStage n Stage.isTold + (completions es).count n
  collected : q.collected.map Prod.fst = completions es
  task_yields : ∀ t ∈ q.tasks, ∀ r, t.stage.report? = some r → Yields es t.ticket r
  announced_yields : ∀ x ∈ q.announced, Yields es x.1 x.2
  collected_yields : ∀ x ∈ q.collected, Yields es x.1 x.2

lemma ledger_new (n : Nat) : Ledger [] (new n : Queue α) where
  submitted := rfl
  host := fun _ h => absurd h List.not_mem_nil
  present := fun _ => by simp [atStage, tally, new, completions]
  ended := fun _ => by simp [atStage, tally, new, completions, endings]
  told := fun _ => by simp [atStage, tally, new, completions]
  collected := rfl
  task_yields := fun _ h => absurd h List.not_mem_nil
  announced_yields := fun _ h => absurd h List.not_mem_nil
  collected_yields := fun _ h => absurd h List.not_mem_nil

lemma collected_finish (q : Queue α) (tasks : List (Task α)) (x : Nat × Report) :
    ({ q with tasks, finished := q.finished ++ [x] } : Queue α).collected =
      q.collected ++ [x] :=
  (List.append_assoc _ _ _).symm

/-- Bringing the task `t` to the stage `s` keeps the ledger if the runs that have ended and what
the listener has been told change as the stages do. -/
lemma Ledger.put {p : Queue α} {s : Stage} (hb : Balanced q) (h : Ledger es q) (ht : t ∈ q.tasks)
    (htasks : p.tasks = q.tasks) (hsub : p.submitted = q.submitted)
    (hcol : p.collected = q.collected)
    (hhost : e.host? = none) (hcomp : e.completed? = none)
    (hended : ∀ n, (e.ending?.toList.map Prod.fst).count n +
        (if t.ticket = n ∧ t.stage.hasReport then 1 else 0) =
      if t.ticket = n ∧ s.hasReport then 1 else 0)
    (htold : ∀ n, (p.announced.map Prod.fst).count n +
        (if t.ticket = n ∧ t.stage.isTold then 1 else 0) =
      (q.announced.map Prod.fst).count n + if t.ticket = n ∧ s.isTold then 1 else 0)
    (hyields : ∀ r, s.report? = some r → Yields (es ++ [e]) t.ticket r)
    (hannounced : ∀ x ∈ p.announced, x ∈ q.announced ∨ Yields (es ++ [e]) x.1 x.2) :
    Ledger (es ++ [e]) (p.put t.ticket s) := by
  have hp : ∀ n f, (p.put t.ticket s).atStage n f = (q.put t.ticket s).atStage n f := fun n f => by
    unfold atStage Queue.put tally
    rw [htasks]
  -- all other tasks stay, so every tally changes by the two stages of `t` alone
  have hput := fun n (f : Stage → Bool) =>
    tally_put hb.nodup ht s fun k s => if k = n ∧ f s then 1 else 0
  have hh : hosts (es ++ [e]) = hosts es := filterMap_concat_none hhost
  have he : endings (es ++ [e]) = endings es ++ e.ending?.toList := filterMap_concat _ es e
  have hc : completions (es ++ [e]) = completions es := filterMap_concat_none hcomp
  refine ⟨?_, ?_, ?_, ?_, ?_, ?_, ?_, ?_, ?_⟩
  · exact hsub.trans (h.submitted.trans (congrArg _ hh.symm))
  · intro u hu
    obtain ⟨v, hv, hvt, hvh, -⟩ := mem_put hu
    rw [hh, ← hvt, ← hvh]
    exact h.host v (htasks ▸ hv)
  · -- each number belongs to a task, or has been completed
    intro n
    have h1 := h.present n
    have h2 := hput n fun _ => true
    rw [hp, hc]
    show _ = if n < p.submitted then 1 else 0
    rw [hsub]
    simp only [atStage] at h1 h2 ⊢
    omega
  · -- the runs that have ended
    intro n
    have := h.ended n
    have := hput n Stage.hasReport
    have := hended n
    rw [hp, hc, he, List.map_append, List.count_append]
    unfold atStage at *
    omega
  · -- what the listener has been told
    intro n
    have := h.told n
    have := hput n Stage.isTold
    have := htold n
    rw [hp, hc]
    show (p.announced.map Prod.fst).count n = _
    unfold atStage at *
    omega
  · rw [hc, ← h.collected, ← hcol]
    rfl
  · -- of the reports that tasks have only that of `t` may be new
    intro u hu r hr
    obtain ⟨v, hv, hvt, -, rfl | ⟨hvn, hs⟩⟩ := mem_put hu
    · exact (h.task_yields u (htasks ▸ hv) r hr).concat
    · rw [← hvt, hvn]
      exact hyields r (hs ▸ hr)
  · intro x hx
    rcases hannounced x hx with hx | hx
    · exact (h.announced_yields x hx).concat
    · exact hx
  · intro x hx
    exact (h.collected_yields x (hcol ▸ hx)).concat

lemma Ledger.put_quiet {p : Queue α} {s : Stage} (hb : Balanced q) (h : Ledger es q)
    (ht : t ∈ q.tasks) (hm : m ≠ .complete) (htasks : p.tasks = q.tasks)
    (hsub : p.submitted = q.submitted) (hcol : p.collected = q.collected)
    (hann : p.announced = q.announced) (hreport : s.report? = t.stage.report?)
    (htold : s.isTold = t.stage.isTold) :
    Ledger (es ++ [.move t.ticket m]) (p.put t.ticket s) := by
  have hhas : s.hasReport = t.stage.hasReport := congrArg Option.isSome hreport
  refine h.put hb ht htasks hsub hcol rfl ?_ ?_ ?_ ?_ ?_
  · cases m <;> first | rfl | exact absurd rfl hm
  · intro n
    rw [hhas]
    exact Nat.zero_add _
  · intro n
    rw [hann, htold]
  · intro r hr
    exact (h.task_yields t ht r (hreport ▸ hr)).concat
  · exact fun x hx => .inl (hann ▸ hx)

lemma Ledger.moved (hb : Balanced q) (h : Ledger es q) (ht : t ∈ q.tasks) (hm : Moved q t m q') :
    Ledger (es ++ [.move t.ticket m]) q' := by
  cases hm with
  | enter hs hf =>
    refine h.put_quiet hb ht nofun rfl rfl rfl rfl ?_ ?_ <;> rw [hs] <;> rfl
  | turnAway hs hc =>
    -- the permits are never closed
    rw [hb.permits_open] at hc
    cases hc
  | launch hs => refine h.put_quiet hb ht nofun rfl rfl rfl rfl ?_ ?_ <;> rw [hs] <;> rfl
  | release hs => refine h.put_quiet hb ht nofun rfl rfl rfl rfl ?_ ?_ <;> rw [hs] <;> rfl
  | @announce r hs =>
    have hr : Yields (es ++ [.move t.ticket .announce]) t.ticket r :=
      (h.task_yields t ht r (by rw [hs]; rfl)).concat
    -- the report is told, and the task keeps it
    refine h.put hb ht rfl rfl rfl rfl rfl ?_ ?_ ?_ ?_
    · intro n
      rw [hs]
      exact Nat.zero_add _
    · intro n
      rw [hs]
      simp [Stage.isTold, List.count_singleton]
    · intro r' hr'
      obtain rfl := Option.some.inj hr'
      exact hr
    · intro x hx
      rcases List.mem_append.mp hx with hx | hx
      · exact .inl hx
      · obtain rfl := List.mem_singleton.mp hx
        exact .inr hr
  | uncount hs => refine h.put_quiet hb ht nofun rfl rfl rfl rfl ?_ ?_ <;> rw [hs] <;> rfl
  | free hs => refine h.put_quiet hb ht nofun rfl rfl rfl rfl ?_ ?_ <;> rw [hs] <;> rfl
  | @complete r hs =>
    have hr : Yields (es ++ [.move t.ticket .complete]) t.ticket r :=
      (h.task_yields t ht r (by rw [hs]; rfl)).concat
    -- the task goes, and its number is completed instead
    have hremove := fun n (f : Stage → Bool) =>
      sum_remove hb.nodup ht fun k s => if k = n ∧ f s then 1 else 0
    have hc : completions (es ++ [.move t.ticket .complete]) = completions es ++ [t.ticket] :=
      filterMap_concat _ es _
    have hcount : ∀ n, (completions (es ++ [.move t.ticket .complete])).count n =
        (completions es).count n + if t.ticket = n then 1 else 0 := fun n => by
      rw [hc, List.count_append]
      simp [List.count_singleton]
    have hh : hosts (es ++ [.move t.ticket .complete]) = hosts es := filterMap_concat_none rfl
    have he : endings (es ++ [.move t.ticket .complete]) = endings es := filterMap_concat_none rfl
    refine ⟨?_, ?_, ?_, ?_, ?_, ?_, ?_, ?_, ?_⟩
    · rw [hh]
      exact h.submitted
    · intro u hu
      rw [hh]
      exact h.host u (List.mem_of_mem_filter hu)
    · intro n
      have h1 := h.present n
      have h2 := hremove n fun _ => true
      rw [hcount]
      simp only [atStage, tally, and_true] at h1 h2 ⊢
      omega
    · intro n
      have h1 := h.ended n
      have h2 := hremove n Stage.hasReport
      rw [hcount, he]
      simp only [hs, atStage, tally, Stage.hasReport, Stage.report?, Option.isSome_some, and_true]
        at h1 h2 ⊢
      omega
    · intro n
      have h1 := h.told n
      have h2 := hremove n Stage.isTold
      rw [hcount]
      simp only [hs, atStage, tally, Stage.isTold, and_true] at h1 h2 ⊢
      omega
    · rw [hc, ← h.collected, collected_finish, List.map_append]
      rfl
    · intro u hu r' hr'
      exact (h.task_yields u (List.mem_of_mem_filter hu) r' hr').concat
    · exact fun x hx => (h.announced_yields x hx).concat
    · -- joining gets the report that the task had
      intro x hx
      rw [collected_finish] at hx
      rcases List.mem_append.mp hx with hx | hx
      · exact (h.collected_yields x hx).concat
      · obtain rfl := List.mem_singleton.mp hx
        exact hr

lemma Ledger.silent {p : Queue α} (h : Ledger es q) (htasks : p.tasks = q.tasks)
    (hsub : p.submitted = q.submitted) (hann : p.announced = q.announced)
    (hcol : p.collected = q.collected) (hhost : e.host? = none) (hend : e.ending? = none)
    (hcomp : e.completed? = none) : Ledger (es ++ [e]) p := by
  have hh : hosts (es ++ [e]) = hosts es := filterMap_concat_none hhost
  have he : endings (es ++ [e]) = endings es := filterMap_concat_none hend
  have hc : completions (es ++ [e]) = completions es := filterMap_concat_none hcomp
  have hat : ∀ n f, p.atStage n f = q.atStage n f := fun n f => by
    unfold atStage tally
    rw [htasks]
  refine ⟨?_, ?_, ?_, ?_, ?_, ?_, ?_, ?_, ?_⟩
  · rw [hh, hsub]
    exact h.submitted
  · rw [hh, htasks]
    exact h.host
  · intro n
    rw [hat, hc, hsub]
    exact h.present n
  · intro n
    rw [hat, hc, he]
    exact h.ended n
  · intro n
    rw [hat, hc, hann]
    exact h.told n
  · rw [hc, hcol]
    exact h.collected
  · intro t ht r hr
    exact (h.task_yields t (htasks ▸ ht) r hr).concat
  · exact fun x hx => (h.announced_yields x (hann ▸ hx)).concat
  · exact fun x hx => (h.collected_yields x (hcol ▸ hx)).concat

lemma Ledger.submit {host : String} {job : α} (h : Ledger es q) (held length : Nat) :
    Ledger (es ++ [.submit host job]) { q with
      held, length, submitted := q.submitted + 1
      tasks := q.tasks ++ [{ ticket := q.submitted, host, job }] } := by
  have hh : hosts (es ++ [.submit host job]) = hosts es ++ [host] := filterMap_concat _ es _
  have he : endings (es ++ [.submit host job]) = endings es := filterMap_concat_none rfl
  have hc : completions (es ++ [.submit host job]) = completions es := filterMap_concat_none rfl
  refine ⟨?_, ?_, ?_, ?_, ?_, ?_, ?_, ?_, ?_⟩
  · rw [hh, List.length_append, ← h.submitted]
    rfl
  · intro t ht
    rcases List.mem_append.mp ht with ht | ht
    · exact getElem?_hosts_concat (h.host t ht)
    · obtain rfl := List.mem_singleton.mp ht
      rw [hh, h.submitted]
      exact List.getElem?_concat_length
  · intro n
    have hp := h.present n
    unfold atStage at hp ⊢
    rw [tally_submit, hc]
    simp only [and_true] at hp ⊢
    split at hp <;> split <;> split <;> omega
  · -- the new task has no report, so none has to be accounted for
    intro n
    rw [he, hc, h.ended n]
    unfold atStage
    rw [tally_submit]
    simp [Stage.hasReport, Stage.report?]
  · intro n
    rw [hc]
    refine (h.told n).trans ?_
    unfold atStage
    rw [tally_submit]
    simp [Stage.isTold]
  · rw [hc]
    exact h.collected
  · intro t ht r hr
    rcases List.mem_append.mp ht with ht | ht
    · exact (h.task_yields t ht r hr).concat
    · obtain rfl := List.mem_singleton.mp ht
      cases hr
  · exact fun x hx => (h.announced_yields x hx).concat
  · exact fun x hx => (h.collected_yields x hx).concat

/-- **Every event keeps the ledger.** -/
theorem Ledger.step (hb : Balanced q) (h : Ledger es q) (hs : Step q e q') :
    Ledger (es ++ [e]) q' := by
  cases hs with
  | reserve hf => exact h.silent rfl rfl rfl rfl rfl rfl rfl
  | refuse hc => exact h.silent rfl rfl rfl rfl rfl rfl rfl
  | drop hh => exact h.silent rfl rfl rfl rfl rfl rfl rfl
  | submit hh => exact h.submit _ _
  | move ht hm => exact h.moved hb ht hm
  | @finish t ending ht hrun =>
    -- the run gives the task its report, which nobody has been told yet
    refine h.put hb ht rfl rfl rfl rfl rfl ?_ ?_ ?_ (fun x hx => .inl hx)
    · intro n
      rw [hrun]
      simp [Event.ending?, Stage.hasReport, Stage.report?, List.count_singleton]
    · intro n
      rw [hrun]
      rfl
    · intro r hr
      obtain rfl := Option.some.inj hr
      exact yields_finish (h.host t ht)
  | collect hx =>
    refine h.silent rfl rfl rfl ?_ rfl rfl rfl
    simp [Queue.collected, hx]
  | join ht hx =>
    refine h.silent rfl rfl rfl ?_ rfl rfl rfl
    simp [Queue.collected, hx]

end Queue

end FleetScript
