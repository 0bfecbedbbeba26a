import FleetScript.Proofs.Dispatch.Course
import FleetScript.Session.DryRun

/-!
What becomes of hosts one by one. The hosts of a runner are handled in the order of registration,
each once, while a slot is held for it; what it compiles to at that time puts it into one of four
classes, and the queue gets the sequences of those that have a plan, in their order. An account of a
dispatch lists the hosts handled so far with what they compiled to; every event keeps it, whatever
the workers do meanwhile, and sequences may end in any way, also with a panic.
-/

namespace FleetScript

/-! ### Handled hosts -/

/-- A host that has been handled, and what it compiled to. -/
structure Handled where
  entry : Host.Entry
  outcome : Except RunnerError Compiled

namespace Handled

/-- The plan that is submitted. -/
def plan? (x : Handled) : Option Plan :=
  match x.outcome with
  | .ok (.plan p) => some p
  | _ => none

/-- The host, if it is skipped. -/
def skipped? (x : Handled) : Option String :=
  match x.outcome with
  | .ok (.unsupported _) => some x.entry.raw
  | _ => none

/-- The host, if its script failed, and the text of the failure. -/
def failed? (x : Handled) : Option (String × String) :=
  match x.outcome with
  | .error (.script cause) => some (x.entry.raw, cause.message)
  | _ => none

/-- Any other failure. -/
def stop? (x : Handled) : Option RunnerError :=
  match x.outcome with
  | .error (.script _) => none
  | .error cause => some cause
  | .ok _ => none

/-- The number of classes that a host is in. -/
def classes (x : Handled) : Nat :=
  x.plan?.toList.length + x.skipped?.toList.length + x.failed?.toList.length +
    x.stop?.toList.length

lemma classes_eq_one (x : Handled) : x.classes = 1 := by
  obtain ⟨entry, outcome⟩ := x
  rcases outcome with e | p | u
  · cases e <;> rfl
  · rfl
  · rfl

lemma toList_plan? (x : Handled) : x.plan?.toList = Outline.planOf x.outcome := by
  obtain ⟨entry, outcome⟩ := x
  rcases outcome with e | p | u <;> rfl

lemma plan?_of_stop? {x : Handled} {cause : RunnerError} (h : x.stop? = some cause) :
    x.plan? = none ∧ x.skipped? = none ∧ x.failed? = none := by
  obtain ⟨entry, outcome⟩ := x
  rcases outcome with e | p | u
  · cases e <;> first | exact ⟨rfl, rfl, rfl⟩ | cases h
  · cases h
  · cases h

lemma add_eq (x : Handled) (out : Outline) :
    out.add x.entry x.outcome =
      { summary := {
          submitted := out.summary.submitted + x.plan?.toList.length
          skipped := out.summary.skipped ++ x.skipped?.toList
          failed := out.summary.failed ++ x.failed?.toList }
        plans := out.plans ++ x.plan?.toList
        stopped := x.stop?.or out.stopped } := by
  obtain ⟨entry, outcome⟩ := x
  rcases outcome with e | p | u
  · cases e <;> simp [Outline.add, plan?, skipped?, failed?, stop?]
  · simp [Outline.add, plan?, skipped?, failed?, stop?]
  · simp [Outline.add, plan?, skipped?, failed?, stop?]

/-- Hosts none of which stops a dispatch are submitted, skipped and failed ones. -/
lemma length_eq {xs : List Handled} (h : ∀ x ∈ xs, x.stop? = none) :
    (xs.filterMap plan?).length + (xs.filterMap skipped?).length + (xs.filterMap failed?).length =
      xs.length := by
  induction xs using List.reverseRecOn with
  | nil => rfl
  | append_singleton xs x ih =>
    obtain ⟨hxs, hx⟩ := List.forall_mem_append.mp h
    have hx : x.stop? = none := hx x (List.mem_singleton_self x)
    have hone := x.classes_eq_one
    have hrest := ih hxs
    unfold classes at hone
    rw [hx] at hone
    simp only [filterMap_concat, List.length_append, List.length_singleton]
    simp only [Option.toList_none, List.length_nil] at hone
    omega

end Handled

/-! ### Submissions -/

namespace Queue

/-- The sequence that an event submits, and its host. -/
def Event.submission? {α : Type} : Event α → Option (String × α)
  | .submit host job => some (host, job)
  | _ => none

/-- The submitted sequences with their hosts, by their numbers. -/
def submissions {α : Type} (es : List (Event α)) : List (String × α) :=
  es.filterMap Event.submission?

lemma host?_of_submission? {α : Type} {e : Event α} (h : e.submission? = none) :
    e.host? = none := by
  cases e <;> first | rfl | cases h

end Queue

lemma Queue.Ledger.holds_or_told {α : Type} {es : List (Queue.Event α)} {q : Queue α}
    (h : Queue.Ledger es q) {n : Nat} (hn : n < q.submitted) :
    (∃ task ∈ q.slotHolders, task.ticket = n) ∨ ∃ report, (n, report) ∈ q.announced := by
  have htold : 0 < q.atStage n Stage.isTold + (Queue.completions es).count n →
      ∃ report, (n, report) ∈ q.announced := by
    intro hpos
    rw [← h.told n, List.count_pos_iff] at hpos
    obtain ⟨x, hx, rfl⟩ := List.mem_map.mp hpos
    exact ⟨x.2, hx⟩
  by_cases hex : ∃ task ∈ q.tasks, task.ticket = n
  · obtain ⟨task, htask, rfl⟩ := hex
    cases hslot : task.stage.holdsSlot with
    | true => exact .inl ⟨task, List.mem_filter.mpr ⟨htask, hslot⟩, rfl⟩
    | false =>
      -- a slot is freed only after the report has been told
      have hisTold : task.stage.isTold = true := by
        cases hs : task.stage <;> simp_all [Stage.holdsSlot, Stage.isTold]
      have hle := Queue.le_tally htask fun k s => if k = task.ticket ∧ s.isTold then 1 else 0
      simp only [hisTold, and_self, if_true] at hle
      refine .inr (htold ?_)
      unfold Queue.atStage
      omega
  · have hnone : q.atStage n (fun _ => true) = 0 := by
      unfold Queue.atStage Queue.tally
      refine List.sum_eq_zero fun k hk => ?_
      obtain ⟨task, htask, rfl⟩ := List.mem_map.mp hk
      exact if_neg fun hsame => hex ⟨task, htask, hsame.1⟩
    have hpresent := h.present n
    rw [hnone, if_pos hn] at hpresent
    exact .inr (htold (by omega))

namespace Dispatch

variable {σ : Type} (r : Runner) (o : Options) (name : String) (t : Transport σ)

/-! ### Courses of the workers -/

/-- The states that a dispatch can come to if a sequence may end in any way, the panic of a worker
included, and leave any disk. -/
inductive Leads (d : Dispatch σ) : Dispatch σ → Prop where
  | refl : Leads d d
  | step {d' d'' : Dispatch σ} (h : Leads d d') (e : Event)
    (he : step? r o name t d' e = some d'') : Leads d d''
  | ends {d' : Dispatch σ} {q : Queue Sequence} (h : Leads d d') (ticket : Nat) (ending : Ending)
    (disk : Disk) (hq : d'.queue.step? (.finish ticket ending) = some q) :
    Leads d { d' with queue := q, disk }

variable {r o name t} {threads : Nat} {disk : Disk} {d d' : Dispatch σ} {e : Event}

lemma Leads.trans {d'' : Dispatch σ} (h : Leads r o name t d d') (h' : Leads r o name t d' d'') :
    Leads r o name t d d'' := by
  induction h' with
  | refl => exact h
  | step _ e he ih => exact ih.step e he
  | ends _ ticket ending disk hq ih => exact ih.ends ticket ending disk hq

lemma Reaches.leads (h : Reaches r o name t d d') : Leads r o name t d d' := by
  induction h with
  | refl => exact .refl
  | step _ e he ih => exact ih.step e he

theorem Ready.leads (hready : Ready d) (h : Leads r o name t d d') : Ready d' := by
  induction h with
  | refl => exact hready
  | step _ e he ih => exact ih.step (takes_of_step? he)
  | ends _ ticket ending disk hq ih =>
    have hstep := Queue.step_of_step? hq
    exact ⟨ih.balanced.step hstep, Queue.workers_step hstep ▸ ih.workers,
      held_of_isWork hstep rfl ▸ ih.held⟩

theorem ready_of_leads (h : Leads r o name t (start r threads disk) d) : Ready d :=
  (ready_start r threads disk).leads h

/-! ### Accounts -/

variable (r o name t threads disk) in
/-- The turn of the host number `n` on the way to `d`: a slot was held for it, and it compiled to
what it did. -/
def Turn (d : Dispatch σ) (n : Nat) (x : Handled) : Prop :=
  ∃ d₀, Leads r o name t (start r threads disk) d₀ ∧ Leads r o name t d₀ d ∧
    d₀.hosts = r.registry.entries.drop n ∧ d₀.stopped = none ∧ d₀.queue.held = 1 ∧
    r.compile d₀.disk { maxThreads := max threads 1, name } x.entry o = x.outcome

variable (r o name t threads disk) in
/-- The hosts `xs` have been handled in a dispatch, with the history `es` of its queue. -/
structure Account (d : Dispatch σ) (xs : List Handled) (es : List (Queue.Event Sequence)) :
    Prop where
  tracks : Tracks threads (xs.filterMap Handled.plan?) es d.queue
  submissions : Queue.submissions es =
    (xs.filterMap Handled.plan?).map fun p => (p.name, p.sequence)
  hosts : xs.map Handled.entry ++ d.hosts = r.registry.entries
  turns : ∀ n x, xs[n]? = some x → Turn r o name t threads disk d n x
  submitted : d.summary.submitted = (xs.filterMap Handled.plan?).length
  skipped : d.summary.skipped = xs.filterMap Handled.skipped?
  failed : d.summary.failed = xs.filterMap Handled.failed?
  unstopped : d.stopped = none → ∀ x ∈ xs, x.stop? = none
  stopped : ∀ cause, d.stopped = some cause →
    ∃ before x, xs = before ++ [x] ∧ (∀ y ∈ before, y.stop? = none) ∧ x.stop? = some cause

section Account

variable {xs : List Handled} {es : List (Queue.Event Sequence)}

lemma account_start (hl : r.script.isSome) :
    Account r o name t threads disk (start r threads disk) [] [] where
  tracks := tracks_new threads
  submissions := rfl
  hosts := rfl
  turns := fun _ _ hx => by simp at hx
  submitted := rfl
  skipped := rfl
  failed := rfl
  unstopped := fun _ _ hx => absurd hx List.not_mem_nil
  stopped := fun cause h => by
    obtain ⟨loaded, hl⟩ := Option.isSome_iff_exists.mp hl
    have hnone : (start r threads disk : Dispatch σ).stopped = none := by
      unfold start
      rw [hl]
      rfl
    rw [hnone] at h
    cases h

lemma Turn.go {n : Nat} {x : Handled} (h : Turn r o name t threads disk d n x)
    (hd : Leads r o name t d d') : Turn r o name t threads disk d' n x := by
  obtain ⟨d₀, hstart, hlead, hturn⟩ := h
  exact ⟨d₀, hstart, hlead.trans hd, hturn⟩

/-- An event of the queue that submits nothing, and changes nothing of the hosts, keeps the
account. -/
lemma Account.keep {qe : Queue.Event Sequence} (h : Account r o name t threads disk d xs es)
    (hd : Leads r o name t d d') (hq : d.queue.step? qe = some d'.queue)
    (hsubmission : qe.submission? = none) (hhosts : d'.hosts = d.hosts)
    (hsummary : d'.summary = d.summary) (hstopped : d'.stopped = d.stopped) :
    Account r o name t threads disk d' xs (es ++ [qe]) where
  tracks := h.tracks.keep hq (Queue.host?_of_submission? hsubmission)
  submissions := (filterMap_concat_none hsubmission).trans h.submissions
  hosts := by
    rw [hhosts]
    exact h.hosts
  turns n x hx := (h.turns n x hx).go hd
  submitted := by
    rw [hsummary]
    exact h.submitted
  skipped := by
    rw [hsummary]
    exact h.skipped
  failed := by
    rw [hsummary]
    exact h.failed
  unstopped := by
    rw [hstopped]
    exact h.unstopped
  stopped := by
    rw [hstopped]
    exact h.stopped

lemma submission?_slotEvent (x : Handled) :
    (slotEvent x.outcome).submission? = x.plan?.map fun p => (p.name, p.sequence) := by
  obtain ⟨entry, outcome⟩ := x
  rcases outcome with e | p | u <;> rfl

lemma held_of_slotEvent {c : Except RunnerError Compiled} {q : Queue Sequence} (hready : Ready d)
    (hq : d.queue.step? (slotEvent c) = some q) : d.queue.held = 1 := by
  have hpos : 0 < d.queue.held := by
    unfold slotEvent at hq
    split at hq
    · cases Queue.step_of_step? hq
      assumption
    · cases Queue.step_of_step? hq
      assumption
  have := hready.held
  omega

lemma Account.handle {x : Handled} {hosts : List Host.Entry} {q : Queue Sequence}
    {notices : List Notice} (h : Account r o name t threads disk d xs es) (hready : Ready d)
    (hstart : Leads r o name t (start r threads disk) d) (hs : d.stopped = none)
    (hh : d.hosts = x.entry :: hosts)
    (hc : r.compile d.disk { maxThreads := d.queue.workers, name } x.entry o = x.outcome)
    (hq : d.queue.step? (slotEvent x.outcome) = some q)
    (hd : d' = { d with
      hosts
      stopped := (Outline.add { summary := d.summary, stopped := d.stopped } x.entry
        x.outcome).stopped
      summary := (Outline.add { summary := d.summary, stopped := d.stopped } x.entry
        x.outcome).summary
      queue := q
      notices })
    (hlead : Leads r o name t d d') :
    Account r o name t threads disk d' (xs ++ [x]) (es ++ [slotEvent x.outcome]) := by
  -- the host is the next one, and the step in which it is handled is its turn
  have hentries : r.registry.entries.drop xs.length = d.hosts := by
    rw [← h.hosts, List.drop_append_of_le_length (by simp), ← List.length_map Handled.entry,
      List.drop_length, List.nil_append]
  have hturn : Turn r o name t threads disk d xs.length x := by
    refine ⟨d, hstart, .refl, hentries.symm, hs, held_of_slotEvent hready hq, ?_⟩
    rw [← hc, Queue.workers_of_run? h.tracks.run]
  rw [Handled.add_eq, hs, Option.or_none] at hd
  subst hd
  refine ⟨?_, ?_, ?_, ?_, ?_, ?_, ?_, ?_, ?_⟩
  · rw [filterMap_concat, Handled.toList_plan?]
    exact h.tracks.handle hq
  · rw [filterMap_concat, List.map_append, ← h.submissions]
    refine (filterMap_concat _ es _).trans ?_
    rw [submission?_slotEvent]
    cases x.plan? <;> rfl
  · rw [← h.hosts, hh]
    simp
  · intro n y hy
    rcases Nat.lt_or_ge n xs.length with hn | hn
    · -- the hosts before this one keep their turns
      rw [List.getElem?_append_left hn] at hy
      exact (h.turns n y hy).go hlead
    · rw [List.getElem?_append_right hn, List.getElem?_singleton] at hy
      split at hy
      · obtain rfl := Option.some.inj hy
        obtain rfl : n = xs.length := by omega
        exact hturn.go hlead
      · cases hy
  · rw [filterMap_concat, List.length_append, ← h.submitted]
  · rw [filterMap_concat, ← h.skipped]
  · rw [filterMap_concat, ← h.failed]
  · intro hnone
    refine List.forall_mem_append.mpr ⟨h.unstopped hs, fun y hy => ?_⟩
    obtain rfl := List.mem_singleton.mp hy
    exact hnone
  · exact fun cause hcause => ⟨xs, x, rfl, h.unstopped hs, hcause⟩

/-- **Every event of a dispatch keeps its account**, with one more host if it handles one. -/
theorem Account.step (h : Account r o name t threads disk d xs es)
    (hstart : Leads r o name t (start r threads disk) d) (he : step? r o name t d e = some d') :
    ∃ xs' es', Account r o name t threads disk d' xs' es' := by
  have hlead : Leads r o name t d d' := Leads.refl.step e he
  cases takes_of_step? he with
  | reserve _ _ _ hq => exact ⟨xs, _, h.keep hlead hq rfl rfl rfl rfl⟩
  | @handle entry hosts c q notices hs hh hc hq =>
    exact ⟨xs ++ [⟨entry, c⟩], _,
      h.handle (x := ⟨entry, c⟩) (ready_of_leads hstart) hstart hs hh hc hq rfl hlead⟩
  | run _ hq => exact ⟨xs, _, h.keep hlead hq rfl rfl rfl rfl⟩
  | move hq => exact ⟨xs, _, h.keep hlead hq rfl rfl rfl rfl⟩
  | collect _ _ hq => exact ⟨xs, _, h.keep hlead hq rfl rfl rfl rfl⟩

theorem account_of_leads (hl : r.script.isSome)
    (h : Leads r o name t (start r threads disk) d) :
    ∃ xs es, Account r o name t threads disk d xs es := by
  induction h with
  | refl => exact ⟨[], [], account_start hl⟩
  | step hstart e he ih =>
    obtain ⟨xs, es, h⟩ := ih
    exact h.step hstart he
  | ends hstart ticket ending disk' hq ih =>
    obtain ⟨xs, es, h⟩ := ih
    exact ⟨xs, _, h.keep (Leads.refl.ends ticket ending disk' hq) hq rfl rfl rfl rfl⟩

/-! ### What an account says -/

lemma Account.summary_eq (h : Account r o name t threads disk d xs es) :
    d.summary = {
      submitted := (xs.filterMap Handled.plan?).length
      skipped := xs.filterMap Handled.skipped?
      failed := xs.filterMap Handled.failed? } := by
  rw [← h.submitted, ← h.skipped, ← h.failed]

/-- If nothing stopped the dispatch, all hosts that were handled are accounted for. -/
lemma Account.result_ok (h : Account r o name t threads disk d xs es) {summary : Summary}
    (hresult : d.result = .ok summary) :
    summary = d.summary ∧ (∀ x ∈ xs, x.stop? = none) ∧
      summary.submitted + summary.skipped.length + summary.failed.length = xs.length := by
  unfold result at hresult
  split at hresult
  · cases hresult
  next hnone =>
  obtain rfl := Except.ok.inj hresult
  refine ⟨rfl, h.unstopped hnone, ?_⟩
  rw [h.summary_eq]
  exact Handled.length_eq (h.unstopped hnone)

/-- If a host stopped the dispatch, it is the last one that was handled, and all before it are
accounted for. -/
lemma Account.result_error (h : Account r o name t threads disk d xs es) {cause : RunnerError}
    (hresult : d.result = .error cause) :
    ∃ before x, xs = before ++ [x] ∧ x.stop? = some cause ∧ (∀ y ∈ before, y.stop? = none) ∧
      xs.filterMap Handled.plan? = before.filterMap Handled.plan? ∧
      d.summary.submitted + d.summary.skipped.length + d.summary.failed.length =
        before.length := by
  unfold result at hresult
  split at hresult
  · next cause' hstopped =>
    obtain rfl := Except.error.inj hresult
    obtain ⟨before, x, rfl, hbefore, hx⟩ := h.stopped _ hstopped
    obtain ⟨hplan, hskipped, hfailed⟩ := Handled.plan?_of_stop? hx
    have hlength := Handled.length_eq hbefore
    refine ⟨before, x, rfl, hx, hbefore, ?_, ?_⟩
    · rw [filterMap_concat, hplan]
      exact List.append_nil _
    · rw [h.summary_eq]
      simp only [filterMap_concat, hplan, hskipped, hfailed, Option.toList_none,
        List.append_nil]
      exact hlength
  · cases hresult

/-- After the last host all slots in use belong to submitted sequences: to each that has not come
to the end of its task. -/
lemma Account.slots (h : Account r o name t threads disk d xs es) (hready : Ready d)
    (hdone : d.stopped.isSome ∨ d.hosts = []) :
    d.queue.held = 0 ∧
      d.queue.slots.free + d.queue.slotHolders.length = 2 * max threads 1 ∧
      (d.queue.slotHolders.map Task.ticket).Nodup ∧
      (∀ task ∈ d.queue.slotHolders, ∃ p,
        (xs.filterMap Handled.plan?)[task.ticket]? = some p ∧ task.job = p.sequence) ∧
      ∀ n < d.summary.submitted, (∃ task ∈ d.queue.slotHolders, task.ticket = n) ∨
        ∃ report, (n, report) ∈ d.queue.announced := by
  have hheld : d.queue.held = 0 := by
    -- a slot is held for a host only, and there is none to come
    rcases hready.held with hheld | ⟨-, hnone, hhosts⟩
    · exact hheld
    · rcases hdone with hstopped | hnil
      · rw [hnone] at hstopped
        cases hstopped
      · exact absurd hnil hhosts
  obtain ⟨hbalanced, hledger⟩ := Queue.ledger_of_run? h.tracks.run
  refine ⟨hheld, ?_, ?_, fun task htask => ?_, fun n hn => ?_⟩
  · have hslots := hbalanced.slots
    rw [hheld, Queue.workers_of_run? h.tracks.run] at hslots
    unfold Queue.slotHolders
    rw [Queue.length_filter_stage]
    omega
  · exact hbalanced.nodup.sublist (List.filter_sublist.map _)
  · exact h.tracks.jobs task (List.mem_of_mem_filter htask)
  · refine hledger.holds_or_told ?_
    rwa [h.tracks.submitted, ← h.submitted]

end Account

/-- **What a dispatch does with its hosts**, whatever its workers do. Those that have been handled
are the first ones, in their order, and each was compiled when it was its turn. The summary and the
queue have of each what its class says. When no host is left, all are counted; when one stopped the
dispatch, all before it are, and their sequences stay in the queue. From then on a slot is in use
only for a submitted sequence. And no dispatch gets stuck on the way. -/
theorem handled_in_order (hl : r.script.isSome)
    (h : Leads r o name t (start r threads disk) d) :
    ∃ xs es, (Queue.new threads).run? es = some d.queue ∧
      xs.map Handled.entry ++ d.hosts = r.registry.entries ∧
      (∀ n x, xs[n]? = some x → Turn r o name t threads disk d n x ∧ x.classes = 1) ∧
      Queue.submissions es =
        (xs.filterMap Handled.plan?).map (fun p => (p.name, p.sequence)) ∧
      d.summary = {
        submitted := (xs.filterMap Handled.plan?).length
        skipped := xs.filterMap Handled.skipped?
        failed := xs.filterMap Handled.failed? } ∧
      (d.hosts = [] → ∀ summary, d.result = .ok summary → summary = d.summary ∧
        summary.submitted + summary.skipped.length + summary.failed.length =
          r.registry.entries.length) ∧
      (∀ cause, d.result = .error cause → ∃ before x, xs = before ++ [x] ∧
        x.stop? = some cause ∧ (∀ y ∈ before, y.stop? = none) ∧
        Queue.submissions es =
          (before.filterMap Handled.plan?).map (fun p => (p.name, p.sequence)) ∧
        d.summary.submitted + d.summary.skipped.length + d.summary.failed.length =
          before.length) ∧
      (d.stopped.isSome ∨ d.hosts = [] → d.queue.held = 0 ∧
        d.queue.slots.free + d.queue.slotHolders.length = 2 * max threads 1 ∧
        (d.queue.slotHolders.map Task.ticket).Nodup ∧
        (∀ task ∈ d.queue.slotHolders, ∃ p,
          (xs.filterMap Handled.plan?)[task.ticket]? = some p ∧ task.job = p.sequence) ∧
        ∀ n < d.summary.submitted, (∃ task ∈ d.queue.slotHolders, task.ticket = n) ∨
          ∃ report, (n, report) ∈ d.queue.announced) ∧
      ∃ d', Reaches r o name t d d' ∧ Over d' := by
  obtain ⟨xs, es, ha⟩ := account_of_leads hl h
  have hready := ready_of_leads h
  refine ⟨xs, es, ha.tracks.run, ha.hosts, fun n x hx => ⟨ha.turns n x hx, x.classes_eq_one⟩,
    ha.submissions, ha.summary_eq, fun hnil summary hresult => ?_, fun cause hresult => ?_,
    ha.slots hready, exists_over hready⟩
  · obtain ⟨hsummary, -, hcount⟩ := ha.result_ok hresult
    refine ⟨hsummary, ?_⟩
    rw [hcount, ← ha.hosts, hnil, List.append_nil, List.length_map]
  · obtain ⟨before, x, hxs, hx, hbefore, hplans, hcount⟩ := ha.result_error hresult
    refine ⟨before, x, hxs, hx, hbefore, ?_, hcount⟩
    rw [ha.submissions, hplans]

/-- A host that is registered twice, one whose protocol is not spoken, and one that lacks a
variable; the worker of the first sequence panics. -/
theorem handled_in_order_panicking :
    let x : Variables := .ofList [("x", ["1"])]
    let r : Runner :=
      .ofHosts [⟨"r1?x=1", x⟩, ⟨"rsh://w1?x=1", x⟩, ⟨"r2", ∅⟩, ⟨"r1?x=1", x⟩] "show $x"
    let summary : Summary :=
      { submitted := 2
        skipped := ["rsh://w1?x=1"]
        failed := [("r2", "Undefined variable 'x' on line 1")] }
    ∃ d : Dispatch DryRun.State, Leads r {} "tool" DryRun.transport (start r 1 {}) d ∧
      d.hosts = [] ∧ d.result = .ok summary ∧
      summary.submitted + summary.skipped.length + summary.failed.length =
        r.registry.entries.length ∧
      d.queue.held = 0 ∧ d.queue.slots.free + d.queue.slotHolders.length = 2 := by
  intro x r summary
  obtain ⟨d₁, hd₁, q, hq, hhosts, hresult⟩ :
      ∃ d ∈ dryRun r {} 1 {} (handleEvents 4 ++ [.move 0 .enter, .move 0 .launch]),
        ∃ q ∈ d.queue.step? (.finish 0 (.panic "task 0 panicked")),
          d.hosts = [] ∧ d.result = .ok summary := by
    decide +kernel
  have hlead := (reaches_of_dryRun hd₁).leads.ends 0 (.panic "task 0 panicked") {} hq
  obtain ⟨xs, es, -, -, -, -, -, hok, -, hslots, -⟩ := handled_in_order rfl hlead
  obtain ⟨hheld, hfree, -⟩ := hslots (.inr hhosts)
  exact ⟨_, hlead, hhosts, hresult, (hok hhosts _ hresult).2, hheld, hfree⟩

end Dispatch

end FleetScript
