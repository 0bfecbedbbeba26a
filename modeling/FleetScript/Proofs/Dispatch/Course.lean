import FleetScript.Proofs.Dispatch.Progress
import FleetScript.Proofs.Queue.Joining

/-!
What a dispatch comes to. If sessions do not change what hosts compile to, then the dispatch of a
runner comes to the outline of its hosts, whatever the order of events: every plan of the outline
is run once, in some order, and joining gives the report of each.
-/

namespace FleetScript

lemma filterMap_getElem?_range {α : Type} (xs : List α) :
    (List.range xs.length).filterMap (xs[·]?) = xs := by
  induction xs using List.reverseRecOn with
  | nil => rfl
  | append_singleton xs x ih =>
    have hfront : (List.range xs.length).filterMap ((xs ++ [x])[·]?) =
        (List.range xs.length).filterMap (xs[·]?) :=
      List.filterMap_congr fun n hn => List.getElem?_append_left (List.mem_range.mp hn)
    rw [List.length_append, List.length_singleton, List.range_succ, List.filterMap_append, hfront,
      ih]
    simp

/-- Numbered entries of a list that have each of its numbers once are its entries up to order. -/
lemma perm_of_numbers {α : Type} {l : List (Nat × α)} {xs : List α}
    (hl : (l.map Prod.fst).Perm (List.range xs.length)) (hx : ∀ x ∈ l, xs[x.1]? = some x.2) :
    (l.map Prod.snd).Perm xs := by
  have hnumbers : (l.map Prod.fst).filterMap (xs[·]?) = l.map Prod.snd := by
    rw [List.filterMap_map, ← List.filterMap_eq_map]
    exact List.filterMap_congr hx
  rw [← hnumbers]
  exact (hl.filterMap _).trans (.of_eq (filterMap_getElem?_range xs))

/-! ### Plans under way -/

def Plan.after {σ : Type} (t : Transport σ) (disk : Disk) (p : Plan) : Disk :=
  (Session.run t p.sequence disk).disk

/-- What the session of a plan reports; the disk plays no part in it. -/
def Plan.report {σ : Type} (t : Transport σ) (p : Plan) : Session.Report :=
  (Session.run t p.sequence {}).report

/-- The state in which the session of a plan leaves its transport. -/
def Plan.state {σ : Type} (t : Transport σ) (p : Plan) : σ := (Session.run t p.sequence {}).state

namespace Dispatch

/-- The sequences that were submitted to a queue in a history are those of plans. -/
structure Tracks (threads : Nat) (plans : List Plan) (es : List (Queue.Event Sequence))
    (q : Queue Sequence) : Prop where
  run : (Queue.new threads).run? es = some q
  hosts : Queue.hosts es = plans.map Plan.name
  jobs : ∀ task ∈ q.tasks, ∃ p, plans[task.ticket]? = some p ∧ task.job = p.sequence

section Tracks

variable {threads : Nat} {plans : List Plan} {es : List (Queue.Event Sequence)}
  {e : Queue.Event Sequence} {q q' : Queue Sequence}

lemma tracks_new (threads : Nat) : Tracks threads [] [] (Queue.new threads) where
  run := rfl
  hosts := rfl
  jobs := fun _ h => absurd h List.not_mem_nil

lemma Tracks.run_concat (h : Tracks threads plans es q) (hq : q.step? e = some q') :
    (Queue.new threads).run? (es ++ [e]) = some q' := by
  rw [Queue.run?_concat, h.run]
  exact hq

lemma Tracks.submitted (h : Tracks threads plans es q) : q.submitted = plans.length := by
  rw [(Queue.ledger_of_run? h.run).2.submitted, h.hosts, List.length_map]

lemma Tracks.keep (h : Tracks threads plans es q) (hq : q.step? e = some q')
    (he : e.host? = none) : Tracks threads plans (es ++ [e]) q' where
  run := h.run_concat hq
  hosts := (filterMap_concat_none he).trans h.hosts
  jobs := fun u hu => by
    rcases Queue.exists_job_of_step (Queue.step_of_step? hq) hu with
      ⟨v, hv, hn, hj⟩ | ⟨-, host, rfl⟩
    · rw [← hn, ← hj]
      exact h.jobs v hv
    · cases he

lemma Tracks.submit {p : Plan} (h : Tracks threads plans es q)
    (hq : q.step? (.submit p.name p.sequence) = some q') :
    Tracks threads (plans ++ [p]) (es ++ [.submit p.name p.sequence]) q' where
  run := h.run_concat hq
  hosts := by
    rw [List.map_append, ← h.hosts]
    exact filterMap_concat _ es _
  jobs := fun u hu => by
    rcases Queue.exists_job_of_step (Queue.step_of_step? hq) hu with
      ⟨v, hv, hn, hj⟩ | ⟨hn, host, he⟩
    · obtain ⟨p', hp', hseq⟩ := h.jobs v hv
      rw [← hn, ← hj]
      exact ⟨p', (List.getElem?_append_left (List.getElem?_eq_some_iff.mp hp').1).trans hp', hseq⟩
    · rw [hn, h.submitted]
      exact ⟨p, List.getElem?_concat_length, (Queue.Event.submit.inj he).2.symm⟩

/-- The slot that is held for a host is used for its plan, if it has one. -/
lemma Tracks.handle {c : Except RunnerError Compiled} (h : Tracks threads plans es q)
    (hq : q.step? (slotEvent c) = some q') :
    Tracks threads (plans ++ Outline.planOf c) (es ++ [slotEvent c]) q' := by
  rcases c with e | p | u
  · exact (List.append_nil plans).symm ▸ h.keep hq rfl
  · exact h.submit hq
  · exact (List.append_nil plans).symm ▸ h.keep hq rfl

end Tracks

/-! ### The course of a dispatch -/

section Course

variable {σ : Type} (r : Runner) (o : Options) (name : String) (t : Transport σ) (threads : Nat)
  (disk : Disk)

/-- Sessions of the outline's plans do not change what hosts compile to. -/
def Stable : Prop :=
  ∀ ps : List Plan, ps ⊆ (r.outline o name threads disk).plans → ∀ entry,
    r.compiled o name threads (ps.foldl (Plan.after t) disk) entry =
      r.compiled o name threads disk entry

/-- How far a dispatch has come: `plans` were submitted, and the sessions `ran` have run, each
with the number of its plan. With the hosts to come, this leads to the outline. -/
structure Course (plans : List Plan) (ran : List (Nat × Plan)) (es : List (Queue.Event Sequence))
    (d : Dispatch σ) : Prop where
  tracks : Tracks threads plans es d.queue
  outline : Outline.addAll (r.compiled o name threads disk)
    { summary := d.summary, plans, stopped := d.stopped } d.hosts = r.outline o name threads disk
  numbers : ∀ x ∈ ran, plans[x.1]? = some x.2
  endings : Queue.endings es = ran.map fun x => (x.1, .report (x.2.report t))
  disk : d.disk = (ran.map Prod.snd).foldl (Plan.after t) disk
  sessions : d.sessions = ran.map fun x => x.2.state t
  joined : d.queue.joined = []
  reports : d.reports = d.queue.joining.map Prod.snd

variable {r o name t threads disk} {plans : List Plan} {ran : List (Nat × Plan)}
  {es : List (Queue.Event Sequence)} {d d' : Dispatch σ} {e : Event}

lemma course_start : Course r o name t threads disk [] [] [] (start r threads disk) where
  tracks := tracks_new threads
  outline := rfl
  numbers := fun _ h => absurd h List.not_mem_nil
  endings := rfl
  disk := rfl
  sessions := rfl
  joined := rfl
  reports := rfl

/-- An event that touches the queue alone, and there no plan and no report, keeps the course. -/
lemma Course.keep {q : Queue Sequence} {qe : Queue.Event Sequence}
    (h : Course r o name t threads disk plans ran es d) (hq : d.queue.step? qe = some q)
    (hhost : qe.host? = none) (hend : qe.ending? = none) (hcollect : qe ≠ .collect)
    (hjoin : qe ≠ .join) :
    Course r o name t threads disk plans ran (es ++ [qe]) { d with queue := q } :=
  have hjoining := Queue.joining_of_step (Queue.step_of_step? hq) hcollect hjoin
  { h with
    tracks := h.tracks.keep hq hhost
    endings := (filterMap_concat_none hend).trans h.endings
    joined := hjoining.2.trans h.joined
    reports := h.reports.trans (congrArg (List.map Prod.snd) hjoining.1.symm) }

lemma Course.handle {entry : Host.Entry} {hosts : List Host.Entry} {q : Queue Sequence}
    {notices : List Notice} (h : Course r o name t threads disk plans ran es d)
    (hs : d.stopped = none) (hh : d.hosts = entry :: hosts)
    (hq : d.queue.step? (slotEvent (r.compiled o name threads disk entry)) = some q) :
    let out := Outline.add { summary := d.summary, stopped := d.stopped } entry
      (r.compiled o name threads disk entry)
    Course r o name t threads disk (plans ++ Outline.planOf (r.compiled o name threads disk entry))
      ran (es ++ [slotEvent (r.compiled o name threads disk entry)])
      { d with hosts, stopped := out.stopped, summary := out.summary, queue := q, notices } := by
  intro out
  have hjoining := Queue.joining_of_step (Queue.step_of_step? hq)
    (by unfold slotEvent; split <;> nofun) (by unfold slotEvent; split <;> nofun)
  have hend : (slotEvent (r.compiled o name threads disk entry)).ending? = none := by
    unfold slotEvent
    split <;> rfl
  exact { h with
    tracks := h.tracks.handle hq
    outline := by
      rw [← h.outline, hh, Outline.addAll_cons hs, Outline.add_eq]
    numbers := fun x hx => by
      have hx := h.numbers x hx
      exact (List.getElem?_append_left (List.getElem?_eq_some_iff.mp hx).1).trans hx
    endings := (filterMap_concat_none hend).trans h.endings
    joined := hjoining.2.trans h.joined
    reports := h.reports.trans (congrArg (List.map Prod.snd) hjoining.1.symm) }

lemma Course.run {task : Task Sequence} {q : Queue Sequence} {notices : List Notice}
    (h : Course r o name t threads disk plans ran es d) (ht : task ∈ d.queue.tasks)
    (hq : d.queue.step? (.finish task.ticket (.report (Session.run t task.job d.disk).report)) =
      some q) :
    ∃ ran' es', Course r o name t threads disk plans ran' es' { d with
      queue := q
      disk := (Session.run t task.job d.disk).disk
      notices
      sessions := d.sessions ++ [(Session.run t task.job d.disk).state] } := by
  obtain ⟨p, hp, hjob⟩ := h.tracks.jobs task ht
  rw [hjob] at hq ⊢
  have hjoining := Queue.joining_of_step (Queue.step_of_step? hq) nofun nofun
  refine ⟨ran ++ [(task.ticket, p)], es ++ [_], { h with
    tracks := h.tracks.keep hq rfl
    numbers := List.forall_mem_append.mpr ⟨h.numbers, List.forall_mem_singleton.mpr hp⟩
    endings := ?_
    disk := ?_
    sessions := ?_
    joined := hjoining.2.trans h.joined
    reports := h.reports.trans (congrArg (List.map Prod.snd) hjoining.1.symm) }⟩
  · rw [List.map_append, ← h.endings]
    exact filterMap_concat _ es _
  · rw [List.map_append, List.foldl_append, ← h.disk]
    rfl
  · rw [List.map_append, ← h.sessions]
    rfl

lemma Course.plans_prefix (h : Course r o name t threads disk plans ran es d) :
    plans <+: (r.outline o name threads disk).plans := by
  rw [← h.outline]
  exact Outline.plans_prefix_addAll _ { summary := d.summary, plans, stopped := d.stopped } _

lemma Course.ran_subset (h : Course r o name t threads disk plans ran es d) :
    ran.map Prod.snd ⊆ (r.outline o name threads disk).plans := by
  intro p hp
  obtain ⟨x, hx, rfl⟩ := List.mem_map.mp hp
  exact h.plans_prefix.subset (List.mem_of_getElem? (h.numbers x hx))

/-- **Every event carries the course on.** -/
theorem Course.step (hstable : Stable r o name t threads disk)
    (h : Course r o name t threads disk plans ran es d) (hs : Takes r o name t d e d') :
    ∃ plans' ran' es', Course r o name t threads disk plans' ran' es' d' := by
  cases hs with
  | reserve _ _ _ hq => exact ⟨plans, ran, _, h.keep hq rfl rfl nofun nofun⟩
  | @handle entry hosts c q _ hstop hh hc hq =>
    have hc' : c = r.compiled o name threads disk entry := by
      rw [← hc, Queue.workers_of_run? h.tracks.run, h.disk]
      exact hstable _ h.ran_subset entry
    subst hc'
    exact ⟨_, _, _, h.handle hstop hh hq⟩
  | run ht hq =>
    obtain ⟨ran', es', h'⟩ := h.run ht hq
    exact ⟨plans, ran', es', h'⟩
  | move hq => exact ⟨plans, ran, _, h.keep hq rfl rfl nofun nofun⟩
  | collect _ hf hq =>
    refine ⟨plans, ran, es ++ [.collect], { h with
      tracks := h.tracks.keep hq rfl
      endings := (filterMap_concat_none rfl).trans h.endings
      joined := ?_
      reports := ?_ }⟩
    · cases Queue.step_of_step? hq
      exact h.joined
    · cases Queue.step_of_step? hq with
      | collect hf' =>
        obtain ⟨rfl, -⟩ := List.cons.inj (hf.symm.trans hf')
        rw [h.reports, List.map_append]
        rfl

theorem course_of_reaches (hstable : Stable r o name t threads disk)
    (h : Reaches r o name t (start r threads disk) d) :
    ∃ plans ran es, Course r o name t threads disk plans ran es d := by
  induction h with
  | refl => exact ⟨[], [], [], course_start⟩
  | step _ e he ih =>
    obtain ⟨plans, ran, es, h⟩ := ih
    exact h.step hstable (takes_of_step? he)

/-! ### Dispatches that are over -/

lemma Course.number_of_collected (h : Course r o name t threads disk plans ran es d) {n : Nat}
    {report : Session.Report} (hx : (n, report) ∈ d.queue.collected) :
    (plans.map (Plan.report t))[n]? = some report := by
  have hran {ending : Ending} (he : (n, ending) ∈ Queue.endings es) :
      ∃ p, plans[n]? = some p ∧ ending = .report (p.report t) := by
    rw [h.endings] at he
    obtain ⟨y, hy, heq⟩ := List.mem_map.mp he
    obtain ⟨rfl, rfl⟩ := Prod.mk.inj heq
    exact ⟨y.2, h.numbers y hy, rfl⟩
  cases (Queue.ledger_of_run? h.tracks.run).2.collected_yields _ hx with
  | own he =>
    obtain ⟨p, hp, heq⟩ := hran he
    rw [List.getElem?_map, hp]
    exact congrArg some (Ending.report.inj heq).symm
  | panicked _ he =>
    obtain ⟨p, -, heq⟩ := hran he
    cases heq

/-- **A dispatch that is over has come to the outline.** All its plans have run in some order. -/
theorem exists_order_of_over (hstable : Stable r o name t threads disk)
    (h : Reaches r o name t (start r threads disk) d) (hover : Over d) :
    d.result = (r.outline o name threads disk).result ∧
      d.reports.Perm ((r.outline o name threads disk).plans.map (Plan.report t)) ∧
      ∃ order : List Plan, order.Perm (r.outline o name threads disk).plans ∧
        d.sessions = order.map (Plan.state t) ∧ d.disk = order.foldl (Plan.after t) disk := by
  obtain ⟨plans, ran, es, hc⟩ := course_of_reaches hstable h
  obtain ⟨-, hl⟩ := Queue.ledger_of_run? hc.tracks.run
  have hout := hc.outline
  rw [Outline.addAll_of_done hover.hosts] at hout
  have hlength : (Queue.hosts es).length = plans.length := by rw [hc.tracks.hosts, List.length_map]
  rw [← hout]
  refine ⟨rfl, ?_, ran.map Prod.snd, ?_, ?_, hc.disk⟩
  · have hcollected : d.queue.collected = d.queue.joining := by
      simp [Queue.collected, hc.joined, hover.finished]
    rw [hc.reports]
    refine perm_of_numbers ?_ fun x hx => hc.number_of_collected (hcollected ▸ hx)
    rw [← hcollected, hl.collected, List.length_map, ← hlength]
    exact hl.perm_completions hover.tasks
  · refine perm_of_numbers ?_ hc.numbers
    have := hl.perm_endings hover.tasks
    rw [hc.endings, List.map_map, hlength] at this
    exact this
  · rw [hc.sessions, List.map_map]
    rfl

end Course

end Dispatch

end FleetScript
