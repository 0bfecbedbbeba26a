import FleetScript.Proofs.Dispatch.Handling

/-!
The reports that a dispatch comes to. A session may end in any way, but it reports on its own host.
So once a dispatch is over there is one report for each plan that was submitted, on the host of that
plan, and these are all; in which order they came plays no part.
-/

namespace FleetScript.Dispatch

open Session

variable {σ : Type} (r : Runner) (o : Options) (name : String) (t : Transport σ)

/-! ### Courses of the sessions -/

/-- The states that a dispatch can come to if a session may end in any way that sessions can: with
any report on its host, or with a panic. It may leave any disk. -/
inductive Sends (d : Dispatch σ) : Dispatch σ → Prop where
  | refl : Sends d d
  | step {d' d'' : Dispatch σ} (h : Sends d d') (e : Event)
    (he : step? r o name t d' e = some d'') : Sends d d''
  | ends {d' : Dispatch σ} {q : Queue Sequence} {task : Task Sequence} (h : Sends d d')
    (ht : task ∈ d'.queue.tasks) (ending : Ending) (disk : Disk)
    (hhost : (ending.reportFor task.job.name).host = task.job.name)
    (hq : d'.queue.step? (.finish task.ticket ending) = some q) :
    Sends d { d' with queue := q, disk }

variable {r o name t} {threads : Nat} {disk : Disk} {d d' : Dispatch σ} {e : Event}
  {xs : List Handled} {es : List (Queue.Event Sequence)}

lemma Sends.leads (h : Sends r o name t d d') : Leads r o name t d d' := by
  induction h with
  | refl => exact .refl
  | step _ e he ih => exact ih.step e he
  | ends _ _ ending disk _ hq ih => exact ih.ends _ ending disk hq

lemma Sends.trans {d'' : Dispatch σ} (h : Sends r o name t d d') (h' : Sends r o name t d' d'') :
    Sends r o name t d d'' := by
  induction h' with
  | refl => exact h
  | step _ e he ih => exact ih.step e he
  | ends _ ht ending disk hhost hq ih => exact ih.ends ht ending disk hhost hq

lemma Reaches.sends (h : Reaches r o name t d d') : Sends r o name t d d' := by
  induction h with
  | refl => exact .refl
  | step _ e he ih => exact ih.step e he

/-! ### Books -/

/-- The plans of the hosts that have been handled, in their order. -/
def plansOf (xs : List Handled) : List Plan := xs.filterMap Handled.plan?

lemma plansOf_concat (xs : List Handled) (x : Handled) :
    plansOf (xs ++ [x]) = plansOf xs ++ x.plan?.toList := filterMap_concat _ xs x

variable (r o name t threads disk) in
/-- An account of a dispatch that says more of reports: a session that ended with one reported on
the host of its plan, nothing was joined before, and the dispatch has what joining has collected. -/
structure Books (d : Dispatch σ) (xs : List Handled) (es : List (Queue.Event Sequence)) : Prop
    extends Account r o name t threads disk d xs es where
  named : ∀ n report, (n, .report report) ∈ Queue.endings es →
    ∃ p, (plansOf xs)[n]? = some p ∧ report.host = p.name
  joined : d.queue.joined = []
  reports : d.reports = d.queue.joining.map Prod.snd

lemma books_start (hl : r.script.isSome) :
    Books r o name t threads disk (start r threads disk) [] [] :=
  { account_start hl with
    named := fun _ _ h => absurd h List.not_mem_nil
    joined := rfl
    reports := rfl }

/-- An event that ends no session adds nothing to what is known of endings. -/
lemma Books.named_concat (h : Books r o name t threads disk d xs es) {qe : Queue.Event Sequence}
    (hend : qe.ending? = none) (n : Nat) (report : Report)
    (hmem : (n, .report report) ∈ Queue.endings (es ++ [qe])) :
    ∃ p, (plansOf xs)[n]? = some p ∧ report.host = p.name := by
  have hsame : Queue.endings (es ++ [qe]) = Queue.endings es := filterMap_concat_none hend
  exact h.named n report (hsame ▸ hmem)

/-- An event of the queue alone keeps the books if it ends no session and collects no report. -/
lemma Books.keep {q : Queue Sequence} {qe : Queue.Event Sequence}
    (h : Books r o name t threads disk d xs es) (hlead : Leads r o name t d { d with queue := q })
    (hq : d.queue.step? qe = some q) (hsubmission : qe.submission? = none)
    (hend : qe.ending? = none) (hcollect : qe ≠ .collect) (hjoin : qe ≠ .join) :
    Books r o name t threads disk { d with queue := q } xs (es ++ [qe]) :=
  have hjoining := Queue.joining_of_step (Queue.step_of_step? hq) hcollect hjoin
  { h.toAccount.keep hlead hq hsubmission rfl rfl rfl with
    named := h.named_concat hend
    joined := hjoining.2.trans h.joined
    reports := h.reports.trans (congrArg (List.map Prod.snd) hjoining.1.symm) }

/-- A session that ends on its own host keeps the books, whatever else it changes. -/
lemma Books.ends {task : Task Sequence} {ending : Ending}
    (h : Books r o name t threads disk d xs es) (hlead : Leads r o name t d d')
    (ht : task ∈ d.queue.tasks) (hhost : (ending.reportFor task.job.name).host = task.job.name)
    (hq : d.queue.step? (.finish task.ticket ending) = some d'.queue) (hhosts : d'.hosts = d.hosts)
    (hsummary : d'.summary = d.summary) (hstopped : d'.stopped = d.stopped)
    (hreports : d'.reports = d.reports) :
    Books r o name t threads disk d' xs (es ++ [.finish task.ticket ending]) := by
  have hjoining := Queue.joining_of_step (Queue.step_of_step? hq) nofun nofun
  refine { h.toAccount.keep hlead hq rfl hhosts hsummary hstopped with
    named := ?_
    joined := hjoining.2.trans h.joined
    reports := ?_ }
  · intro n report hmem
    have hendings : Queue.endings (es ++ [.finish task.ticket ending]) =
        Queue.endings es ++ [(task.ticket, ending)] := filterMap_concat _ es _
    rw [hendings] at hmem
    rcases List.mem_append.mp hmem with hmem | hmem
    · exact h.named n report hmem
    · obtain ⟨rfl, rfl⟩ := Prod.mk.inj (List.mem_singleton.mp hmem)
      obtain ⟨p, hp, hjob⟩ := h.tracks.jobs task ht
      refine ⟨p, hp, ?_⟩
      rw [hjob] at hhost
      exact hhost
  · rw [hreports, h.reports, hjoining.1]

lemma Books.collect {q : Queue Sequence} {x : Nat × Report} {rest : List (Nat × Report)}
    (h : Books r o name t threads disk d xs es) (hf : d.queue.finished = x :: rest)
    (hq : d.queue.step? .collect = some q)
    (hlead : Leads r o name t d { d with queue := q, reports := d.reports ++ [x.2] }) :
    Books r o name t threads disk { d with queue := q, reports := d.reports ++ [x.2] } xs
      (es ++ [.collect]) := by
  have hqueue : q.joined = d.queue.joined ∧ q.joining = d.queue.joining ++ [x] := by
    cases Queue.step_of_step? hq with
    | collect hf' =>
      obtain ⟨rfl, -⟩ := List.cons.inj (hf.symm.trans hf')
      exact ⟨rfl, rfl⟩
  refine { h.toAccount.keep hlead hq rfl rfl rfl rfl with
    named := h.named_concat rfl
    joined := hqueue.1.trans h.joined
    reports := ?_ }
  show d.reports ++ [x.2] = q.joining.map Prod.snd
  rw [hqueue.2, h.reports, List.map_append]
  rfl

lemma Books.handle {x : Handled} {hosts : List Host.Entry} {q : Queue Sequence}
    {notices : List Notice} (h : Books r o name t threads disk d xs es) (hready : Ready d)
    (hstart : Leads r o name t (start r threads disk) d) (hs : d.stopped = none)
    (hh : d.hosts = x.entry :: hosts)
    (hc : r.compile d.disk { maxThreads := d.queue.workers, name } x.entry o = x.outcome)
    (hq : d.queue.step? (slotEvent x.outcome) = some q)
    (hd : d' = { d with
      hosts
      stopped := (Outline.add { summary := d.summary, stopped := d.stopped } x.entry
        x.outcome).stopped
      summary := (Outline.add { summary := d.summary, stopped := d.stopped } x.entry
        x.outcome).summary
      queue := q
      notices })
    (hlead : Leads r o name t d d') :
    Books r o name t threads disk d' (xs ++ [x]) (es ++ [slotEvent x.outcome]) := by
  have hjoining := Queue.joining_of_step (Queue.step_of_step? hq)
    (by unfold slotEvent; split <;> nofun) (by unfold slotEvent; split <;> nofun)
  have hend : (slotEvent x.outcome).ending? = none := by
    unfold slotEvent
    split <;> rfl
  refine { h.toAccount.handle hready hstart hs hh hc hq hd hlead with
    named := ?_
    joined := ?_
    reports := ?_ }
  · intro n report hmem
    obtain ⟨p, hp, hhost⟩ := h.named_concat hend n report hmem
    refine ⟨p, ?_, hhost⟩
    rw [plansOf_concat]
    exact (List.getElem?_append_left (List.getElem?_eq_some_iff.mp hp).1).trans hp
  · rw [hd]
    exact hjoining.2.trans h.joined
  · rw [hd]
    exact h.reports.trans (congrArg (List.map Prod.snd) hjoining.1.symm)

/-- **Every event of a dispatch keeps its books**, with one more host if it handles one. -/
theorem Books.step (h : Books r o name t threads disk d xs es)
    (hstart : Leads r o name t (start r threads disk) d) (he : step? r o name t d e = some d') :
    ∃ xs' es', Books r o name t threads disk d' xs' es' := by
  have hlead : Leads r o name t d d' := Leads.refl.step e he
  cases takes_of_step? he with
  | reserve _ _ _ hq => exact ⟨xs, _, h.keep hlead hq rfl rfl nofun nofun⟩
  | @handle entry hosts c q notices hs hh hc hq =>
    exact ⟨xs ++ [⟨entry, c⟩], _,
      h.handle (x := ⟨entry, c⟩) (ready_of_leads hstart) hstart hs hh hc hq rfl hlead⟩
  | run ht hq => exact ⟨xs, _, h.ends hlead ht rfl hq rfl rfl rfl rfl⟩
  | move hq => exact ⟨xs, _, h.keep hlead hq rfl rfl nofun nofun⟩
  | collect _ hf hq => exact ⟨xs, _, h.collect hf hq hlead⟩

theorem books_of_sends (hl : r.script.isSome)
    (h : Sends r o name t (start r threads disk) d) :
    ∃ xs es, Books r o name t threads disk d xs es := by
  induction h with
  | refl => exact ⟨[], [], books_start hl⟩
  | step hstart e he ih =>
    obtain ⟨xs, es, h⟩ := ih
    exact h.step hstart.leads he
  | ends hstart ht ending disk' hhost hq ih =>
    obtain ⟨xs, es, h⟩ := ih
    exact ⟨xs, _, h.ends (Leads.refl.ends _ ending disk' hq) ht hhost hq rfl rfl rfl rfl⟩

/-! ### Dispatches that are over -/

/-- A report that was collected is on the host of the plan with its number. -/
lemma Books.host_of_collected (h : Books r o name t threads disk d xs es) {n : Nat}
    {report : Report} (hx : (n, report) ∈ d.queue.collected) :
    ∃ p, (plansOf xs)[n]? = some p ∧ report.host = p.name := by
  cases (Queue.ledger_of_run? h.tracks.run).2.collected_yields _ hx with
  | own he => exact h.named n report he
  | @panicked host cause hh he =>
    rw [h.tracks.hosts, List.getElem?_map] at hh
    obtain ⟨p, hp, rfl⟩ := Option.map_eq_some_iff.mp hh
    exact ⟨p, hp, rfl⟩

/-- **Once a dispatch is over, there is one report for each plan**: joining has collected the number
of each once, with a report on its host, and these are the reports of the dispatch. -/
theorem Books.reports_of_over (h : Books r o name t threads disk d xs es) (hover : Over d) :
    (d.queue.joining.map Prod.fst).Perm (List.range (plansOf xs).length) ∧
      d.reports = d.queue.joining.map Prod.snd ∧
      ∀ n report, (n, report) ∈ d.queue.joining →
        ∃ p, (plansOf xs)[n]? = some p ∧ report.host = p.name := by
  obtain ⟨-, hl⟩ := Queue.ledger_of_run? h.tracks.run
  have hcollected : d.queue.collected = d.queue.joining := by
    simp [Queue.collected, h.joined, hover.finished]
  have hlength : (Queue.hosts es).length = (plansOf xs).length := by
    rw [h.tracks.hosts, List.length_map]
    rfl
  refine ⟨?_, h.reports, fun n report hx => h.host_of_collected (hcollected ▸ hx)⟩
  rw [← hcollected, hl.collected, ← hlength]
  exact hl.perm_completions hover.tasks

end FleetScript.Dispatch
