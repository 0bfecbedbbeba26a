import FleetScript.Program
import FleetScript.Proofs.Dispatch.Completion
import FleetScript.Proofs.Dispatch.Reports
import FleetScript.Proofs.Runner.History
import FleetScript.Proofs.Runner.Overview

/-!
The figures of a run. A host that is registered ends up in one row of the overview: that of its
report, that of its script's failure, or that of a skipped host. The reports come from the queue in
any order, the failures and skips from the dispatch in the order of registration; put together they
account for every host once, and the run fails if one of them failed.
-/

namespace FleetScript

open Session Text

/-! ### One row for each host -/

/-- Numbered entries that have each number below `k` once can be put into the order of numbers. -/
lemma exists_in_order {α : Type} {l : List (Nat × α)} {k : Nat}
    (h : (l.map Prod.fst).Perm (List.range k)) :
    ∃ ys : List α, ys.length = k ∧ (l.map Prod.snd).Perm ys ∧
      ∀ n y, ys[n]? = some y → (n, y) ∈ l := by
  obtain ⟨l', hrange, hperm⟩ : ∃ l' : List (Nat × α), List.range k = l'.map Prod.fst ∧ l'.Perm l :=
    (congrFun (congrFun (List.eq_map_comp_perm Prod.fst) (List.range k)) l).mpr h.symm
  have hlength : l'.length = k := by
    simpa using (congrArg List.length hrange).symm
  refine ⟨l'.map Prod.snd, by simpa using hlength, (hperm.map Prod.snd).symm, fun n y hy => ?_⟩
  obtain ⟨⟨i, z⟩, hz, rfl⟩ := Option.map_eq_some_iff.mp ((List.getElem?_map ..).symm.trans hy)
  have hn : n < k := hlength ▸ (List.getElem?_eq_some_iff.mp hz).1
  have hi : (List.range k)[n]? = some i := by
    rw [hrange, List.getElem?_map, hz]
    rfl
  rw [List.getElem?_range hn] at hi
  obtain rfl := Option.some.inj hi
  exact hperm.subset (List.mem_of_getElem? hz)

namespace Handled

/-- The row of a host that has been handled: a report on the host of its plan, the failure of its
script, or that it was skipped. -/
inductive RowOf (x : Handled) : Overview.Row → Prop where
  | ran {p : Plan} {report : Report} (hp : x.plan? = some p) (hhost : report.host = p.name) :
    RowOf x
      { host := p.name
        result := if report.error.isNone then .ok else .failed
        commands := report.commands
        detail := report.error.getD "" }
  | failed {host error : String} (hf : x.failed? = some (host, error)) :
    RowOf x { host, result := .failed, commands := 0, detail := error }
  | skipped {host : String} (hs : x.skipped? = some host) :
    RowOf x { host, result := .skipped, commands := 0, detail := "unsupported protocol" }

lemma rowOf_reportRow {x : Handled} {p : Plan} {report : Report} (hp : x.plan? = some p)
    (hhost : report.host = p.name) : RowOf x (Overview.reportRow report) := by
  unfold Overview.reportRow
  rw [hhost]
  exact .ran hp hhost

/-- Hosts none of which stops a dispatch have a row each, and these are all. -/
lemma exists_rows {xs : List Handled} (hxs : ∀ x ∈ xs, x.stop? = none) {reports : List Report}
    (hr : List.Forall₂ (fun p report => report.host = p.name) (xs.filterMap plan?) reports) :
    ∃ rows, List.Forall₂ RowOf xs rows ∧
      (reports.map Overview.reportRow ++ (xs.filterMap failed?).map Overview.failedRow ++
        (xs.filterMap skipped?).map Overview.skippedRow).Perm rows := by
  induction xs generalizing reports with
  | nil =>
    cases hr
    exact ⟨[], .nil, .nil⟩
  | cons x xs ih =>
    obtain ⟨hx, hrest⟩ := List.forall_mem_cons.mp hxs
    obtain ⟨entry, outcome⟩ := x
    rcases outcome with cause | p | protocol
    · cases cause with
      | script cause =>
        obtain ⟨rows, hrows, hperm⟩ := ih hrest hr
        exact ⟨_, .cons (.failed rfl) hrows,
          (List.perm_middle.append_right _).trans (hperm.cons _)⟩
      | _ => cases hx
    · cases hr with
      | cons hhost hr =>
        obtain ⟨rows, hrows, hperm⟩ := ih hrest hr
        exact ⟨_, .cons (rowOf_reportRow rfl hhost) hrows, hperm.cons _⟩
    · obtain ⟨rows, hrows, hperm⟩ := ih hrest hr
      exact ⟨_, .cons (.skipped rfl) hrows, List.perm_middle.trans (hperm.cons _)⟩

end Handled

/-! ### Figures -/

/-- What the figures and rows of a run say of the hosts that were registered. All are counted once,
and the subtraction behind the count of those that succeeded stays above zero. Each has a row of its
own, for what it compiled to, and the counts are those of the rows. First come the rows of sessions,
sorted by host, then the failed scripts and then the skipped hosts, both in the order of
registration. -/
structure Tallied (r : Runner) (o : Options) (name : String) (threads : Nat) (summary : Summary)
    (reports : List Report) : Prop where
  total : Overview.failed reports summary + Overview.succeeded reports summary +
    summary.skipped.length = r.registry.entries.length
  failed_le : Overview.failed reports summary ≤ reports.length + summary.failed.length
  counts : (Overview.rows reports summary).countP (·.result = .ok) =
      Overview.succeeded reports summary ∧
    (Overview.rows reports summary).countP (·.result = .failed) =
      Overview.failed reports summary ∧
    (Overview.rows reports summary).countP (·.result = .skipped) = summary.skipped.length
  hosts : ∃ xs rows, xs.map Handled.entry = r.registry.entries ∧
    (∀ x ∈ xs, ∃ disk, r.compiled o name threads disk x.entry = x.outcome) ∧
    List.Forall₂ Handled.RowOf xs rows ∧ (Overview.rows reports summary).Perm rows ∧
    summary.failed = xs.filterMap Handled.failed? ∧ summary.skipped = xs.filterMap Handled.skipped?
  order : ∃ sessions : List Overview.Row,
    sessions.Perm (reports.map fun r =>
      { host := r.host
        result := if r.error.isNone then .ok else .failed
        commands := r.commands
        detail := r.error.getD "" }) ∧
    sessions.Pairwise (fun a b => a.host ≤ b.host) ∧
    Overview.rows reports summary = sessions ++
      summary.failed.map (fun (host, error) =>
        { host, result := .failed, commands := 0, detail := error }) ++
      summary.skipped.map fun host =>
        { host, result := .skipped, commands := 0, detail := "unsupported protocol" }

namespace Dispatch

variable {σ : Type} {r : Runner} {o : Options} {name : String} {t : Transport σ} {threads : Nat}
  {disk : Disk} {d : Dispatch σ} {xs : List Handled} {es : List (Queue.Event Sequence)}

lemma Books.exists_reports (h : Books r o name t threads disk d xs es) (hover : Over d) :
    ∃ reports, d.reports.Perm reports ∧
      List.Forall₂ (fun p report => report.host = p.name) (plansOf xs) reports := by
  obtain ⟨hnumbers, hreports, hnamed⟩ := h.reports_of_over hover
  obtain ⟨reports, hlength, hperm, hmem⟩ := exists_in_order hnumbers
  refine ⟨reports, hreports ▸ hperm, List.forall₂_iff_get.mpr ⟨hlength.symm, ?_⟩⟩
  intro n hn hn'
  obtain ⟨p, hp, hhost⟩ := hnamed n _ (hmem n _ (List.getElem?_eq_getElem hn'))
  rw [List.getElem?_eq_getElem hn] at hp
  obtain rfl := Option.some.inj hp
  exact hhost

lemma Over.hosts_eq_nil (h : Over d) {summary : Summary} (hresult : d.result = .ok summary) :
    d.hosts = [] := by
  unfold result at hresult
  split at hresult
  · cases hresult
  · next hnone =>
    rcases h.hosts with hs | hh
    · rw [hnone] at hs
      cases hs
    · exact hh

/-- **The figures of a dispatch that is over account for every host once.** -/
theorem tallied_of_over (hl : r.script.isSome)
    (h : Sends r o name t (start r threads disk) d) (hover : Over d) {summary : Summary}
    (hresult : d.result = .ok summary) : Tallied r o name threads summary d.reports := by
  obtain ⟨xs, es, hbooks⟩ := books_of_sends hl h
  obtain ⟨reports, hperm, hnamed⟩ := hbooks.exists_reports hover
  obtain ⟨rfl, hunstopped, hcount⟩ := hbooks.toAccount.result_ok hresult
  have hentries : xs.map Handled.entry = r.registry.entries := by
    rw [← hbooks.hosts, hover.hosts_eq_nil hresult, List.append_nil]
  have hlength : d.reports.length = d.summary.submitted := by
    rw [hperm.length_eq, ← hnamed.length_eq, hbooks.submitted]
    rfl
  refine ⟨?_, ?_, ?_, ?_, ?_⟩
  · -- the rows that failed and those that did not are all rows
    have hsum := Overview.failed_add_succeeded d.reports d.summary
    have hall : xs.length = r.registry.entries.length := by
      rw [← hentries, List.length_map]
    omega
  · exact Overview.failed_le d.reports d.summary
  · exact Overview.countP_result_rows d.reports d.summary
  · -- the rows of reports, failures and skipped hosts are those of the hosts, in another order
    obtain ⟨rows, hrows, hrowsPerm⟩ := Handled.exists_rows hunstopped hnamed
    refine ⟨xs, rows, hentries, fun x hx => ?_, hrows, ?_, hbooks.failed, hbooks.skipped⟩
    · obtain ⟨n, hn⟩ := List.mem_iff_getElem?.mp hx
      obtain ⟨d₀, -, -, -, -, -, hcompile⟩ := hbooks.turns n x hn
      exact ⟨d₀.disk, hcompile⟩
    · rw [← hbooks.failed, ← hbooks.skipped] at hrowsPerm
      have hreports := hperm.map Overview.reportRow
      exact (Overview.rows_perm d.reports d.summary).trans
        (((hreports.append_right _).append_right _).trans hrowsPerm)
  · exact ⟨_, Overview.sessionRows_perm _, Overview.pairwise_sessionRows _,
      Overview.rows_eq d.reports d.summary⟩

end Dispatch

/-! ### Runs of the program -/

namespace RunRequest

variable {req : RunRequest} {s : Settings} {disk : Disk} {r : Runner}

lemma script_of_prepare (h : req.prepare s disk = .ok r) : r.script.isSome := by
  unfold prepare at h
  split at h
  · cases h
  · obtain ⟨runner, -, h⟩ := exists_of_bind h
    -- only loading has set the script, and it has been successful
    obtain ⟨code, rfl⟩ := Runner.exists_of_loadFile (eq_ok_of_mapError h)
    rfl

variable (req s disk r) in
/-- The dispatches that the request can come to, with some transport: its sessions have ended in any
way and in any order. -/
def EndsIn {σ : Type} (t : Transport σ) (d : Dispatch σ) : Prop :=
  Dispatch.Sends r (req.sessionOptions s) programName t
    (Dispatch.start r (req.settings s).maxThreads disk) d ∧ Dispatch.Over d

lemma exists_sent (req : RunRequest) (s : Settings) (r : Runner) (programs : Client.Programs)
    (disk : Disk) :
    ∃ (σ : Type) (t : Transport σ) (d : Dispatch σ) (clients : σ → List Client.Invocation),
      EndsIn req s disk r t d ∧ req.send s r programs disk = sentBy clients d := by
  unfold send
  split
  · obtain ⟨hreach, hover⟩ := Dispatch.reaches_complete r (req.sessionOptions s) programName
      DryRun.transport (req.settings s).maxThreads disk
    exact ⟨_, _, _, _, ⟨hreach.sends, hover⟩, rfl⟩
  · obtain ⟨hreach, hover⟩ := Dispatch.reaches_complete r (req.sessionOptions s) programName
      (Client.transport programs) (req.settings s).maxThreads disk
    exact ⟨_, _, _, _, ⟨hreach.sends, hover⟩, rfl⟩

/-- A run whose dispatch was not stopped fails if a host failed, with the number of these hosts. -/
lemma verdict_sentBy {σ : Type} {d : Dispatch σ} {summary : Summary}
    (hresult : d.result = .ok summary) (total : Nat) (clients : σ → List Client.Invocation) :
    verdict total (sentBy clients d) =
      if 0 < Overview.failed d.reports summary then
        .error (.hostsFailed (Overview.failed d.reports summary) total)
      else .ok () := by
  unfold verdict sentBy
  simp only [hresult]

lemma exit_runScript {w : Surroundings} (hr : req.prepare s w.disk = .ok r) (quiet : Bool) :
    (Program.runScript w quiet s req).exit =
      match verdict r.registry.entries.length (req.send s r w.programs w.disk) with
      | .ok () => 0
      | .error _ => 1 := by
  unfold Program.runScript
  simp only [hr]
  cases verdict r.registry.entries.length (req.send s r w.programs w.disk) <;> rfl

/-- **The figures of a run account for every registered host once**, for every list of hosts, every
way in which sessions may end and every order in which they come to their ends, as `Tallied` says.
The run fails exactly if a host failed. The same reports in another order give the same rows in
another order, and the same hosts in the same order. The run that the program carries out is one of
these, and its exit code says whether a host failed. -/
theorem every_host_tallied (hr : req.prepare s disk = .ok r) :
    (∀ (σ : Type) (t : Transport σ) (d : Dispatch σ) summary, EndsIn req s disk r t d →
      d.result = .ok summary →
        Tallied r (req.sessionOptions s) programName (req.settings s).maxThreads summary d.reports ∧
        (∀ clients, (∃ f, verdict r.registry.entries.length (sentBy clients d) = .error f) ↔
          0 < Overview.failed d.reports summary) ∧
        ∀ reports, reports.Perm d.reports →
          (Overview.rows reports summary).Perm (Overview.rows d.reports summary) ∧
          (Overview.rows reports summary).map Overview.Row.host =
            (Overview.rows d.reports summary).map Overview.Row.host) ∧
    ∀ (w : Surroundings) (quiet : Bool), w.disk = disk →
      ∃ (σ : Type) (t : Transport σ) (d : Dispatch σ) (clients : σ → List Client.Invocation),
        EndsIn req s disk r t d ∧ req.send s r w.programs disk = sentBy clients d ∧
          ∀ summary, d.result = .ok summary →
            (Program.runScript w quiet s req).exit =
              (if 0 < Overview.failed d.reports summary then 1 else 0) ∧
            (quiet = false →
              (Program.runScript w quiet s req).stdout = echoed d.notices ++
                ((Overview.grid (Overview.rows d.reports summary)).draw ++ "\n") ∧
              (Program.runScript w quiet s req).tally =
                some (tally (Overview.succeeded d.reports summary) r.registry.entries.length)) := by
  have hscript := script_of_prepare hr
  constructor
  · intro σ t d summary hends hresult
    refine ⟨Dispatch.tallied_of_over hscript hends.1 hends.2 hresult, fun clients => ?_,
      fun reports hperm => Overview.rows_of_perm hperm summary⟩
    rw [verdict_sentBy hresult]
    split
    · next hfailed => exact ⟨fun _ => hfailed, fun _ => ⟨_, rfl⟩⟩
    · next hnone => exact ⟨fun ⟨_, h⟩ => (nomatch h), fun h => absurd h hnone⟩
  · rintro w quiet rfl
    obtain ⟨σ, t, d, clients, hends, hsent⟩ := exists_sent req s r w.programs w.disk
    refine ⟨σ, t, d, clients, hends, hsent, fun summary hresult => ⟨?_, ?_⟩⟩
    · rw [exit_runScript hr, hsent, verdict_sentBy hresult]
      by_cases hfailed : 0 < Overview.failed d.reports summary
      · simp only [hfailed, if_true]
      · simp only [hfailed, if_false]
    · rintro rfl
      unfold Program.runScript
      simp only [hr, hsent, sentBy, hresult, and_self]

/-- A host is registered twice, one is skipped, and one lacks a variable. With one worker, the first
session panics and the other one, on the same host, succeeds. -/
theorem every_host_tallied_panicking :
    let req : RunRequest :=
      { script := "s.tr", hosts := ["r1?x=1", "ftp://w1?x=1", "r2", "r1?x=1"], dryRun := true }
    let disk : Disk := { nodes := .ofList [("s.tr", .file (toBytes "show $x"))] }
    let x : Variables := .ofList [("x", ["1"])]
    let r : Runner :=
      { registry := { entries := [⟨"r1?x=1", x⟩, ⟨"ftp://w1?x=1", x⟩, ⟨"r2", ∅⟩, ⟨"r1?x=1", x⟩] }
        script := some { code := "show $x", filename := some "s.tr" } }
    let summary : Summary :=
      { submitted := 2
        skipped := ["ftp://w1?x=1"]
        failed := [("r2", "Undefined variable 'x' on line 1")] }
    req.prepare {} disk = .ok r ∧
      ∃ d : Dispatch DryRun.State, EndsIn req {} disk r DryRun.transport d ∧
        d.result = .ok summary ∧ Tallied r (req.sessionOptions {}) programName 1 summary d.reports ∧
        Overview.rows d.reports summary =
          [{ host := "r1", result := .ok, commands := 1, detail := "" },
            { host := "r1", result := .failed, commands := 0
              detail := "worker panicked: task 0 panicked" },
            { host := "r2", result := .failed, commands := 0
              detail := "Undefined variable 'x' on line 1" },
            { host := "ftp://w1?x=1", result := .skipped, commands := 0
              detail := "unsupported protocol" }] ∧
        Overview.failed d.reports summary = 2 ∧ Overview.succeeded d.reports summary = 1 ∧
        (∃ f, verdict 4 (sentBy (fun _ => []) d) = .error f) ∧
        (Program.runScript ⟨disk, "", fun _ => .missing⟩ true {} req).exit = 1 := by
  intro req disk x r summary
  have hr : req.prepare {} disk = .ok r := by decide +kernel
  -- all hosts are handled, and the first task has begun
  let before : List Dispatch.Event :=
    Dispatch.handleEvents 4 ++ [.move 0 .enter, .move 0 .launch]
  -- the second task is run to its end while the first one is still to be announced
  let after : List Dispatch.Event :=
    [.move 0 .release] ++ Dispatch.taskEvents 1 ++
      [.move 0 .announce, .move 0 .uncount, .move 0 .free, .move 0 .complete, .collect, .collect]
  obtain ⟨d₁, hd₁, task, htask, q, hq, d, hd, hover, hresult, hreports⟩ :
      ∃ d₁ ∈ before.foldlM
          (Dispatch.step? r (req.sessionOptions {}) programName DryRun.transport)
          (Dispatch.start r 1 disk),
        ∃ task ∈ d₁.queue.tasks,
        ∃ q ∈ d₁.queue.step? (.finish task.ticket (.panic "task 0 panicked")),
          ∃ d ∈ after.foldlM
              (Dispatch.step? r (req.sessionOptions {}) programName DryRun.transport)
              { d₁ with queue := q, disk },
            Dispatch.Over d ∧ d.result = .ok summary ∧ d.reports =
              [{ host := "r1", commands := 1, error := none },
                { host := "r1", commands := 0
                  error := some "worker panicked: task 0 panicked" }] := by
    decide +kernel
  have hfailed : Overview.failed d.reports summary = 2 := by rw [hreports]; rfl
  have hends : EndsIn req {} disk r DryRun.transport d := by
    have hpanic := (Dispatch.reaches_of_foldlM hd₁).sends.ends htask (.panic "task 0 panicked")
      disk rfl hq
    exact ⟨hpanic.trans (Dispatch.reaches_of_foldlM hd).sends, hover⟩
  obtain ⟨hall, hrun⟩ := every_host_tallied hr
  obtain ⟨htallied, hverdict, -⟩ := hall _ _ d summary hends hresult
  have hpos : 0 < Overview.failed d.reports summary := by omega
  refine ⟨hr, d, hends, hresult, htallied, ?_, hfailed, by rw [hreports]; rfl,
    (hverdict _).mpr hpos, ?_⟩
  · -- the reports came in the order of their hosts
    rw [hreports]
    unfold Overview.rows
    rw [List.mergeSort_of_pairwise (by decide +kernel)]
    rfl
  -- in the program's own run no session panics, but the script of one host fails as well
  have hsummary : (req.send {} r (fun _ => .missing) disk).result = .ok summary := by
    decide +kernel
  obtain ⟨σ, t, d', clients, -, hsent, hexit⟩ :=
    hrun ⟨disk, "", fun _ => .missing⟩ true rfl
  have hresult' : d'.result = .ok summary := by
    rw [hsent] at hsummary
    exact hsummary
  rw [(hexit summary hresult').1, if_pos]
  show 0 < _ + 1
  omega

end RunRequest

end FleetScript
