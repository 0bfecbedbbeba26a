import FleetScript.Proofs.Queue.Progress
import FleetScript.Runner.Dispatch

/-!
The events of a dispatch. `Takes` says what each event needs and does: all of them are events of
the queue, and handling a host adds what it compiles to to the outline of the dispatch.
-/

namespace FleetScript

/-! ### Outlines -/

/-- What becomes of hosts as far as they have been handled: the summary, the plans that were
submitted, and why the dispatch was stopped if it was. -/
structure Outline where
  summary : Summary := {}
  plans : List Plan := []
  stopped : Option RunnerError := none

namespace Outline

/-- The outline with one more host, given what it compiles to. -/
def add (out : Outline) (entry : Host.Entry) : Except RunnerError Compiled → Outline
  | .ok (.plan p) =>
    { out with
      summary := { out.summary with submitted := out.summary.submitted + 1 }
      plans := out.plans ++ [p] }
  | .ok (.unsupported _) =>
    { out with summary := { out.summary with skipped := out.summary.skipped ++ [entry.raw] } }
  | .error (.script cause) =>
    { out with summary := { out.summary with
      failed := out.summary.failed ++ [(entry.raw, cause.message)] } }
  | .error cause => { out with stopped := some cause }

lemma add_error {cause : RunnerError} (h : ∀ e, cause ≠ .script e) (out : Outline)
    (entry : Host.Entry) : out.add entry (.error cause) = { out with stopped := some cause } := by
  cases cause with
  | script e => exact absurd rfl (h e)
  | _ => rfl

/-- The outline with all hosts up to one that stops the dispatch. -/
def addAll (compile : Host.Entry → Except RunnerError Compiled) (out : Outline) :
    List Host.Entry → Outline
  | [] => out
  | entry :: entries =>
    if out.stopped.isSome then out else (out.add entry (compile entry)).addAll compile entries

def planOf : Except RunnerError Compiled → List Plan
  | .ok (.plan p) => [p]
  | _ => []

/-- The plans before a host do not matter to what becomes of it. -/
lemma add_eq (out : Outline) (entry : Host.Entry) (c : Except RunnerError Compiled) :
    out.add entry c =
      { ({ out with plans := [] } : Outline).add entry c with plans := out.plans ++ planOf c } := by
  rcases c with e | p | u
  · cases e <;> simp [add, planOf]
  · simp [add, planOf]
  · simp [add, planOf]

lemma addAll_of_done {compile : Host.Entry → Except RunnerError Compiled} {out : Outline}
    {entries : List Host.Entry} (h : out.stopped.isSome ∨ entries = []) :
    out.addAll compile entries = out := by
  cases entries with
  | nil => rfl
  | cons entry entries => exact if_pos (h.resolve_right nofun)

lemma addAll_cons {compile : Host.Entry → Except RunnerError Compiled} {out : Outline}
    (h : out.stopped = none) (entry : Host.Entry) (entries : List Host.Entry) :
    out.addAll compile (entry :: entries) =
      (out.add entry (compile entry)).addAll compile entries := by
  rw [addAll, h]
  rfl

lemma plans_prefix_addAll (compile : Host.Entry → Except RunnerError Compiled) (out : Outline)
    (entries : List Host.Entry) : out.plans <+: (out.addAll compile entries).plans := by
  induction entries generalizing out with
  | nil => exact List.prefix_rfl
  | cons entry entries ih =>
    rw [addAll]
    split
    · exact List.prefix_rfl
    · refine List.IsPrefix.trans ?_ (ih _)
      rw [add_eq]
      exact List.prefix_append _ _

def result (out : Outline) : Except RunnerError Summary :=
  match out.stopped with
  | some cause => .error cause
  | none => .ok out.summary

end Outline

namespace Runner

variable (r : Runner) (o : Options) (name : String) (threads : Nat) (disk : Disk)

/-- What a host compiles to in a run with a number of threads. -/
def compiled (entry : Host.Entry) : Except RunnerError Compiled :=
  r.compile disk { maxThreads := max threads 1, name } entry o

/-- What becomes of a runner's hosts if all are compiled on one disk. -/
def outline : Outline :=
  Outline.addAll (r.compiled o name threads disk)
    { stopped := if r.script.isNone then some .notLoaded else none } r.registry.entries

end Runner

namespace Dispatch

section Steps

variable {σ : Type} (r : Runner) (o : Options) (name : String) (t : Transport σ)

/-- The dispatch of a runner's hosts, before anything has happened. -/
def start (threads : Nat) (disk : Disk) : Dispatch σ where
  hosts := r.registry.entries
  stopped := if r.script.isNone then some .notLoaded else none
  queue := Queue.new threads
  disk := disk

/-- The event that uses the slot that is held for a host: a plan is submitted into it. -/
def slotEvent : Except RunnerError Compiled → Queue.Event Sequence
  | .ok (.plan p) => .submit p.name p.sequence
  | _ => .drop

/-- What an event needs, and what it does. -/
inductive Takes (d : Dispatch σ) : Event → Dispatch σ → Prop where
  | reserve {q : Queue Sequence} (hs : d.stopped = none) (hh : d.hosts ≠ [])
    (h0 : d.queue.held = 0) (hq : d.queue.step? .reserve = some q) :
    Takes d .reserve { d with queue := q }
  | handle {entry : Host.Entry} {hosts : List Host.Entry} {c : Except RunnerError Compiled}
    {q : Queue Sequence} (notices : List Notice) (hs : d.stopped = none)
    (hh : d.hosts = entry :: hosts)
    (hc : r.compile d.disk { maxThreads := d.queue.workers, name } entry o = c)
    (hq : d.queue.step? (slotEvent c) = some q) :
    Takes d .handle { d with
      hosts
      stopped := (Outline.add { summary := d.summary, stopped := d.stopped } entry c).stopped
      summary := (Outline.add { summary := d.summary, stopped := d.stopped } entry c).summary
      queue := q
      notices }
  | run {task : Task Sequence} {q : Queue Sequence} (ht : task ∈ d.queue.tasks)
    (hq : d.queue.step? (.finish task.ticket (.report (Session.run t task.job d.disk).report)) =
      some q) :
    Takes d (.run task.ticket) { d with
      queue := q
      disk := (Session.run t task.job d.disk).disk
      notices := d.notices ++ (Session.run t task.job d.disk).notices
      sessions := d.sessions ++ [(Session.run t task.job d.disk).state] }
  | move {ticket : Nat} {m : Move} {q : Queue Sequence}
    (hq : d.queue.step? (.move ticket m) = some q) : Takes d (.move ticket m) { d with queue := q }
  | collect {x : Nat × Session.Report} {rest : List (Nat × Session.Report)} {q : Queue Sequence}
    (hd : d.stopped.isSome ∨ d.hosts = []) (hf : d.queue.finished = x :: rest)
    (hq : d.queue.step? .collect = some q) :
    Takes d .collect { d with queue := q, reports := d.reports ++ [x.2] }

variable {r o name t} {d d' : Dispatch σ} {e : Event}

lemma takes_handle (h : handle? r o name d = some d') : Takes r o name t d .handle d' := by
  unfold handle? at h
  split at h
  · next entry hosts hs hh =>
    dsimp only at h
    generalize hc : r.compile d.disk { maxThreads := d.queue.workers, name } entry o = c at h
    split at h <;> obtain ⟨q, hq, rfl⟩ := Option.map_eq_some_iff.mp h
    · exact .handle _ hs hh hc hq
    · exact .handle _ hs hh hc hq
    · exact .handle _ hs hh hc hq
    · next cause hcause =>
      have h := Takes.handle (t := t) d.notices hs hh hc hq
      rw [Outline.add_error hcause] at h
      exact h
  · cases h

theorem takes_of_step? (h : step? r o name t d e = some d') : Takes r o name t d e d' := by
  cases e with
  | reserve =>
    simp only [step?, Option.ite_none_right_eq_some] at h
    obtain ⟨hcond, h⟩ := h
    simp only [Bool.and_eq_true, Bool.not_eq_true', decide_eq_true_eq, Option.isNone_iff_eq_none,
      List.isEmpty_eq_false_iff] at hcond
    obtain ⟨q, hq, rfl⟩ := Option.map_eq_some_iff.mp h
    exact .reserve hcond.1.1 hcond.1.2 hcond.2 hq
  | handle =>
    simp only [step?, Option.ite_none_left_eq_some] at h
    exact takes_handle h.2
  | run ticket =>
    simp only [step?, run?] at h
    split at h
    · cases h
    next task ht =>
    obtain ⟨d₁, hd₁, rfl⟩ := Option.map_eq_some_iff.mp h
    obtain ⟨q, hq, rfl⟩ := Option.map_eq_some_iff.mp hd₁
    obtain ⟨hmem, rfl⟩ := Queue.mem_of_task? ht
    exact .run hmem hq
  | move ticket m =>
    obtain ⟨q, hq, rfl⟩ := Option.map_eq_some_iff.mp h
    exact .move hq
  | collect =>
    simp only [step?, collect?, Option.ite_none_left_eq_some] at h
    obtain ⟨hcond, h⟩ := h
    split at h
    · next x report rest hf =>
      obtain ⟨d₁, hd₁, rfl⟩ := Option.map_eq_some_iff.mp h
      obtain ⟨q, hq, rfl⟩ := Option.map_eq_some_iff.mp hd₁
      refine .collect ?_ hf hq
      cases hs : d.stopped with
      | some cause => exact .inl rfl
      | none => exact .inr (by simpa [hs] using hcond)
    · cases h

end Steps

end Dispatch

end FleetScript
