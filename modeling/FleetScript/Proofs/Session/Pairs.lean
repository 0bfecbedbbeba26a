import FleetScript.Session.Run
import Mathlib.Data.List.Forall2
import Mathlib.Tactic.Lemma

/-!
Pairs of sessions. Say which calls belong together, and which states of a transport. If the
transport answers calls that belong together with the same result, tells the user the same, and is
left in states that belong together again, then so do whole sessions: two sequences whose steps
belong together come to the same report and the same disk (`run_alike`).
-/

namespace FleetScript

/-! ### Answers -/

section Answers

variable {σ : Type}

/-- Answers with the same result, which tell the user the same and leave states that belong
together. -/
structure Reply.Alike (R : σ → σ → Prop) (x y : Reply σ) : Prop where
  result : x.result = y.result
  notices : x.notices = y.notices
  state : R x.state y.state

/-- A transport that answers calls that belong together alike, in states that belong together. -/
structure Transport.Respects (t : Transport σ) (R : σ → σ → Prop) (C : Call → Call → Prop) :
    Prop where
  opened : R t.opened t.opened
  answer {c d : Call} {s v : σ} (hc : C c d) (hs : R s v) :
    (t.answer c s).Alike R (t.answer d v)

end Answers

namespace Session

/-- Steps that make calls that belong together. A script has the same commands in both. -/
inductive Step.Alike (C : Call → Call → Prop) : Step → Step → Prop where
  | connect {a b : ConnectSpec} (h : C (.connect a) (.connect b)) :
    Alike C (.connect a) (.connect b)
  | authenticate {a b : Authentication} (h : C (.authenticate a) (.authenticate b)) :
    Alike C (.authenticate a) (.authenticate b)
  | runScript {commands : Except String (List String)} (h : ∀ c, C (.execute c) (.execute c)) :
    Alike C (.runScript commands) (.runScript commands)
  | close (h : C .close .close) : Alike C .close .close

/-- Outcomes with the same report, which tell the user the same and leave the same disk, and states
of the transport that belong together. -/
structure Outcome.Alike {σ : Type} (R : σ → σ → Prop) (x y : Outcome σ) : Prop where
  report : x.report = y.report
  notices : x.notices = y.notices
  disk : x.disk = y.disk
  state : R x.state y.state

lemma Outcome.Alike.imp {σ : Type} {R S : σ → σ → Prop} {x y : Outcome σ} (h : x.Alike R y)
    (hRS : R x.state y.state → S x.state y.state) : x.Alike S y :=
  ⟨h.report, h.notices, h.disk, hRS h.state⟩

section Pairs

variable {σ : Type} {t : Transport σ} {R : σ → σ → Prop} {C : Call → Call → Prop}
  {p q : Progress σ}

/-! ### Progress -/

/-- The progress of two sessions that have come equally far. -/
structure Progress.Alike (R : σ → σ → Prop) (p q : Progress σ) : Prop where
  transport : Option.Rel R p.transport q.transport
  commands : p.commands = q.commands
  output : p.output = q.output
  states : List.Forall₂ R (p.deeds.filterMap Deed.state?) (q.deeds.filterMap Deed.state?)
  notices : p.notices = q.notices

/-- The same result, with progress that is alike. -/
def Together {α : Type} (R : σ → σ → Prop) (x y : α × Progress σ) : Prop :=
  ∃ a p q, x = (a, p) ∧ y = (a, q) ∧ p.Alike R q

lemma Together.mk {α : Type} (a : α) (h : p.Alike R q) : Together R (a, p) (a, q) :=
  ⟨a, p, q, rfl, rfl, h⟩

lemma Progress.Alike.noted (h : p.Alike R q) {x y : Exchange σ} (hxy : x.reply.Alike R y.reply) :
    (p.noted x).Alike R (q.noted y) where
  transport := h.transport
  commands := h.commands
  output := h.output
  states := by
    unfold Progress.noted
    rw [List.filterMap_append, List.filterMap_append]
    exact List.rel_append h.states (.cons hxy.state .nil)
  notices := by
    unfold Progress.noted
    rw [h.notices, hxy.notices]

lemma Progress.Alike.withTransport (h : p.Alike R q) {a b : Option σ} (hab : Option.Rel R a b) :
    ({ p with transport := a } : Progress σ).Alike R { q with transport := b } :=
  ⟨hab, h.commands, h.output, h.states, h.notices⟩

lemma Progress.Alike.withOutput (h : p.Alike R q) (text : String) :
    ({ p with output := p.output ++ text, transport := none } : Progress σ).Alike R
      { q with output := q.output ++ text, transport := none } :=
  ⟨.none, h.commands, congrArg (· ++ text) h.output, h.states, h.notices⟩

lemma rel_getLast {xs ys : List σ} {s v : σ} (h : List.Forall₂ R xs ys) (hs : R s v) :
    R (xs.getLast?.getD s) (ys.getLast?.getD v) := by
  induction h generalizing s v with
  | nil => exact hs
  | cons hxy _ ih =>
    rw [List.getLast?_cons, List.getLast?_cons]
    exact ih hxy

variable (ht : t.Respects R C)

include ht

/-! ### Steps -/

lemma Progress.Alike.call (h : p.Alike R q) {c d : Call} (hc : C c d) :
    Together R (p.call t c) (q.call t d) := by
  have hopen := h.transport
  unfold Progress.call
  generalize p.transport = a at hopen ⊢
  generalize q.transport = b at hopen ⊢
  cases hopen with
  | none => exact .mk _ h
  | @some s v hs =>
    have hanswer := ht.answer hc hs
    have hnoted := h.noted (x := t.exchange s c) (y := t.exchange v d) hanswer
    exact ⟨_, _, _, rfl, Prod.ext hanswer.result.symm rfl,
      hnoted.withTransport (.some hanswer.state)⟩

lemma Progress.Alike.connect (h : p.Alike R q) {a b : ConnectSpec}
    (hc : C (.connect a) (.connect b)) : Together R (p.connect t a) (q.connect t b) := by
  have hanswer : (t.exchange t.opened (.connect a)).reply.Alike R
      (t.exchange t.opened (.connect b)).reply := ht.answer hc ht.opened
  have hopened : ({ p with deeds := p.deeds ++ [.opened] } : Progress σ).Alike R
      { q with deeds := q.deeds ++ [.opened] } := by
    refine ⟨h.transport, h.commands, h.output, ?_, h.notices⟩
    rw [List.filterMap_append, List.filterMap_append]
    exact List.rel_append h.states .nil
  have hnoted := hopened.noted hanswer
  unfold Progress.connect
  dsimp only
  rw [← hanswer.result]
  cases (t.exchange t.opened (.connect a)).reply.result with
  | error e => exact .mk _ hnoted
  | ok text => exact .mk _ (hnoted.withTransport (.some hanswer.state))

lemma Progress.Alike.send (h : p.Alike R q) (hc : ∀ c, C (.execute c) (.execute c))
    (commands : List String) : Together R (p.send t commands) (q.send t commands) := by
  induction commands generalizing p q with
  | nil => exact .mk _ h
  | cons c rest ih =>
    obtain ⟨result, p', q', hp, hq, h'⟩ := h.call ht (hc c)
    simp only [Progress.send, hp, hq]
    cases result with
    | error e => exact .mk _ h'
    | ok text =>
      exact ih ⟨h'.transport, congrArg (· + 1) h'.commands, h'.output, h'.states, h'.notices⟩

lemma Progress.Alike.take (h : p.Alike R q) {a b : Step} (hab : a.Alike C b) :
    Together R (p.take t a) (q.take t b) := by
  cases hab with
  | connect hc => exact h.connect ht hc
  | @runScript commands hc =>
    cases commands with
    | error message => exact .mk _ h
    | ok commands => exact h.send ht hc commands
  | authenticate hc =>
    obtain ⟨result, p', q', hp, hq, h'⟩ := h.call ht hc
    simp only [Progress.take, hp, hq]
    cases result <;> exact .mk _ h'
  | close hc =>
    obtain ⟨result, p', q', hp, hq, h'⟩ := h.call ht hc
    simp only [Progress.take, hp, hq]
    cases result with
    | error e => exact .mk _ h'
    | ok text => exact .mk _ (h'.withOutput text)

/-! ### Whole sessions -/

lemma Progress.Alike.perform (h : p.Alike R q) {as bs : List Step}
    (hsteps : List.Forall₂ (Step.Alike C) as bs) :
    Together R (perform t as p) (perform t bs q) := by
  induction hsteps generalizing p q with
  | nil => exact .mk _ h
  | cons hab _ ih =>
    obtain ⟨failure, p', q', hp, hq, h'⟩ := h.take ht hab
    simp only [Session.perform, hp, hq]
    cases failure with
    | some f => exact .mk _ h'
    | none => exact ih h'

lemma Progress.Alike.salvage (h : p.Alike R q) (hc : C .close .close) :
    (salvage t p).Alike R (salvage t q) := by
  obtain ⟨result, p', q', hp, hq, h'⟩ := h.call ht hc
  have hopen := h.transport
  simp only [Session.salvage, hp, hq]
  generalize p.transport = a at hopen ⊢
  generalize q.transport = b at hopen ⊢
  cases hopen with
  | none => exact h
  | some _ =>
    cases result with
    | error e => exact h'.withTransport .none
    | ok text => exact h'.withOutput text

/-- **Sequences whose steps belong together come to the same.** -/
theorem run_alike {a b : Sequence} (hname : a.name = b.name) (hlog : a.log = b.log)
    (hsteps : List.Forall₂ (Step.Alike C) (steps a) (steps b)) (hclose : C .close .close)
    (disk : Disk) : (run t a disk).Alike R (run t b disk) := by
  have hstart : ({} : Progress σ).Alike R {} := ⟨.none, rfl, rfl, .nil, rfl⟩
  obtain ⟨failure, p, q, hp, hq, h⟩ := hstart.perform ht hsteps
  have hended : (if failure.isSome then Session.salvage t p else p).Alike R
      (if failure.isSome then Session.salvage t q else q) := by
    split
    · exact h.salvage ht hclose
    · exact h
  have hstate := rel_getLast hended.states ht.opened
  unfold run
  simp only [hp, hq, hname, hlog, hended.commands, hended.output, hended.notices]
  exact ⟨rfl, rfl, rfl, hstate⟩

end Pairs

end Session

end FleetScript
