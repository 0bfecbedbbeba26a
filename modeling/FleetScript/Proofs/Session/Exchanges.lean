import FleetScript.Session.Run
import Mathlib.Tactic.Lemma

/-!
The calls of a session. A transport answers each call as the calls before it left it; `replay`
makes calls one after another. `Agrees` and `Open` say that the progress of a session is that of
the exchanges it has had, and `Went` what becomes of calls that are made up to the first failure.
The parts of a session are brought to these, one lemma each.
-/

namespace FleetScript

/-! ### Exchanges -/

namespace Exchange

variable {σ : Type}

def Succeeds (x : Exchange σ) : Prop := ∃ text, x.reply.result = .ok text

def isSent (x : Exchange σ) : Bool :=
  match x.call, x.reply.result with
  | .execute _, .ok _ => true
  | _, _ => false

/-- The output that an exchange gave: only closing gives one. -/
def output? (x : Exchange σ) : Option String :=
  match x.call, x.reply.result with
  | .close, .ok text => some text
  | _, _ => none

end Exchange

/-- The number of commands that exchanges sent. -/
def sent {σ : Type} (xs : List (Exchange σ)) : Nat := (xs.filter Exchange.isSent).length

/-- The output that exchanges gave. -/
def transcript {σ : Type} (xs : List (Exchange σ)) : String :=
  String.join (xs.filterMap Exchange.output?)

namespace Transport

variable {σ : Type} (t : Transport σ)

def after (s : σ) (cs : List Call) : σ := cs.foldl (fun s c => (t.answer c s).state) s

/-- Calls made one after another, with their answers. -/
def replay : σ → List Call → List (Exchange σ)
  | _, [] => []
  | s, c :: rest => t.exchange s c :: replay (t.answer c s).state rest

lemma replay_concat (s : σ) (cs : List Call) (c : Call) :
    t.replay s (cs ++ [c]) = t.replay s cs ++ [t.exchange (t.after s cs) c] := by
  induction cs generalizing s with
  | nil => rfl
  | cons d cs ih => exact congrArg (_ :: ·) (ih _)

lemma after_concat (s : σ) (cs : List Call) (c : Call) :
    t.after s (cs ++ [c]) = (t.answer c (t.after s cs)).state := by
  unfold after
  rw [List.foldl_append]
  rfl

lemma getLast?_replay (s : σ) (cs : List Call) :
    ((t.replay s cs).map (·.reply.state)).getLast?.getD s = t.after s cs := by
  rcases List.eq_nil_or_concat cs with rfl | ⟨cs, c, rfl⟩
  · rfl
  · rw [List.concat_eq_append, replay_concat, after_concat, List.map_append]
    simp [exchange]

/-- The state in which closing leaves a transport, if it is closed once more after a failure. -/
def closing (s : σ) : σ :=
  match (t.answer .close s).result with
  | .ok _ => (t.answer .close s).state
  | .error _ => (t.answer .close (t.answer .close s).state).state

end Transport

lemma sent_concat {σ : Type} (xs : List (Exchange σ)) (x : Exchange σ) :
    sent (xs ++ [x]) = sent xs + x.isSent.toNat := by
  unfold sent
  rw [List.filter_append, List.length_append]
  cases h : x.isSent <;> simp [h]

lemma transcript_concat {σ : Type} (xs : List (Exchange σ)) (x : Exchange σ) :
    transcript (xs ++ [x]) = transcript xs ++ x.output?.getD "" := by
  unfold transcript
  rw [List.filterMap_append]
  cases h : x.output? <;> simp [h, String.join_append]

namespace Session

/-! ### What the progress knows -/

section Progress

variable {σ : Type} {t : Transport σ} {p p' : Progress σ} {xs ys : List (Exchange σ)}
  {cs cs' : List Call} {script : Option String}

/-- The progress of a session that has made the calls of `xs` on one transport. -/
structure Agrees (t : Transport σ) (p : Progress σ) (xs : List (Exchange σ)) : Prop where
  deeds : p.deeds = .opened :: xs.map .made
  replayed : t.replay t.opened (xs.map Exchange.call) = xs
  commands : p.commands = sent xs
  output : p.output = transcript xs

/-- The progress of a session that has its transport open. -/
structure Open (t : Transport σ) (p : Progress σ) (xs : List (Exchange σ)) : Prop
    extends Agrees t p xs where
  transport : p.transport = some (t.after t.opened (xs.map Exchange.call))

/-- The exchange that a call comes to after the exchanges `xs`. -/
def next (t : Transport σ) (xs : List (Exchange σ)) (c : Call) : Exchange σ :=
  t.exchange (t.after t.opened (xs.map Exchange.call)) c

lemma Agrees.concat {c : Call} (h : Agrees t p xs)
    (hd : p'.deeds = p.deeds ++ [.made (next t xs c)])
    (hc : p'.commands = p.commands + (next t xs c).isSent.toNat)
    (ho : p'.output = p.output ++ (next t xs c).output?.getD "") :
    Agrees t p' (xs ++ [next t xs c]) where
  deeds := by rw [hd, h.deeds, List.map_append]; rfl
  replayed := by
    rw [List.map_append]
    refine (t.replay_concat _ _ _).trans ?_
    rw [h.replayed]
    rfl
  commands := by rw [hc, h.commands, sent_concat]
  output := by rw [ho, h.output, transcript_concat]

lemma Open.concat {c : Call} (h : Open t p xs)
    (hd : p'.deeds = p.deeds ++ [.made (next t xs c)])
    (hc : p'.commands = p.commands + (next t xs c).isSent.toNat)
    (ho : p'.output = p.output ++ (next t xs c).output?.getD "")
    (ht : p'.transport = some (next t xs c).reply.state) :
    Open t p' (xs ++ [next t xs c]) where
  toAgrees := h.toAgrees.concat hd hc ho
  transport := by
    rw [ht, List.map_append]
    exact congrArg some (t.after_concat _ _ _).symm

lemma Agrees.state (h : Agrees t p xs) :
    (p.deeds.filterMap Deed.state?).getLast?.getD t.opened =
      t.after t.opened (xs.map Exchange.call) := by
  rw [← t.getLast?_replay, h.replayed, h.deeds, List.filterMap_cons_none rfl, List.filterMap_map]
  congr 2
  exact congrFun List.filterMap_eq_map xs

lemma Open.call_eq (h : Open t p xs) (c : Call) :
    p.call t c = ((next t xs c).reply.result,
      { p.noted (next t xs c) with transport := some (next t xs c).reply.state }) := by
  unfold Progress.call
  rw [h.transport]
  rfl

lemma Open.failed (h : Open t p xs) {c : Call} {e : TransportError}
    (he : (next t xs c).reply.result = .error e) :
    Open t { p.noted (next t xs c) with transport := some (next t xs c).reply.state }
      (xs ++ [next t xs c]) := by
  have hsent : (next t xs c).isSent = false := by unfold Exchange.isSent; rw [he]; cases c <;> rfl
  have hout : (next t xs c).output? = none := by unfold Exchange.output?; rw [he]; cases c <;> rfl
  refine h.concat rfl ?_ ?_ rfl
  · rw [hsent]; rfl
  · rw [hout]; exact String.append_empty.symm

/-! ### Calls up to the first failure -/

/-- What became of the calls `cs`, and of a script that fails after them as `script` says, in a
session that has had the exchanges `xs`: all of them succeed, or one is the first to fail. -/
inductive Went (t : Transport σ) (xs : List (Exchange σ)) (cs : List Call)
    (script : Option String) : Option Failure × Progress σ → Prop where
  | through {p : Progress σ} (ys : List (Exchange σ)) (hc : ys.map Exchange.call = cs)
    (hy : ∀ y ∈ ys, y.Succeeds) (hp : Open t p (xs ++ ys)) :
    Went t xs cs script (script.map .script, p)
  | broken {p : Progress σ} (ys : List (Exchange σ)) {y : Exchange σ} {e : TransportError}
    (hc : ys.map Exchange.call ++ [y.call] <+: cs) (hy : ∀ y ∈ ys, y.Succeeds)
    (he : y.reply.result = .error e) (hp : Open t p (xs ++ (ys ++ [y]))) :
    Went t xs cs script (some (.transport e), p)

/-- Goes on with `k` unless something failed. -/
def andThen (r : Option Failure × Progress σ) (k : Progress σ → Option Failure × Progress σ) :
    Option Failure × Progress σ :=
  match r with
  | (some f, p) => (some f, p)
  | (none, p) => k p

lemma Went.isOpen {r : Option Failure × Progress σ} (h : Went t xs cs script r) :
    ∃ zs, Open t r.2 zs := by
  cases h with
  | through _ _ _ hp => exact ⟨_, hp⟩
  | broken _ _ _ _ hp => exact ⟨_, hp⟩

lemma Went.andThen {r : Option Failure × Progress σ}
    {k : Progress σ → Option Failure × Progress σ} (h : Went t xs cs none r)
    (hk : ∀ {ys p}, Open t p (xs ++ ys) → Went t (xs ++ ys) cs' script (k p)) :
    Went t xs (cs ++ cs') script (andThen r k) := by
  cases h with
  | @through p ys hc hy hp =>
    show Went t xs (cs ++ cs') script (k p)
    cases hr : k p with
    | mk f p' =>
      have h' := hk hp
      rw [hr] at h'
      cases h' with
      -- both parts went through
      | @through _ zs hc' hz hp' =>
        rw [List.append_assoc] at hp'
        refine .through _ ?_ ?_ hp'
        · rw [List.map_append, hc, hc']
        · exact fun y hy' => (List.mem_append.mp hy').elim (hy y) (hz y)
      -- the first part went through, and a call of the second failed
      | @broken _ zs z e hc' hz he hp' =>
        rw [List.append_assoc, ← List.append_assoc ys] at hp'
        refine .broken _ ?_ ?_ he hp'
        · rw [List.map_append, hc, List.append_assoc]
          exact (List.prefix_append_right_inj _).mpr hc'
        · exact fun y hy' => (List.mem_append.mp hy').elim (hy y) (hz y)
  | broken ys hc hy he hp => exact .broken ys (hc.trans (List.prefix_append _ _)) hy he hp

/-- One call, after which the progress keeps account of whether it sent a command. -/
lemma Open.went_call {c : Call} (h : Open t p xs) (kept : Progress σ → Progress σ)
    (hclose : c ≠ .close) (hd : ∀ p, (kept p).deeds = p.deeds)
    (ho : ∀ p, (kept p).output = p.output) (ht : ∀ p, (kept p).transport = p.transport)
    (hsent : ∀ p x, x.call = c → x.Succeeds →
      (kept p).commands = p.commands + (x : Exchange σ).isSent.toNat) :
    Went t xs [c] none (match p.call t c with
      | (.error e, p) => (some (.transport e), p)
      | (.ok _, p) => (none, kept p)) := by
  rw [h.call_eq c]
  cases hr : (next t xs c).reply.result with
  | error e => exact .broken [] (List.prefix_refl _) (by simp) hr (h.failed hr)
  | ok text =>
    have hout : (next t xs c).output? = none := by
      unfold Exchange.output?
      rw [hr]
      cases c <;> first | rfl | exact absurd rfl hclose
    refine .through [next t xs c] rfl ?_ (h.concat ?_ ?_ ?_ ?_)
    · intro y hy
      obtain rfl := List.mem_singleton.mp hy
      exact ⟨text, hr⟩
    · exact hd _
    · exact hsent _ _ rfl ⟨text, hr⟩
    · rw [hout, ho]
      exact String.append_empty.symm
    · exact ht _

/-! ### Steps -/

lemma send_cons (t : Transport σ) (p : Progress σ) (c : String) (rest : List String) :
    p.send t (c :: rest) = andThen (match p.call t (.execute c) with
      | (.error e, p) => (some (.transport e), p)
      | (.ok _, p) => (none, { p with commands := p.commands + 1 })) (·.send t rest) := by
  rw [Progress.send]
  split <;> simp_all [andThen]

lemma Open.went_send (h : Open t p xs) (commands : List String) :
    Went t xs (commands.map .execute) none (p.send t commands) := by
  induction commands generalizing p xs with
  | nil => exact .through [] rfl (by simp) (by rwa [List.append_nil])
  | cons c rest ih =>
    rw [send_cons]
    have hcall : Went t xs [.execute c] none _ :=
      h.went_call (fun p => { p with commands := p.commands + 1 }) nofun (fun _ => rfl)
        (fun _ => rfl) (fun _ => rfl) (fun p x hx ⟨text, hr⟩ => by
          unfold Exchange.isSent
          rw [hx, hr]
          rfl)
    exact hcall.andThen fun hp => ih hp

lemma Open.went_authenticate (h : Open t p xs) (auth : Authentication) :
    Went t xs [.authenticate auth] none (p.take t (.authenticate auth)) :=
  h.went_call id nofun (fun _ => rfl) (fun _ => rfl) (fun _ => rfl)
    fun p x hx _ => by
      unfold Exchange.isSent
      rw [hx]
      rfl

def scriptError? (commands : Except String (List String)) : Option String :=
  match commands with
  | .ok _ => none
  | .error message => some message

def scriptCalls (commands : Except String (List String)) : List Call :=
  match commands with
  | .ok commands => commands.map .execute
  | .error _ => []

lemma Open.went_runScript (h : Open t p xs) (commands : Except String (List String)) :
    Went t xs (scriptCalls commands) (scriptError? commands) (p.take t (.runScript commands)) := by
  cases commands with
  | ok commands => exact h.went_send commands
  | error message => exact .through [] rfl (by simp) (by rwa [List.append_nil])

lemma perform_cons (t : Transport σ) (p : Progress σ) (step : Step) (rest : List Step) :
    perform t (step :: rest) p = andThen (p.take t step) (perform t rest) := rfl

lemma perform_append (t : Transport σ) (p : Progress σ) (before rest : List Step) :
    perform t (before ++ rest) p = andThen (perform t before p) (perform t rest) := by
  induction before generalizing p with
  | nil => rfl
  | cons step before ih =>
    rw [List.cons_append, perform_cons, perform_cons]
    cases p.take t step with
    | mk f p =>
      cases f with
      | none => exact ih p
      | some f => rfl

lemma perform_singleton (t : Transport σ) (p : Progress σ) (step : Step) :
    perform t [step] p = p.take t step := by
  rw [perform_cons]
  cases p.take t step with
  | mk f p => cases f <;> rfl

def middle (q : Sequence) : List Step :=
  (q.authentication.map Step.authenticate).toList ++ [.runScript q.commands]

lemma Open.went_middle (h : Open t p xs) (q : Sequence) :
    Went t xs ((q.authentication.map Call.authenticate).toList ++ scriptCalls q.commands)
      (scriptError? q.commands) (perform t (middle q) p) := by
  have hscript : ∀ {p xs}, Open t p xs → Went t xs (scriptCalls q.commands)
      (scriptError? q.commands) (perform t [.runScript q.commands] p) := fun {p xs} hp => by
    rw [perform_singleton]
    exact hp.went_runScript q.commands
  unfold middle
  cases q.authentication with
  | none => exact hscript h
  | some auth => exact (h.went_authenticate auth).andThen hscript

lemma steps_eq (q : Sequence) : steps q = .connect q.connect :: (middle q ++ [.close]) := by
  unfold steps middle
  simp

/-! ### Connecting and closing -/

lemma connect_error {spec : ConnectSpec} {e : TransportError}
    (hr : (next t [] (.connect spec)).reply.result = .error e) :
    ∃ p, ({} : Progress σ).connect t spec = (some (.transport e), p) ∧ p.transport = none ∧
      Agrees t p [next t [] (.connect spec)] := by
  have hnone : Agrees t { deeds := [.opened] } [] := ⟨rfl, rfl, rfl, rfl⟩
  have hx : t.exchange t.opened (.connect spec) = next t [] (.connect spec) := rfl
  unfold Progress.connect
  rw [hx]
  simp only [hr]
  exact ⟨_, rfl, rfl, hnone.concat rfl rfl rfl⟩

lemma connect_ok {spec : ConnectSpec} {text : String}
    (hr : (next t [] (.connect spec)).reply.result = .ok text) :
    ∃ p, ({} : Progress σ).connect t spec = (none, p) ∧ Open t p [next t [] (.connect spec)] := by
  have hnone : Agrees t { deeds := [.opened] } [] := ⟨rfl, rfl, rfl, rfl⟩
  have hx : t.exchange t.opened (.connect spec) = next t [] (.connect spec) := rfl
  unfold Progress.connect
  rw [hx]
  simp only [hr]
  exact ⟨_, rfl, hnone.concat (c := .connect spec) rfl rfl rfl, rfl⟩

lemma Open.take_close_ok (h : Open t p xs) {text : String}
    (hr : (next t xs .close).reply.result = .ok text) :
    ∃ p', p.take t .close = (none, p') ∧ Agrees t p' (xs ++ [next t xs .close]) := by
  have hsent : (next t xs .close).isSent = false := rfl
  have hout : (next t xs .close).output? = some text := by
    unfold Exchange.output?
    rw [hr]
    rfl
  unfold Progress.take
  rw [h.call_eq .close, hr]
  refine ⟨_, rfl, h.toAgrees.concat rfl ?_ ?_⟩
  · rw [hsent]
    rfl
  · rw [hout]
    rfl

/-- Closing leaves the transport open, if it fails. -/
lemma Open.take_close_error (h : Open t p xs) {e : TransportError}
    (hr : (next t xs .close).reply.result = .error e) :
    ∃ p', p.take t .close = (some (.transport e), p') ∧
      Open t p' (xs ++ [next t xs .close]) := by
  unfold Progress.take
  rw [h.call_eq .close, hr]
  exact ⟨_, rfl, h.failed hr⟩

/-- Whatever comes of closing what is open, it is one call. -/
lemma Open.salvaged (h : Open t p xs) :
    Agrees t (salvage t p) (xs ++ [next t xs .close]) := by
  have hsalvage : salvage t p = { (p.take t .close).2 with transport := none } := by
    unfold salvage Progress.take
    rw [h.transport]
    dsimp only
    split <;> simp_all
  rw [hsalvage]
  cases hr : (next t xs .close).reply.result with
  | error e =>
    obtain ⟨p', hp', hf⟩ := h.take_close_error hr
    rw [hp']
    exact ⟨hf.deeds, hf.replayed, hf.commands, hf.output⟩
  | ok text =>
    obtain ⟨p', hp', ha⟩ := h.take_close_ok hr
    rw [hp']
    exact ⟨ha.deeds, ha.replayed, ha.commands, ha.output⟩

end Progress

end Session

end FleetScript
