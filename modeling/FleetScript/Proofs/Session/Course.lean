import FleetScript.Proofs.Session.Exchanges

/-!
The course of a session. A session makes the calls of its sequence in their order up to the first
failure, and after a failure closes what is open: `Course` lists the ways this can go, and
`course_of_perform` says that a session takes one of them. Every call is answered by the transport
as the calls before it left it.
-/

namespace FleetScript.Session

/-! ### Courses -/

def opening (q : Sequence) : List Call :=
  .connect q.connect :: (q.authentication.map Call.authenticate).toList

/-- The calls of a sequence; without commands it comes no further than its script. -/
def calls (q : Sequence) : List Call :=
  opening q ++ match q.commands with
    | .ok commands => commands.map .execute ++ [.close]
    | .error _ => []

/-- The ways in which a session can go: the calls it makes with their answers, and its error. It
ends well, or does not connect, or fails at a later call or at its script and then closes. -/
inductive Course {σ : Type} (q : Sequence) : List (Exchange σ) → Option String → Prop where
  | finished {xs : List (Exchange σ)} {commands : List String} (hq : q.commands = .ok commands)
    (hc : xs.map Exchange.call = calls q) (hx : ∀ x ∈ xs, x.Succeeds) : Course q xs none
  | refused {x : Exchange σ} {e : TransportError} (hc : x.call = .connect q.connect)
    (he : x.reply.result = .error e) : Course q [x] (some e.message)
  | broken {xs : List (Exchange σ)} {x y : Exchange σ} {e : TransportError} (h0 : xs ≠ [])
    (hc : xs.map Exchange.call ++ [x.call] <+: calls q) (hx : ∀ x ∈ xs, x.Succeeds)
    (he : x.reply.result = .error e) (hy : y.call = .close) :
    Course q (xs ++ [x, y]) (some e.message)
  | unscripted {xs : List (Exchange σ)} {y : Exchange σ} {message : String}
    (hq : q.commands = .error message) (hc : xs.map Exchange.call = calls q)
    (hx : ∀ x ∈ xs, x.Succeeds) (hy : y.call = .close) :
    Course q (xs ++ [y]) (some ("Script failed: " ++ message))

/-! ### Whole sessions -/

section Run

variable {σ : Type} (t : Transport σ) (q : Sequence) (disk : Disk)

lemma prefix_calls :
    .connect q.connect :: ((q.authentication.map Call.authenticate).toList ++
      scriptCalls q.commands) <+: calls q := by
  unfold calls opening scriptCalls
  cases q.commands with
  | ok commands =>
    rw [List.cons_append, List.prefix_cons_inj, List.prefix_append_right_inj]
    exact List.prefix_append _ _
  | error message => exact List.prefix_refl _

/-- The progress of a session that has come to its end, with what was left open closed. -/
def ended (r : Option Failure × Progress σ) : Progress σ :=
  if r.1.isSome then salvage t r.2 else r.2

lemma perform_steps {p : Progress σ} (hp : ({} : Progress σ).connect t q.connect = (none, p)) :
    perform t (steps q) {} = andThen (perform t (middle q) p) (·.take t .close) := by
  have hlast : perform t [.close] = (·.take t .close) := funext fun p => perform_singleton t p _
  have hconnect : ({} : Progress σ).take t (.connect q.connect) = (none, p) := hp
  rw [steps_eq, perform_cons, hconnect, ← hlast]
  exact perform_append t p _ _

lemma broken_concat {xs : List (Exchange σ)} {x y : Exchange σ} {e : TransportError} (h0 : xs ≠ [])
    (hc : xs.map Exchange.call ++ [x.call] <+: calls q) (hx : ∀ x ∈ xs, x.Succeeds)
    (he : x.reply.result = .error e) (hy : y.call = .close) :
    Course q (xs ++ [x] ++ [y]) (some e.message) := by
  rw [List.append_assoc]
  exact .broken h0 hc hx he hy

/-- Closing after all other calls ends the session well, or is the call that fails. -/
lemma course_of_close {p : Progress σ} {xs : List (Exchange σ)} {commands : List String}
    (hq : q.commands = .ok commands) (h0 : xs ≠ [])
    (hc : calls q = xs.map Exchange.call ++ [.close]) (hx : ∀ x ∈ xs, x.Succeeds)
    (hp : Open t p xs) :
    ∃ xs, Agrees t (ended t (p.take t .close)) xs ∧
      Course q xs ((p.take t .close).1.map Failure.message) := by
  cases hres : (next t xs .close).reply.result with
  -- closing is the call that fails
  | error e =>
    obtain ⟨p', hp', hf⟩ := hp.take_close_error hres
    rw [hp']
    refine ⟨_, hf.salvaged, broken_concat q h0 ?_ hx hres rfl⟩
    rw [hc]
    exact List.prefix_refl _
  | ok text =>
    obtain ⟨p', hp', ha⟩ := hp.take_close_ok hres
    rw [hp']
    refine ⟨_, ha, .finished hq ?_ ?_⟩
    · rw [List.map_append, hc]
      rfl
    · intro x hx'
      rcases List.mem_append.mp hx' with hx' | hx'
      · exact hx x hx'
      · obtain rfl := List.mem_singleton.mp hx'
        exact ⟨text, hres⟩

/-- A session that has connected goes on to one of the other ways to end. -/
lemma course_of_connect {p : Progress σ} {x : Exchange σ}
    (hp : ({} : Progress σ).connect t q.connect = (none, p)) (h : Open t p [x])
    (hc : x.call = .connect q.connect) (hx : x.Succeeds) :
    ∃ xs, Agrees t (ended t (perform t (steps q) {})) xs ∧
      Course q xs ((perform t (steps q) {}).1.map Failure.message) := by
  rw [perform_steps t q hp]
  have hw := h.went_middle q
  generalize perform t (middle q) p = r at hw
  cases hw with
  | @broken p' ys y e hys hy he hp' =>
    -- a call in between has failed, and what is open is closed
    refine ⟨_, hp'.salvaged, ?_⟩
    refine broken_concat q (List.cons_ne_nil x ys) ?_ (List.forall_mem_cons.mpr ⟨hx, hy⟩) he rfl
    rw [List.map_cons, hc]
    exact ((List.prefix_cons_inj _).mpr hys).trans (prefix_calls q)
  | @through p' ys hys hy hp' =>
    have hall : ∀ y ∈ x :: ys, y.Succeeds := List.forall_mem_cons.mpr ⟨hx, hy⟩
    have hcalls : (x :: ys).map Exchange.call = .connect q.connect ::
        ((q.authentication.map Call.authenticate).toList ++ scriptCalls q.commands) := by
      rw [List.map_cons, hc, hys]
    cases hq : q.commands with
    -- all calls went well, but the script has no commands
    | error message =>
      refine ⟨_, hp'.salvaged, .unscripted hq (hcalls.trans ?_) hall rfl⟩
      rw [hq]
      unfold calls opening
      rw [hq]
      rfl
    | ok commands =>
      -- only closing is left
      refine course_of_close t q hq (List.cons_ne_nil x ys) ?_ hall hp'
      rw [hcalls, hq]
      unfold calls opening scriptCalls
      rw [hq]
      simp

/-- The steps of a sequence, and closing what they leave open, take one of the courses. -/
lemma course_of_perform :
    ∃ xs, Agrees t (ended t (perform t (steps q) {})) xs ∧
      Course q xs ((perform t (steps q) {}).1.map Failure.message) := by
  cases hres : (next t [] (.connect q.connect)).reply.result with
  | error e =>
    obtain ⟨p, hp, hnone, ha⟩ := connect_error hres
    have hperform : perform t (steps q) {} = (some (.transport e), p) := by
      have hconnect : ({} : Progress σ).take t (.connect q.connect) =
          (some (.transport e), p) := hp
      rw [steps_eq, perform_cons, hconnect]
      rfl
    have hended : ended t (some (.transport e), p) = p := by
      simp [ended, salvage, hnone]
    rw [hperform, hended]
    exact ⟨_, ha, .refused rfl hres⟩
  | ok text =>
    obtain ⟨p, hp, h⟩ := connect_ok hres
    exact course_of_connect t q hp h rfl ⟨text, hres⟩

/-! ### The state left behind -/

lemma ended_failed {p : Progress σ} {s : σ} {xs : List (Exchange σ)} {f : Failure}
    (h : Open t p xs) (hs : p.transport = some s) :
    ((ended t (some f, p)).deeds.filterMap Deed.state?).getLast?.getD t.opened =
      (t.answer .close s).state := by
  obtain rfl := Option.some.inj (h.transport.symm.trans hs)
  refine h.salvaged.state.trans ?_
  rw [List.map_append]
  exact t.after_concat _ _ _

/-- A session that has connected leaves its transport as closing does after the steps in between;
if one of these failed, it is closed only once. -/
theorem state_run {p : Progress σ} {x : Exchange σ} {s : σ}
    (hp : ({} : Progress σ).connect t q.connect = (none, p)) (h : Open t p [x])
    (hs : (perform t (middle q) p).2.transport = some s) :
    (run t q disk).state = if (perform t (middle q) p).1.isSome then (t.answer .close s).state
      else t.closing s := by
  have hrun : (run t q disk).state =
      ((ended t (perform t (steps q) {})).deeds.filterMap Deed.state?).getLast?.getD t.opened := rfl
  rw [hrun, perform_steps t q hp]
  obtain ⟨xs, hopen⟩ := (h.went_middle q).isOpen
  generalize perform t (middle q) p = r at hs hopen
  obtain ⟨f, p'⟩ := r
  cases f with
  -- after a failure the session is closed once
  | some f => exact ended_failed t hopen hs
  | none =>
    show ((ended t (p'.take t .close)).deeds.filterMap Deed.state?).getLast?.getD t.opened =
      t.closing s
    have hafter : t.after t.opened (xs.map Exchange.call) = s :=
      Option.some.inj (hopen.transport.symm.trans hs)
    have hnext : (next t xs .close).reply = t.answer .close s := by rw [← hafter]; rfl
    unfold Transport.closing
    cases hres : (next t xs .close).reply.result with
    | error e =>
      -- closing has failed itself, and is tried once more
      obtain ⟨p'', hp'', hf⟩ := hopen.take_close_error hres
      rw [hp'', ended_failed t hf hf.transport, ← hnext, hres]
      rw [List.map_append]
      exact congrArg (fun s => (t.answer .close s).state) (t.after_concat _ _ _)
    | ok text =>
      obtain ⟨p'', hp'', ha⟩ := hopen.take_close_ok hres
      rw [hp'', ← hnext, hres]
      refine ha.state.trans ?_
      rw [List.map_append]
      exact t.after_concat _ _ _

end Run

end FleetScript.Session
