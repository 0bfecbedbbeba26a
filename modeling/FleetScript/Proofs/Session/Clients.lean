import FleetScript.Proofs.Session.Course
import FleetScript.Session.Client

/-!
How many clients a session starts. A client is started by the first call that needs one, and takes
lines up to the first that it refuses; closing waits for its end. If this end is a failure, the
session closes once more, and as its client is gone, that starts another one and logs in with it.
`clients_run` says which clients a session starts, and `length_clients_le_one_iff` when it is not
more than one.
-/

namespace FleetScript.Client

open Session

variable {programs : Programs} {spec : ConnectSpec} {auth : Option Authentication} {s : State}
  {p p₀ : Invocation} {host : String} {round : Nat}

/-- The clients that a session has started, in their order. -/
def State.clients (s : State) : List Invocation := s.finished ++ s.current.toList

/-- Whether waiting for the end of a client comes to a failure. -/
def endFails (programs : Programs) (round : Nat) (p : Invocation) : Bool :=
  match endOf programs round p with
  | .error _ => true
  | .ok o => o.exit ≠ 0

/-! ### Lines -/

lemma writeLines_append (programs : Programs) (host : String) (round : Nat) (p : Invocation)
    (before rest : List String) :
    writeLines programs host round p (before ++ rest) =
      match writeLines programs host round p before with
      | (some e, p) => (some e, p)
      | (none, p) => writeLines programs host round p rest := by
  induction before generalizing p with
  | nil => rfl
  | cons line before ih =>
    simp only [List.cons_append, writeLines]
    split
    · rfl
    · exact ih _

/-! ### Starting -/

@[simp] lemma transport_answer (c : Call) (s : State) :
    (transport programs).answer c s = answer programs c s := rfl

lemma ensureStarted_running (hc : s.current = some p) : ensureStarted programs s = (none, s) := by
  simp only [ensureStarted, hc]

lemma ensureStarted_refused {e : TransportError} (hs : s.spec = some spec)
    (hc : s.current = none) (hstart : start programs spec s.auth = .error e) :
    ensureStarted programs s = (some e, s) := by
  simp only [ensureStarted, hc, hs, hstart]

/-- The client that a session starts takes the login up to the first line that it refuses. -/
lemma ensureStarted_idle (hs : s.spec = some spec) (hc : s.current = none)
    (hstart : start programs spec s.auth = .ok p₀) {e : Option TransportError}
    (hw : writeLines programs spec.host s.finished.length p₀ (loginLines spec s.auth) = (e, p)) :
    ensureStarted programs s = (e, { s with current := some p }) := by
  simp only [ensureStarted, hc, hs, hstart, hw]

/-- A call that has its client started goes on as if that had been running. -/
lemma answer_started {s' : State} {c : Call} (h : ensureStarted programs s = (none, s'))
    (hc : s'.current = some p) (hcall : c = .close ∨ ∃ command, c = .execute command) :
    answer programs c s = answer programs c s' := by
  rcases hcall with rfl | ⟨command, rfl⟩
  · simp only [answer, h, ensureStarted_running hc]
  · simp only [answer, h, ensureStarted_running hc]

lemma answer_refused {s' : State} {c : Call} {e : TransportError}
    (h : ensureStarted programs s = (some e, s'))
    (hcall : c = .close ∨ ∃ command, c = .execute command) :
    answer programs c s = { result := .error e, state := s' } := by
  rcases hcall with rfl | ⟨command, rfl⟩
  · simp only [answer, h]
  · simp only [answer, h]

/-! ### Sending commands -/

/-- The state of a transport after commands up to the first that fails, and its failure. -/
def executes {σ : Type} (t : Transport σ) : List String → σ → Option TransportError × σ
  | [], s => (none, s)
  | c :: rest, s =>
    match (t.answer (.execute c) s).result with
    | .error e => (some e, (t.answer (.execute c) s).state)
    | .ok _ => executes t rest (t.answer (.execute c) s).state

lemma send_transport {σ : Type} {t : Transport σ} {p : Progress σ} {s : σ}
    (h : p.transport = some s) (commands : List String) :
    (p.send t commands).1 = (executes t commands s).1.map .transport ∧
      (p.send t commands).2.transport = some (executes t commands s).2 := by
  induction commands generalizing p s with
  | nil => exact ⟨rfl, h⟩
  | cons c rest ih =>
    have hcall : p.call t (.execute c) = ((t.answer (.execute c) s).result,
        { p.noted (t.exchange s (.execute c)) with
          transport := some (t.answer (.execute c) s).state }) := by
      unfold Progress.call
      rw [h]
      rfl
    rw [send_cons, hcall]
    unfold executes
    cases (t.answer (.execute c) s).result with
    | error e => exact ⟨rfl, rfl⟩
    | ok text => exact ih rfl

lemma execute_running (programs : Programs) (hs : s.spec = some spec) (hc : s.current = some p)
    (c : String) :
    answer programs (.execute c) s =
      match writeLine programs spec.host s.finished.length p c with
      | .error e => { result := .error e, state := s }
      | .ok p => { result := .ok "", state := { s with current := some p } } := by
  simp only [answer, ensureStarted_running hc, send, hs, hc]
  cases writeLine programs spec.host s.finished.length p c <;> rfl

lemma executes_running (hs : s.spec = some spec) (hc : s.current = some p)
    (commands : List String) {e : Option TransportError} {p' : Invocation}
    (hw : writeLines programs spec.host s.finished.length p commands = (e, p')) :
    executes (transport programs) commands s = (e, { s with current := some p' }) := by
  induction commands generalizing s p with
  | nil =>
    obtain ⟨rfl, rfl⟩ := Prod.mk.inj hw
    show (none, s) = (none, { s with current := some p })
    rw [← hc]
  | cons c rest ih =>
    have hanswer := execute_running programs hs hc c
    unfold writeLines at hw
    unfold executes
    cases hline : writeLine programs spec.host s.finished.length p c with
    | error e =>
      rw [hline] at hw hanswer
      obtain ⟨rfl, rfl⟩ := Prod.mk.inj hw
      rw [transport_answer, hanswer]
      show (some e, s) = (some e, { s with current := some p })
      rw [← hc]
    | ok p₁ =>
      rw [hline] at hw hanswer
      rw [transport_answer, hanswer]
      exact ih hs rfl hw

/-- Without a client the first command starts one, which has to take the login first. -/
lemma executes_idle (hs : s.spec = some spec) (hc : s.current = none)
    (hstart : start programs spec s.auth = .ok p₀) (c : String) (rest : List String)
    {e : Option TransportError}
    (hw : writeLines programs spec.host s.finished.length p₀
      (loginLines spec s.auth ++ c :: rest) = (e, p)) :
    executes (transport programs) (c :: rest) s = (e, { s with current := some p }) := by
  rw [writeLines_append] at hw
  cases hlogin : writeLines programs spec.host s.finished.length p₀ (loginLines spec s.auth) with
  | mk e₁ p₁ =>
    have hensure := ensureStarted_idle hs hc hstart hlogin
    rw [hlogin] at hw
    cases e₁ with
    | some e₁ =>
      obtain ⟨rfl, rfl⟩ := Prod.mk.inj hw
      unfold executes
      rw [transport_answer, answer_refused hensure (.inr ⟨c, rfl⟩)]
    | none =>
      rw [← executes_running (s := { s with current := some p₁ }) hs rfl (c :: rest) hw]
      unfold executes
      rw [transport_answer, answer_started hensure rfl (.inr ⟨c, rfl⟩)]
      rfl

lemma executes_refused {e : TransportError} (hs : s.spec = some spec) (hc : s.current = none)
    (hstart : start programs spec s.auth = .error e) (commands : List String) :
    (executes (transport programs) commands s).2 = s := by
  cases commands with
  | nil => rfl
  | cons c rest =>
    unfold executes
    rw [transport_answer, answer_refused (ensureStarted_refused hs hc hstart) (.inr ⟨c, rfl⟩)]

/-! ### Closing -/

lemma verdict_eq_ok {o : Output} {text : String} (h : verdict host o = .ok text) : o.exit = 0 := by
  unfold verdict at h
  split at h
  · assumption
  · dsimp only at h
    split at h <;> cases h

/-- Closing a client that runs waits for its end, whatever comes of it. -/
lemma close_running (programs : Programs) (hs : s.spec = some spec) (hc : s.current = some p) :
    (answer programs .close s).state =
        { s with current := none, finished := s.finished ++ [p] } ∧
      ((∃ text, (answer programs .close s).result = .ok text) ↔
        endFails programs s.finished.length p = false) := by
  have hfinish : answer programs .close s = finish programs s := by
    simp only [answer, ensureStarted_running hc]
  rw [hfinish]
  unfold finish endFails
  simp only [hs, hc]
  cases endOf programs s.finished.length p with
  | error cause => simp
  | ok o =>
    refine ⟨rfl, ?_⟩
    constructor
    · rintro ⟨text, h⟩
      simpa using verdict_eq_ok h
    · intro h
      have hexit : o.exit = 0 := by simpa using h
      exact ⟨_, if_pos hexit⟩

lemma closing_of_ok {text : String} (h : (answer programs .close s).result = .ok text) :
    (transport programs).closing s = (answer programs .close s).state := by
  unfold Transport.closing
  rw [transport_answer, h]

lemma closing_of_error {e : TransportError} (h : (answer programs .close s).result = .error e) :
    (transport programs).closing s =
      (answer programs .close (answer programs .close s).state).state := by
  unfold Transport.closing
  rw [transport_answer, h]
  rfl

/-- Closing starts a client if there is none, and then there is no other. -/
lemma clients_close_idle (hs : s.spec = some spec) (hc : s.current = none)
    (hstart : start programs spec s.auth = .ok p₀) :
    (answer programs .close s).state.clients = s.finished ++
      [(writeLines programs spec.host s.finished.length p₀ (loginLines spec s.auth)).2] := by
  cases hlogin : writeLines programs spec.host s.finished.length p₀ (loginLines spec s.auth) with
  | mk e p =>
    have hensure := ensureStarted_idle hs hc hstart hlogin
    cases e with
    | some e =>
      rw [answer_refused hensure (.inl rfl)]
      rfl
    | none =>
      rw [answer_started hensure rfl (.inl rfl), (close_running programs
        (s := { s with current := some p }) hs rfl).1]
      exact List.append_nil _

/-- Closing a client that runs until that succeeds starts another one if its end is a failure. -/
lemma clients_closing_running (hs : s.spec = some spec) (hc : s.current = some p)
    (hstart : start programs spec s.auth = .ok p₀) :
    ((transport programs).closing s).clients = s.finished ++ [p] ++
      if endFails programs s.finished.length p then
        [(writeLines programs spec.host (s.finished.length + 1) p₀ (loginLines spec s.auth)).2]
      else [] := by
  obtain ⟨hstate, hok⟩ := close_running programs hs hc
  cases hres : (answer programs .close s).result with
  | ok text =>
    rw [closing_of_ok hres, hstate, hok.mp ⟨text, hres⟩]
    rfl
  | error e =>
    have hfails : endFails programs s.finished.length p = true := by
      refine Bool.of_not_eq_false fun hno => ?_
      obtain ⟨text, htext⟩ := hok.mpr hno
      rw [hres] at htext
      cases htext
    have hnext := clients_close_idle
      (s := { s with current := none, finished := s.finished ++ [p] }) hs rfl hstart
    rw [closing_of_error hres, hstate, hfails, hnext]
    simp

/-- Closing a client until that succeeds, which is started for it. -/
lemma clients_closing_idle (hs : s.spec = some spec) (hc : s.current = none)
    (hstart : start programs spec s.auth = .ok p₀) {e : Option TransportError}
    (hw : writeLines programs spec.host s.finished.length p₀ (loginLines spec s.auth) = (e, p)) :
    ((transport programs).closing s).clients = s.finished ++ [p] ++
      if e.isNone && endFails programs s.finished.length p then
        [(writeLines programs spec.host (s.finished.length + 1) p₀ (loginLines spec s.auth)).2]
      else [] := by
  have hensure := ensureStarted_idle hs hc hstart hw
  cases e with
  | some e =>
    have hres := answer_refused hensure (.inl rfl)
    rw [closing_of_error (congrArg Reply.result hres), hres,
      (close_running programs (s := { s with current := some p }) hs rfl).1]
    rfl
  | none =>
    -- closing goes on as if the client had been running
    have hsame : (transport programs).closing s =
        (transport programs).closing { s with current := some p } := by
      have hanswer : (transport programs).answer .close s =
          (transport programs).answer .close { s with current := some p } :=
        answer_started hensure rfl (.inl rfl)
      unfold Transport.closing
      rw [hanswer]
    rw [hsame, clients_closing_running (s := { s with current := some p }) hs rfl hstart]
    rfl

lemma closing_refused {e : TransportError} (hs : s.spec = some spec) (hc : s.current = none)
    (hstart : start programs spec s.auth = .error e) :
    (answer programs .close s).state = s ∧ (transport programs).closing s = s := by
  have hres := answer_refused (ensureStarted_refused hs hc hstart) (.inl rfl)
  refine ⟨congrArg Reply.state hres, ?_⟩
  rw [closing_of_error (congrArg Reply.result hres), hres]
  exact congrArg Reply.state hres

/-! ### Whole sessions -/

section Run

variable (programs : Programs) (q : Sequence) (disk : Disk)

/-- The clients that a session of `q` starts: none if there is no such client; otherwise one, which
takes the login and the commands up to the first line that it refuses; and if it took all of them
but its end is a failure, another one that takes the login. -/
def clients : List Invocation :=
  match start programs q.connect q.authentication with
  | .error _ => []
  | .ok p₀ =>
    let login := loginLines q.connect q.authentication
    match writeLines programs q.connect.host 0 p₀ (login ++ q.commands.toOption.getD []) with
    | (e, p) => [p] ++
      if q.commands.toOption.isSome && e.isNone && endFails programs 0 p then
        [(writeLines programs q.connect.host 1 p₀ login).2]
      else []

/-- The state of a session that has connected and been told how to log in. -/
def ready : State := { spec := some q.connect, auth := q.authentication }

/-- What a script comes to: its failure, and the state it leaves. -/
def scriptEnd (s : State) : Option Failure × State :=
  match q.commands with
  | .error message => (some (.script message), s)
  | .ok commands =>
    ((executes (transport programs) commands s).1.map .transport,
      (executes (transport programs) commands s).2)

lemma take_runScript {p : Progress State} {s : State} (h : p.transport = some s) :
    (p.take (transport programs) (.runScript q.commands)).1 = (scriptEnd programs q s).1 ∧
      (p.take (transport programs) (.runScript q.commands)).2.transport =
        some (scriptEnd programs q s).2 := by
  unfold scriptEnd
  cases q.commands with
  | error message => exact ⟨rfl, h⟩
  | ok commands => exact send_transport h commands

/-- Between connecting and closing a session takes the login, and then the script. -/
lemma perform_middle {p : Progress State} (h : p.transport = some { spec := some q.connect }) :
    (perform (transport programs) (middle q) p).1 = (scriptEnd programs q (ready q)).1 ∧
      (perform (transport programs) (middle q) p).2.transport =
        some (scriptEnd programs q (ready q)).2 := by
  cases hq : q.authentication with
  | none =>
    have hready : ready q = { spec := some q.connect } := by unfold ready; rw [hq]
    have hmiddle : perform (transport programs) (middle q) p =
        p.take (transport programs) (.runScript q.commands) := by
      unfold middle
      rw [hq]
      exact perform_singleton _ _ _
    rw [hmiddle, hready]
    exact take_runScript programs q h
  | some auth =>
    have hready : ready q = { spec := some q.connect, auth := some auth } := by
      unfold ready
      rw [hq]
    have hauth : p.take (transport programs) (.authenticate auth) = (none,
        { p.noted ((transport programs).exchange { spec := some q.connect } (.authenticate auth))
          with transport := some (ready q) }) := by
      unfold Progress.take Progress.call
      rw [h, hready]
      rfl
    have hmiddle : perform (transport programs) (middle q) p =
        andThen (p.take (transport programs) (.authenticate auth))
          (·.take (transport programs) (.runScript q.commands)) := by
      unfold middle
      rw [hq]
      exact congrArg (andThen _) (funext fun _ => perform_singleton _ _ _)
    rw [hmiddle, hauth]
    exact take_runScript programs q rfl

/-- A session closes once after a failure, and until that succeeds if nothing failed. -/
lemma state_run_eq :
    (run (transport programs) q disk).state =
      if (scriptEnd programs q (ready q)).1.isSome then
        (answer programs .close (scriptEnd programs q (ready q)).2).state
      else (transport programs).closing (scriptEnd programs q (ready q)).2 := by
  have hconnect : (next (transport programs) [] (.connect q.connect)).reply.result = .ok "" := rfl
  obtain ⟨p, hp, hopen⟩ := connect_ok hconnect
  obtain ⟨hfailed, hleft⟩ := perform_middle programs q hopen.transport
  rw [state_run _ q disk hp hopen hleft, hfailed]
  rfl

lemma clients_eq {p₀ p : Invocation} {e : Option TransportError}
    (hstart : start programs q.connect q.authentication = .ok p₀)
    (hw : writeLines programs q.connect.host 0 p₀
      (loginLines q.connect q.authentication ++ q.commands.toOption.getD []) = (e, p)) :
    clients programs q = [p] ++
      if q.commands.toOption.isSome && e.isNone && endFails programs 0 p then
        [(writeLines programs q.connect.host 1 p₀
          (loginLines q.connect q.authentication)).2]
      else [] := by
  unfold clients
  rw [hstart]
  simp only [hw]

/-- **The clients that a session starts.** -/
theorem clients_run :
    (run (transport programs) q disk).state.clients = clients programs q := by
  rw [state_run_eq]
  cases hstart : start programs q.connect q.authentication with
  | error e =>
    -- no client can be started, so none is left behind
    have hrefused := closing_refused (s := ready q) rfl rfl hstart
    have hleft : (scriptEnd programs q (ready q)).2 = ready q := by
      unfold scriptEnd
      cases q.commands with
      | error message => rfl
      | ok commands => exact executes_refused (s := ready q) rfl rfl hstart commands
    have hnone : clients programs q = [] := by
      unfold clients
      rw [hstart]
    rw [hleft, hrefused.1, hrefused.2, ite_self, hnone]
    rfl
  | ok p₀ =>
    cases hw : writeLines programs q.connect.host 0 p₀
        (loginLines q.connect q.authentication ++ q.commands.toOption.getD []) with
    | mk e p =>
      rw [clients_eq programs q hstart hw]
      cases hq : q.commands with
      | error message =>
        -- a script without commands fails, and closing starts a client for the login alone
        have hend : scriptEnd programs q (ready q) = (some (.script message), ready q) := by
          unfold scriptEnd
          rw [hq]
        have hnil : (q.commands.toOption.getD [] : List String) = [] := by rw [hq]; rfl
        rw [hnil, List.append_nil] at hw
        rw [hend]
        exact (clients_close_idle (s := ready q) rfl rfl hstart).trans
          (congrArg (fun w : Option TransportError × Invocation => [w.2]) hw)
      | ok commands =>
        rw [hq] at hw
        have hend : scriptEnd programs q (ready q) =
            ((executes (transport programs) commands (ready q)).1.map .transport,
              (executes (transport programs) commands (ready q)).2) := by
          unfold scriptEnd
          rw [hq]
        rw [hend]
        cases commands with
        | nil =>
          -- an empty script starts none either, and closing does
          have hlogin : writeLines programs q.connect.host 0 p₀
              (loginLines q.connect q.authentication) = (e, p) := by
            rwa [← List.append_nil (loginLines q.connect q.authentication)]
          exact clients_closing_idle (s := ready q) rfl rfl hstart hlogin
        | cons c rest =>
          rw [executes_idle (s := ready q) rfl rfl hstart c rest hw]
          cases e with
          | some e =>
            -- the client refused a line, so the session has failed and is closed once
            exact congrArg State.clients (close_running programs
              (s := { ready q with current := some p }) rfl rfl).1
          | none =>
            -- nothing has failed, and the session is closed until that succeeds
            exact clients_closing_running (s := { ready q with current := some p }) rfl rfl hstart

/-! ### Logging in twice -/

/-- A session logs in twice: its client takes the login and all commands, but its end is a
failure. -/
def LogsInTwice : Prop :=
  ∃ commands p₀ p, q.commands = .ok commands ∧
    start programs q.connect q.authentication = .ok p₀ ∧
    writeLines programs q.connect.host 0 p₀
      (loginLines q.connect q.authentication ++ commands) = (none, p) ∧
    endFails programs 0 p = true

/-- **A session starts no more than one client, unless it logs in twice.** -/
theorem length_clients_le_one_iff :
    (run (transport programs) q disk).state.clients.length ≤ 1 ↔ ¬ LogsInTwice programs q := by
  rw [clients_run]
  cases hstart : start programs q.connect q.authentication with
  | error e =>
    have hnone : clients programs q = [] := by
      unfold clients
      rw [hstart]
    rw [hnone]
    refine iff_of_true (Nat.zero_le 1) fun ⟨_, p₀, _, _, hstart', _⟩ => ?_
    rw [hstart] at hstart'
    cases hstart'
  | ok p₀ =>
    cases hw : writeLines programs q.connect.host 0 p₀
        (loginLines q.connect q.authentication ++ q.commands.toOption.getD []) with
    | mk e p =>
      rw [clients_eq programs q hstart hw]
      -- a second client is started exactly in this case
      have htwice : LogsInTwice programs q ↔
          (q.commands.toOption.isSome && e.isNone && endFails programs 0 p) = true := by
        constructor
        · rintro ⟨commands, p₁, p', hq, hstart', hw', hfails⟩
          obtain rfl := Except.ok.inj (hstart.symm.trans hstart')
          have hsome : q.commands.toOption = some commands := by rw [hq]; rfl
          rw [hsome] at hw ⊢
          obtain ⟨rfl, rfl⟩ := Prod.mk.inj (hw.symm.trans hw')
          simpa using hfails
        · intro h
          simp only [Bool.and_eq_true, Option.isSome_iff_exists, Option.isNone_iff_eq_none] at h
          obtain ⟨⟨⟨commands, hsome⟩, rfl⟩, hfails⟩ := h
          have hq : q.commands = .ok commands := by
            cases hq : q.commands with
            | error message => rw [hq] at hsome; cases hsome
            | ok _ => rw [hq] at hsome; cases hsome; rfl
          rw [hsome] at hw
          exact ⟨commands, p₀, p, hq, hstart, hw, hfails⟩
      rw [htwice]
      split <;> simp_all

/-- A telnet client that ends with a failure after it has taken the login and a command. -/
theorem clients_of_failing_telnet :
    ¬ ∀ (programs : Programs) (q : Sequence) (disk : Disk),
      (run (transport programs) q disk).state.clients.length ≤ 1 := by
  intro h
  have hone := h (fun _ => .installed fun _ _ => { exit := 1 })
    { name := "r1"
      connect := { protocol := .telnet, host := "r1" }
      authentication := some (.password (some "ops") (some "secret") true)
      commands := .ok ["show version"] } {}
  rw [clients_run] at hone
  revert hone
  decide +kernel

end Run

end FleetScript.Client
