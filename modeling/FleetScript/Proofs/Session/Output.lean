import FleetScript.Proofs.Session.Logs
import FleetScript.Proofs.Session.Rehearsal

/-!
What a session with a client logs. The output of a client is taken when the session is closed, and
only if the client ends well. If it does not, the session closes once more, which starts another
client, and it is the output of that one which is logged, if that one ends well. So the log gets the
output of the client that had the commands if this one ends with status 0, and otherwise only by
chance: `output_eq_stdout_iff`.
-/

namespace FleetScript

open Text

/-! ### What closing gives -/

def Reply.text {σ : Type} (r : Reply σ) : String :=
  match r.result with
  | .ok text => text
  | .error _ => ""

/-- What closing gives, if it is done once more after a failure. -/
def Transport.closingText {σ : Type} (t : Transport σ) (s : σ) : String :=
  match (t.answer .close s).result with
  | .ok text => text
  | .error _ => (t.answer .close (t.answer .close s).state).text

namespace Session

section Run

variable {σ : Type} {t : Transport σ} {q : Sequence} {disk : Disk} {p : Progress σ} {s : σ}
  {xs : List (Exchange σ)}

lemma transcript_of_no_close (h : Call.close ∉ xs.map Exchange.call) : transcript xs = "" := by
  have hnone : xs.filterMap Exchange.output? = [] := by
    refine List.filterMap_eq_nil_iff.mpr fun x hx => ?_
    have hne : x.call ≠ .close := fun e => h (List.mem_map.mpr ⟨x, hx, e⟩)
    unfold Exchange.output?
    split
    · next hcall _ => exact absurd hcall hne
    · rfl
  unfold transcript
  rw [hnone]
  rfl

lemma output_middle {x : Exchange σ} (h : Open t p [x]) (hx : x.call ≠ .close) (q : Sequence) :
    (perform t (middle q) p).2.output = "" := by
  have hcalls : Call.close ∉
      (q.authentication.map Call.authenticate).toList ++ scriptCalls q.commands := by
    unfold scriptCalls
    cases q.authentication <;> cases q.commands <;> simp
  have hw := h.went_middle q
  generalize perform t (middle q) p = r at hw
  have hno {ys : List (Exchange σ)} (hys : ∀ c ∈ ys.map Exchange.call, c ∈
      (q.authentication.map Call.authenticate).toList ++ scriptCalls q.commands) :
      Call.close ∉ ([x] ++ ys).map Exchange.call := by
    rw [List.map_append, List.mem_append, not_or]
    exact ⟨fun hm => hx (List.mem_singleton.mp hm).symm, fun hm => hcalls (hys _ hm)⟩
  cases hw with
  | through ys hc _ hp => exact hp.output.trans (transcript_of_no_close (hno (by simp [hc])))
  | @broken p' ys y e hc _ _ hp =>
    refine hp.output.trans (transcript_of_no_close (hno fun c hm => hc.subset ?_))
    rwa [List.map_append] at hm

lemma call_of_transport (h : p.transport = some s) (c : Call) :
    p.call t c = ((t.answer c s).result,
      { p.noted (t.exchange s c) with transport := some (t.answer c s).state }) := by
  unfold Progress.call
  rw [h]
  rfl

lemma output_salvage (h : p.transport = some s) :
    (salvage t p).output = p.output ++ (t.answer .close s).text := by
  unfold salvage Reply.text
  rw [h, call_of_transport h]
  dsimp only
  cases (t.answer .close s).result with
  | error e => exact String.append_empty.symm
  | ok text => rfl

lemma take_close (h : p.transport = some s) :
    p.take t .close = match (t.answer .close s).result with
      | .error e => (some (.transport e),
          { p.noted (t.exchange s .close) with transport := some (t.answer .close s).state })
      | .ok text => (none,
          { p.noted (t.exchange s .close) with
            output := p.output ++ text, transport := none }) := by
  unfold Progress.take
  rw [call_of_transport h]
  cases (t.answer .close s).result <;> rfl

/-- What a session that has connected gives in the end: what closing gives, which is done once after
a failure, and once more if it is closing that fails. -/
theorem output_run {x : Exchange σ} (hp : ({} : Progress σ).connect t q.connect = (none, p))
    (h : Open t p [x]) (hx : x.call ≠ .close)
    (hs : (perform t (middle q) p).2.transport = some s) :
    (run t q disk).output =
      if (perform t (middle q) p).1.isSome then (t.answer .close s).text
      else t.closingText s := by
  have hnone := output_middle h hx q
  rw [output_run_eq_ended, perform_steps t q hp]
  generalize perform t (middle q) p = r at hs hnone
  obtain ⟨f, p'⟩ := r
  cases f with
  | some f =>
    show (salvage t p').output = _
    rw [output_salvage hs, hnone]
    exact String.empty_append
  | none =>
    show (ended t (p'.take t .close)).output = t.closingText s
    rw [take_close hs]
    unfold Transport.closingText
    cases (t.answer .close s).result with
    | error e =>
      have hagain := output_salvage (t := t) (s := (t.answer .close s).state)
        (p := { p'.noted (t.exchange s .close) with
          transport := some (t.answer .close s).state }) rfl
      refine hagain.trans ?_
      show p'.output ++ _ = _
      rw [hnone]
      exact String.empty_append
    | ok text =>
      show p'.output ++ text = text
      rw [hnone]
      exact String.empty_append

/-- A session that has connected succeeds if nothing fails up to closing, and closing neither. -/
theorem error_run_eq_none_iff (hp : ({} : Progress σ).connect t q.connect = (none, p))
    (hs : (perform t (middle q) p).2.transport = some s) :
    (run t q disk).report.error = none ↔
      (perform t (middle q) p).1 = none ∧ ∃ text, (t.answer .close s).result = .ok text := by
  have herror : (run t q disk).report.error =
      (perform t (steps q) {}).1.map Failure.message := rfl
  rw [herror, Option.map_eq_none_iff, perform_steps t q hp]
  generalize perform t (middle q) p = r at hs
  obtain ⟨f, p'⟩ := r
  cases f with
  | some f => simp [andThen]
  | none =>
    show (p'.take t .close).1 = none ↔ _
    rw [take_close hs]
    cases (t.answer .close s).result <;> simp

end Run

end Session

/-! ### Sessions with a client -/

namespace Client

open Session

variable {programs : Programs} {q : Sequence} {p₀ : Invocation} {out : Nat → Bytes → Output}
  {s : State}

/-- The client of a sequence is started as `p₀`, takes every line, and leaves an output in the end,
which may depend on its input and on the number of clients that the session had before. -/
structure Answers (programs : Programs) (q : Sequence) (p₀ : Invocation)
    (out : Nat → Bytes → Output) : Prop where
  starts : start programs q.connect q.authentication = .ok p₀
  takes (round : Nat) (before : Bytes) (line : String) :
    ((programs p₀.client).behaviour?.bind fun b => b.refuses round p₀.args before line) = none
  ends (round : Nat) (stdin : Bytes) :
    endOf programs round { p₀ with stdin } = .ok (out round stdin)

/-- A program that reads its input to the end answers with what it gives for it. -/
lemma answers_of_installed {give : List String → Bytes → Output}
    (hclient : programs p₀.client = .installed give)
    (hstarts : start programs q.connect q.authentication = .ok p₀) :
    Answers programs q p₀ fun _ stdin => give p₀.args stdin where
  starts := hstarts
  takes _ _ _ := by
    rw [hclient]
    rfl
  ends _ _ := by
    unfold endOf
    rw [hclient]
    rfl

/-- The output of the client that takes the login, and the commands if the script has them. -/
def clientOutput (q : Sequence) (out : Nat → Bytes → Output) : Output :=
  out 0 (inputOf q (q.commands.toOption.getD []))

/-- The text that a client gives if it ends well. -/
def Output.text (o : Output) : String := if o.exit = 0 then decodeLossy o.stdout else ""

/-- The text that closing once more gives: it starts another client, which takes the login, unless
the script has no commands, as then nothing is closed twice. -/
def rescued (q : Sequence) (out : Nat → Bytes → Output) : String :=
  if q.commands.toOption.isSome then (out 1 (inputOf q [])).text else ""

/-- Whether a session loses the output of its client: the client ends badly, and what closing once
more gives is another text. -/
def LosesOutput (q : Sequence) (out : Nat → Bytes → Output) : Prop :=
  (clientOutput q out).exit ≠ 0 ∧ rescued q out ≠ decodeLossy (clientOutput q out).stdout

lemma verdict_cases (host : String) (o : Output) :
    (o.exit = 0 ∧ verdict host o = .ok (decodeLossy o.stdout)) ∨
      (o.exit ≠ 0 ∧ ∃ e, verdict host o = .error e) := by
  unfold verdict
  by_cases h : o.exit = 0
  · exact .inl ⟨h, if_pos h⟩
  · refine .inr ⟨h, ?_⟩
    rw [if_neg h]
    dsimp only
    split
    · exact ⟨_, rfl⟩
    · exact ⟨_, rfl⟩

lemma Answers.close_running (h : Answers programs q p₀ out) (hs : s.spec = some q.connect)
    {stdin : Bytes} (hc : s.current = some { p₀ with stdin }) :
    (answer programs .close s).result =
        verdict q.connect.host (out s.finished.length stdin) ∧
      (answer programs .close s).state =
        { s with current := none, finished := s.finished ++ [{ p₀ with stdin }] } := by
  refine ⟨?_, (Client.close_running programs hs hc).1⟩
  have hfinish : answer programs .close s = finish programs s := by
    simp only [answer, ensureStarted_running hc]
  rw [hfinish]
  unfold finish
  simp only [hs, hc, h.ends]

/-- Closing without a client starts one, which takes the login. -/
lemma Answers.close_idle (h : Answers programs q p₀ out) (hs : s.spec = some q.connect)
    (ha : s.auth = q.authentication) (hc : s.current = none) :
    (answer programs .close s).result =
        verdict q.connect.host (out s.finished.length (inputOf q [])) ∧
      (answer programs .close s).state =
        { s with finished := s.finished ++ [{ p₀ with stdin := inputOf q [] }] } := by
  have hlogin : writeLines programs q.connect.host s.finished.length p₀
      (loginLines q.connect s.auth) = (none, { p₀ with stdin := inputOf q [] }) := by
    rw [ha, writeLines_of_takes (h.takes _), stdin_of_start h.starts, List.nil_append]
    unfold inputOf
    rw [List.append_nil]
    rfl
  have hstart : start programs q.connect s.auth = .ok p₀ := by rw [ha, h.starts]
  have hensure := ensureStarted_idle hs hc hstart hlogin
  have hclosed := h.close_running
    (s := { s with current := some { p₀ with stdin := inputOf q [] } }) hs rfl
  rw [answer_started hensure rfl (.inl rfl)]
  refine ⟨hclosed.1, hclosed.2.trans ?_⟩
  rw [← hc]

/-- A script has no commands and fails, or is empty, or its first command starts the client, which
takes them all. -/
lemma Answers.scriptEnd_eq (h : Answers programs q p₀ out) :
    scriptEnd programs q (ready q) =
      match q.commands with
      | .error message => (some (.script message), ready q)
      | .ok [] => (none, ready q)
      | .ok (c :: rest) =>
        (none, { ready q with current := some { p₀ with stdin := inputOf q (c :: rest) } }) := by
  unfold scriptEnd
  rcases q.commands with message | _ | ⟨c, rest⟩
  · rfl
  · rfl
  · have hlines : writeLines programs q.connect.host 0 p₀
        (loginLines q.connect q.authentication ++ c :: rest) =
          (none, { p₀ with stdin := inputOf q (c :: rest) }) := by
      rw [writeLines_of_takes (h.takes 0), stdin_of_start h.starts, List.nil_append]
      rfl
    have hall := executes_idle (s := ready q) rfl rfl h.starts c rest hlines
    simp only [hall]
    rfl

/-- Closing after the script ends the client, which has the login and the commands; it is started
for closing if there are none. -/
lemma Answers.close_scriptEnd (h : Answers programs q p₀ out) :
    (answer programs .close (scriptEnd programs q (ready q)).2).result =
        verdict q.connect.host (clientOutput q out) ∧
      (answer programs .close (scriptEnd programs q (ready q)).2).state =
        { ready q with
          finished := [{ p₀ with stdin := inputOf q (q.commands.toOption.getD []) }] } := by
  rw [h.scriptEnd_eq]
  unfold clientOutput
  rcases q.commands with message | _ | ⟨c, rest⟩
  · exact h.close_idle (s := ready q) rfl rfl rfl
  · exact h.close_idle (s := ready q) rfl rfl rfl
  · exact h.close_running
      (s := { ready q with current := some { p₀ with stdin := inputOf q (c :: rest) } }) rfl rfl

lemma Answers.isSome_fst_scriptEnd (h : Answers programs q p₀ out) :
    (scriptEnd programs q (ready q)).1.isSome = !q.commands.toOption.isSome := by
  rw [h.scriptEnd_eq]
  rcases q.commands with message | _ | ⟨c, rest⟩ <;> rfl

lemma text_eq_of_verdict {r : Reply State} {host : String} {o : Output}
    (h : r.result = verdict host o) : r.text = o.text := by
  unfold Reply.text Output.text
  rw [h]
  rcases verdict_cases host o with ⟨hexit, hv⟩ | ⟨hexit, e, hv⟩
  · rw [hv, if_pos hexit]
  · rw [hv, if_neg hexit]

/-- Closing a session after its script gives the output of its client, or of one that is started for
closing once more. -/
lemma Answers.closingText (h : Answers programs q p₀ out) :
    (transport programs).closingText (scriptEnd programs q (ready q)).2 =
      if (clientOutput q out).exit = 0 then decodeLossy (clientOutput q out).stdout
      else (out 1 (inputOf q [])).text := by
  obtain ⟨hresult, hstate⟩ := h.close_scriptEnd
  unfold Transport.closingText
  rw [transport_answer, hresult]
  rcases verdict_cases q.connect.host (clientOutput q out) with ⟨hexit, hv⟩ | ⟨hexit, e, hv⟩
  · rw [hv, if_pos hexit]
  · rw [hv, if_neg hexit]
    show (answer programs .close _).text = _
    rw [hstate]
    exact text_eq_of_verdict (h.close_idle (s := { ready q with finished := _ }) rfl rfl rfl).1

/-- The output of a session is that of its client if it ends well, and else what closing once more
gives. -/
theorem Answers.output_run (h : Answers programs q p₀ out) (disk : Disk) :
    (run (transport programs) q disk).output =
      if (clientOutput q out).exit = 0 then decodeLossy (clientOutput q out).stdout
      else rescued q out := by
  have hconnect : (next (transport programs) [] (.connect q.connect)).reply.result = .ok "" := rfl
  obtain ⟨p, hp, hopen⟩ := connect_ok hconnect
  obtain ⟨hfailed, hleft⟩ := perform_middle programs q hopen.transport
  rw [Session.output_run hp hopen nofun hleft, hfailed, h.isSome_fst_scriptEnd]
  unfold rescued
  cases q.commands.toOption.isSome with
  | true => exact h.closingText
  | false => exact text_eq_of_verdict h.close_scriptEnd.1

/-- A session succeeds if its script has commands and its client ends well. -/
theorem Answers.error_run_eq_none_iff (h : Answers programs q p₀ out) (disk : Disk) :
    (run (transport programs) q disk).report.error = none ↔
      q.commands.toOption.isSome ∧ (clientOutput q out).exit = 0 := by
  have hconnect : (next (transport programs) [] (.connect q.connect)).reply.result = .ok "" := rfl
  obtain ⟨p, hp, hopen⟩ := connect_ok hconnect
  obtain ⟨hfailed, hleft⟩ := perform_middle programs q hopen.transport
  rw [Session.error_run_eq_none_iff hp hleft, hfailed, ← Option.isNone_iff_eq_none,
    ← Option.not_isSome, h.isSome_fst_scriptEnd, Bool.not_not, transport_answer,
    h.close_scriptEnd.1]
  rcases verdict_cases q.connect.host (clientOutput q out) with ⟨hexit, hv⟩ | ⟨hexit, e, hv⟩
  · simp [hv, hexit]
  · simp [hv, hexit]

/-- **When a session logs the output of its client.** The log gets the output of the session, which
is that of the client exactly if the session does not lose it. -/
theorem output_eq_stdout_iff {l : LogFiles} {disk : Disk} {place : String}
    (h : Answers programs q p₀ out) (hq : q.log = some l)
    (hplace : disk.target? l.output = some place) :
    ((run (transport programs) q disk).output = decodeLossy (clientOutput q out).stdout ↔
      ¬ LosesOutput q out) ∧
    ((run (transport programs) q disk).report.error = none ↔
      q.commands.toOption.isSome ∧ (clientOutput q out).exit = 0) ∧
    (((run (transport programs) q disk).report.error.isSome →
        disk.target? l.errors ≠ some place) →
      (run (transport programs) q disk).disk.node? place =
        if (run (transport programs) q disk).report.error.isSome ∧
          (run (transport programs) q disk).output = "" then disk.node? place
        else Disk.stored l.mode (disk.node? place) (run (transport programs) q disk).output) := by
  refine ⟨?_, h.error_run_eq_none_iff disk, fun hother => ?_⟩
  · rw [h.output_run]
    unfold LosesOutput
    by_cases hexit : (clientOutput q out).exit = 0
    · simp [hexit]
    · simp [hexit]
  · by_cases hfails : (run (transport programs) q disk).report.error.isSome
    · exact node?_run_output hq hplace (hother hfails)
    · have hnone : (run (transport programs) q disk).report.error = none := by simpa using hfails
      rw [if_neg fun hboth => hfails hboth.1]
      exact node?_run_of_success hq hplace hnone

/-- A telnet client that ends with status 1 after its output, and ends well when it is started once
more. -/
theorem output_eq_stdout_iff_rescued :
    let out : Nat → Bytes → Output := fun round _ =>
      if round = 0 then { stdout := toBytes "up 3 days\n", exit := 1 }
      else { stdout := toBytes "login:" }
    let programs : Programs := fun _ =>
      .behaving
        { refuses := fun _ _ _ _ => none, ends := fun round _ stdin => .ok (out round stdin) }
    let q : Sequence :=
      { name := "r1"
        connect := { protocol := .telnet, host := "r1" }
        authentication := some (.password (some "ops") none true)
        commands := .ok ["show version"]
        log := some (LogFiles.inFolder "logs" "r1" true) }
    let disk := ({} : Disk).withFolder "logs"
    ((run (transport programs) q disk).output = decodeLossy (clientOutput q out).stdout ↔
        ¬ LosesOutput q out) ∧
      LosesOutput q out ∧
      (run (transport programs) q disk).disk.node? "logs/r1.log" =
        some (.file (toBytes "login:")) := by
  intro out programs q disk
  have hanswers : Answers programs q { client := "telnet", args := ["r1"], stdin := [] } out :=
    { starts := by decide +kernel
      takes := fun _ _ _ => rfl
      ends := fun _ _ => rfl }
  have hplace : disk.target? (LogFiles.inFolder "logs" "r1" true).output = some "logs/r1.log" := by
    decide +kernel
  obtain ⟨hiff, -, hlog⟩ := output_eq_stdout_iff hanswers rfl hplace
  refine ⟨hiff, ⟨by decide +kernel, by decide +kernel⟩, (hlog fun _ => by decide +kernel).trans ?_⟩
  decide +kernel

/-- A telnet client that ends with status 1 after its output, each time it is started. -/
theorem stdout_lost_by_failing_telnet :
    ¬ ∀ (programs : Programs) (q : Sequence) (l : LogFiles) (disk : Disk) (place : String)
      (p₀ : Invocation) (out : Nat → Bytes → Output), Answers programs q p₀ out →
        q.log = some l → disk.target? l.output = some place → disk.target? l.errors ≠ some place →
          (run (transport programs) q disk).disk.node? place =
            Disk.stored l.mode (disk.node? place) (decodeLossy (clientOutput q out).stdout) := by
  intro h
  have hstdout := h
    (fun _ => .installed fun _ _ => { stdout := toBytes "up 3 days\n", exit := 1 })
    { name := "r1"
      connect := { protocol := .telnet, host := "r1" }
      authentication := none
      commands := .ok ["show uptime"]
      log := some (LogFiles.inFolder "logs" "r1" false) }
    (LogFiles.inFolder "logs" "r1" false) (({} : Disk).withFolder "logs") "logs/r1.log"
    { client := "telnet", args := ["r1"], stdin := [] } _
    (answers_of_installed rfl (by decide +kernel)) rfl (by decide +kernel) (by decide +kernel)
  revert hstdout
  decide +kernel

end Client

end FleetScript
