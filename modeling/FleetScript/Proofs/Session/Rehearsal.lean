import FleetScript.Proofs.Session.Clients
import FleetScript.Proofs.Session.DryRun

/-!
What a dry run says of a session with a client. If the client reads all of its input and ends well,
then no call of the session fails, so both make the same calls: they report the same, and the client
is sent its login and then the commands that the dry run writes down. The client is started by the
first command, or by closing if there is none; the login is sent at that time, and once.
-/

namespace FleetScript.Client

open Session Text

variable {programs : Programs} {spec : ConnectSpec} {s : State} {p p₀ p' : Invocation}
  {q : Sequence} {commands : List String}

/-! ### Clients that read all of their input -/

/-- The client of a sequence is started as `p₀`, takes every line, and once its input is `stdin`
ends with status 0. -/
structure ReadsAll (programs : Programs) (q : Sequence) (p₀ : Invocation) (stdin : Bytes) :
    Prop where
  starts : start programs q.connect q.authentication = .ok p₀
  takes (before : Bytes) (line : String) :
    ((programs p₀.client).behaviour?.bind fun b => b.refuses 0 p₀.args before line) = none
  ends : endFails programs 0 { p₀ with stdin } = false

lemma stdin_of_start {auth : Option Authentication} (h : start programs spec auth = .ok p₀) :
    p₀.stdin = [] := by
  unfold start at h
  dsimp only at h
  split at h
  · cases h
  · split at h
    · cases h
    · cases h
    · cases h
      rfl
    · cases h
      rfl

/-- A client that takes every line gets them all, each ended by one newline. -/
lemma writeLines_of_takes {host : String} {round : Nat}
    (htakes : ∀ before line,
      ((programs p.client).behaviour?.bind fun b => b.refuses round p.args before line) = none)
    (lines : List String) :
    writeLines programs host round p lines =
      (none, { p with stdin := p.stdin ++ lines.flatMap inputLine }) := by
  induction lines generalizing p with
  | nil => simp [writeLines]
  | cons line lines ih =>
    have hline : writeLine programs host round p line =
        .ok { p with stdin := p.stdin ++ inputLine line } := by
      unfold writeLine
      rw [htakes]
    have hrest : writeLines programs host round p (line :: lines) =
        writeLines programs host round { p with stdin := p.stdin ++ inputLine line } lines := by
      rw [writeLines, hline]
    rw [hrest, ih (p := { p with stdin := p.stdin ++ inputLine line }) htakes, List.flatMap_cons,
      ← List.append_assoc]

/-! ### The calls of a session with such a client -/

/-- A client that runs, takes the commands and ends well lets all calls succeed. -/
lemma succeeds_running (hs : s.spec = some spec) (hc : s.current = some p)
    (hw : writeLines programs spec.host s.finished.length p commands = (none, p'))
    (hend : endFails programs s.finished.length p' = false) :
    ∀ x ∈ (transport programs).replay s (commands.map .execute ++ [.close]), x.Succeeds := by
  induction commands generalizing s p with
  | nil =>
    obtain ⟨-, rfl⟩ := Prod.mk.inj hw
    intro x hx
    obtain rfl := List.mem_singleton.mp hx
    exact (close_running programs hs hc).2.mpr hend
  | cons c rest ih =>
    have hanswer := execute_running programs hs hc c
    unfold writeLines at hw
    cases hline : writeLine programs spec.host s.finished.length p c with
    | error e =>
      rw [hline] at hw
      cases (Prod.mk.inj hw).1
    | ok p₁ =>
      rw [hline] at hw hanswer
      refine List.forall_mem_cons.mpr ⟨⟨"", congrArg Reply.result hanswer⟩, ?_⟩
      rw [transport_answer, hanswer]
      exact ih hs rfl hw hend

/-- The first command, or closing, starts a client, and from then on it is as if that had been
running. -/
lemma replay_started {s' : State} (h : ensureStarted programs s = (none, s'))
    (hc : s'.current = some p) (commands : List String) :
    (transport programs).replay s (commands.map .execute ++ [.close]) =
      (transport programs).replay s' (commands.map .execute ++ [.close]) := by
  have hfirst : ∀ (c : Call) (rest : List Call), (c = .close ∨ ∃ command, c = .execute command) →
      (transport programs).replay s (c :: rest) = (transport programs).replay s' (c :: rest) := by
    intro c rest hcall
    have hanswer := answer_started h hc hcall
    unfold Transport.replay Transport.exchange
    rw [transport_answer, transport_answer, hanswer]
  cases commands with
  | nil => exact hfirst .close [] (.inl rfl)
  | cons c rest => exact hfirst (.execute c) _ (.inr ⟨c, rfl⟩)

/-- Nothing is asked of a client before the script. -/
lemma succeeds_opening (programs : Programs) (q : Sequence) :
    (∀ x ∈ (transport programs).replay {} (opening q), x.Succeeds) ∧
      (transport programs).after {} (opening q) = ready q := by
  unfold opening ready
  cases q.authentication with
  | none =>
    refine ⟨fun x hx => ?_, rfl⟩
    obtain rfl := List.mem_singleton.mp hx
    exact ⟨"", rfl⟩
  | some auth =>
    refine ⟨List.forall_mem_cons.mpr ⟨⟨"", rfl⟩, fun x hx => ?_⟩, rfl⟩
    obtain rfl := List.mem_singleton.mp hx
    exact ⟨"", rfl⟩

/-- What a session sends to its client. -/
def inputOf (q : Sequence) (commands : List String) : Bytes :=
  (loginLines q.connect q.authentication ++ commands).flatMap fun line => toBytes line ++ [0x0A]

lemma ReadsAll.written (h : ReadsAll programs q p₀ (inputOf q commands)) :
    writeLines programs q.connect.host 0 p₀
        (loginLines q.connect q.authentication ++ commands) =
      (none, { p₀ with stdin := inputOf q commands }) := by
  rw [writeLines_of_takes h.takes, stdin_of_start h.starts, List.nil_append]
  rfl

lemma ReadsAll.succeeds (h : ReadsAll programs q p₀ (inputOf q commands))
    (hq : q.commands = .ok commands) :
    ∀ x ∈ (transport programs).replay {} (calls q), x.Succeeds := by
  obtain ⟨hopening, hready⟩ := succeeds_opening programs q
  rw [calls_eq hq, List.append_assoc, Transport.replay_append, hready]
  refine List.forall_mem_append.mpr ⟨hopening, ?_⟩
  cases hlogin : writeLines programs q.connect.host 0 p₀
      (loginLines q.connect q.authentication) with
  | mk e p =>
    have hall := h.written
    rw [writeLines_append, hlogin] at hall
    cases e with
    | some e => cases (Prod.mk.inj hall).1
    | none =>
      have hensure := ensureStarted_idle (s := ready q) rfl rfl h.starts hlogin
      rw [replay_started hensure rfl commands]
      exact succeeds_running (s := { ready q with current := some p }) rfl rfl hall h.ends

lemma ReadsAll.clients (h : ReadsAll programs q p₀ (inputOf q commands))
    (hq : q.commands = .ok commands) :
    Client.clients programs q = [{ p₀ with stdin := inputOf q commands }] := by
  have hall := h.written
  have hcommands : q.commands.toOption.getD [] = commands := by rw [hq]; rfl
  rw [← hcommands] at hall
  rw [clients_eq programs q h.starts hall, hcommands, h.ends]
  simp

/-! ### Both sessions -/

/-- The lines that log in: a user and a password, if given, for telnet; and none otherwise. -/
lemma loginLines_eq (spec : ConnectSpec) (auth : Option Authentication) :
    (∀ user password wait, spec.protocol = .telnet → auth = some (.password user password wait) →
        loginLines spec auth = user.toList ++ password.toList) ∧
      ((spec.protocol ≠ .telnet ∨
          ∀ user password wait, auth ≠ some (.password user password wait)) →
        loginLines spec auth = []) := by
  refine ⟨?_, ?_⟩
  · intro user password wait hprotocol hauth
    unfold loginLines
    rw [hprotocol, hauth]
  · intro hno
    unfold loginLines
    split
    · rename_i hprotocol
      rcases hno with hno | hno
      · exact absurd hprotocol hno
      · exact absurd rfl (hno _ _ _)
    · rfl

lemma linesOf_eq (hq : q.commands = .ok commands) :
    DryRun.linesOf q = DryRun.connectLine q.connect ::
      (q.authentication.map DryRun.authenticateLine).toList ++ commands.map ("> " ++ ·) ++
        ["close"] := by
  unfold DryRun.linesOf
  rw [calls_eq hq]
  unfold opening
  cases q.authentication <;> simp [DryRun.lineOf]

/-- **A dry run says what a session with a client does.** If the client reads all of its input and
ends well, both report that all commands were sent; the one client that is started gets the login
and then exactly the commands that the dry run writes down, each as one line. -/
theorem rehearsal_agrees (hq : q.commands = .ok commands)
    (h : ReadsAll programs q p₀ (inputOf q commands)) (disk disk' : Disk) :
    (run (transport programs) q disk).report =
        { host := q.name, commands := commands.length, error := none } ∧
      (run DryRun.transport q disk').report = (run (transport programs) q disk).report ∧
      (∃ login : List String,
        (run (transport programs) q disk).state.clients =
            [{ p₀ with
              stdin := (login ++ commands).flatMap fun line => toBytes line ++ [0x0A] }] ∧
          (∀ user password wait, q.connect.protocol = .telnet →
            q.authentication = some (.password user password wait) →
              login = user.toList ++ password.toList) ∧
          ((q.connect.protocol ≠ .telnet ∨
            ∀ user password wait, q.authentication ≠ some (.password user password wait)) →
              login = [])) ∧
      (run DryRun.transport q disk').state.lines =
        DryRun.connectLine q.connect :: (q.authentication.map DryRun.authenticateLine).toList ++
          commands.map ("> " ++ ·) ++ ["close"] := by
  have hreport := report_of_succeeds disk hq (h.succeeds hq)
  obtain ⟨hdry, hlines, -⟩ := DryRun.run_eq hq disk'
  have hclients : (run (transport programs) q disk).state.clients =
      [{ p₀ with stdin := inputOf q commands }] := by
    rw [clients_run, h.clients hq]
  refine ⟨hreport, ?_, ⟨loginLines q.connect q.authentication, hclients, ?_⟩, ?_⟩
  · rw [hdry, hreport]
  · exact loginLines_eq q.connect q.authentication
  · rw [hlines, linesOf_eq hq]

/-- A telnet client is sent the lines `ops`, `secret`, `show run` and `exit`. -/
theorem rehearsal_agrees_telnet :
    let q : Sequence :=
      { name := "r1"
        connect := { protocol := .telnet, host := "r1", port := some 2323 }
        authentication := some (.password (some "ops") (some "secret") true)
        commands := .ok ["show run", "exit"] }
    (run (transport fun _ => .installed fun _ _ => {}) q {}).report =
        { host := "r1", commands := 2, error := none } ∧
      (run DryRun.transport q {}).report =
        (run (transport fun _ => .installed fun _ _ => {}) q {}).report ∧
      (run DryRun.transport q {}).state.lines =
        ["connect telnet://r1:2323", "authenticate ops with password", "> show run", "> exit",
          "close"] ∧
      (run (transport fun _ => .installed fun _ _ => {}) q {}).state.clients =
        [{ client := "telnet", args := ["r1", "2323"]
           stdin := [0x6F, 0x70, 0x73, 0x0A, 0x73, 0x65, 0x63, 0x72, 0x65, 0x74, 0x0A,
             0x73, 0x68, 0x6F, 0x77, 0x20, 0x72, 0x75, 0x6E, 0x0A, 0x65, 0x78, 0x69, 0x74,
             0x0A] }] := by
  intro q
  have hreads : ReadsAll (fun _ => .installed fun _ _ => {}) q
      { client := "telnet", args := ["r1", "2323"], stdin := [] }
      (inputOf q ["show run", "exit"]) :=
    { starts := by decide +kernel
      takes := fun _ _ => rfl
      ends := rfl }
  have hq : q.commands = .ok ["show run", "exit"] := rfl
  obtain ⟨hreport, hsame, ⟨login, hclients, hlogin, -⟩, hlines⟩ :=
    rehearsal_agrees hq hreads {} {}
  obtain rfl : login = ["ops", "secret"] := hlogin _ _ _ rfl rfl
  refine ⟨hreport, hsame, hlines, hclients.trans ?_⟩
  decide +kernel

end FleetScript.Client
