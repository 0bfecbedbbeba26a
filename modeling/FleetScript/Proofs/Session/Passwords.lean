import FleetScript.Proofs.Session.Clients
import FleetScript.Proofs.Session.Pairs
import FleetScript.Session.DryRun

/-!
Sessions with two passwords. A dry run does not show a password, and ssh is not given one, so two
sequences that differ in a given password alone come to the same. Over telnet the password is a line
of the client's input and nothing else, so the same holds there of clients that do not look at their
input (`Client.IgnoresInput`).
-/

namespace FleetScript

/-! ### Logins -/

/-- Ways to log in that differ in a given password at most. -/
inductive Authentication.AlikeButPassword : Authentication → Authentication → Prop where
  | refl (a : Authentication) : AlikeButPassword a a
  | password (user : Option String) (p q : String) (wait : Bool) :
    AlikeButPassword (.password user (some p) wait) (.password user (some q) wait)

/-- Calls that differ in the password of a login at most; they connect as `S` allows. -/
inductive Call.AlikeButPassword (S : ConnectSpec → Prop) : Call → Call → Prop where
  | connect {spec : ConnectSpec} (h : S spec) : AlikeButPassword S (.connect spec) (.connect spec)
  | authenticate {a b : Authentication} (h : a.AlikeButPassword b) :
    AlikeButPassword S (.authenticate a) (.authenticate b)
  | execute (command : String) : AlikeButPassword S (.execute command) (.execute command)
  | close : AlikeButPassword S .close .close

/-- Sequences that differ in a given password of their login at most. -/
structure Sequence.AlikeButPassword (a b : Sequence) : Prop where
  name : a.name = b.name
  connect : a.connect = b.connect
  authentication : Option.Rel Authentication.AlikeButPassword a.authentication b.authentication
  commands : a.commands = b.commands
  log : a.log = b.log

lemma Sequence.AlikeButPassword.steps {a b : Sequence} (h : a.AlikeButPassword b)
    {S : ConnectSpec → Prop} (hS : S a.connect) :
    List.Forall₂ (Session.Step.Alike (Call.AlikeButPassword S)) (Session.steps a)
      (Session.steps b) := by
  have hauth := h.authentication
  have hlast : List.Forall₂ (Session.Step.Alike (Call.AlikeButPassword S))
      [.runScript a.commands, .close] [.runScript a.commands, .close] :=
    .cons (.runScript .execute) (.cons (.close .close) .nil)
  unfold Session.steps
  rw [← h.connect, ← h.commands]
  generalize a.authentication = x at hauth ⊢
  generalize b.authentication = y at hauth ⊢
  cases hauth with
  | none => exact .cons (.connect (.connect hS)) hlast
  | some hlogin =>
    exact .cons (.connect (.connect hS)) (.cons (.authenticate (.authenticate hlogin)) hlast)

/-! ### Dry runs -/

namespace DryRun

lemma lineOf_alike {S : ConnectSpec → Prop} {c d : Call} (h : c.AlikeButPassword S d) :
    lineOf c = lineOf d := by
  cases h with
  | authenticate hlogin => cases hlogin <;> rfl
  | _ => rfl

lemma respects_password (S : ConnectSpec → Prop) :
    transport.Respects Eq (Call.AlikeButPassword S) where
  opened := rfl
  answer {c d s v} hc hs := by
    subst hs
    have hline := lineOf_alike hc
    have hclose : c = .close ↔ d = .close := by cases hc <;> simp
    have hecho : echoAfter s c = echoAfter s d := by cases hc <;> rfl
    have hanswer : answer c s = answer d s := by
      unfold answer
      simp only [hline, hclose, hecho]
    show (answer c s).Alike Eq (answer d s)
    rw [hanswer]
    exact ⟨rfl, rfl, rfl⟩

lemma run_alike_of_password {a b : Sequence} (h : a.AlikeButPassword b) (disk : Disk) :
    (Session.run transport a disk).Alike Eq (Session.run transport b disk) :=
  Session.run_alike (respects_password fun _ => True) h.name h.log (h.steps trivial) .close disk

end DryRun

/-! ### Clients -/

namespace Client

open Session

/-- Why a client does not take a line, if it does not. -/
def refusal (programs : Programs) (round : Nat) (p : Invocation) (line : String) :
    Option IoError :=
  (programs p.client).behaviour?.bind fun b => b.refuses round p.args p.stdin line

/-- Clients of which those that belong together by `E` are told apart by nothing that they do, also
when they are sent lines that belong together by `L`. -/
structure Overlooks (programs : Programs) (E : Invocation → Invocation → Prop)
    (L : String → String → Prop) : Prop where
  invocation (p : Invocation) : E p p
  line (l : String) : L l l
  refusal {p p' : Invocation} {l l' : String} (hp : E p p') (hl : L l l') (round : Nat) :
    refusal programs round p l = refusal programs round p' l'
  taken {p p' : Invocation} {l l' : String} (hp : E p p') (hl : L l l') :
    E { p with stdin := p.stdin ++ inputLine l } { p' with stdin := p'.stdin ++ inputLine l' }
  ends {p p' : Invocation} (hp : E p p') (round : Nat) :
    endOf programs round p = endOf programs round p'

/-- Whether clients do the same whatever they read. -/
def IgnoresInput (programs : Programs) : Prop :=
  ∀ name b, (programs name).behaviour? = some b → ∀ round args stdin stdin' line line',
    b.refuses round args stdin line = b.refuses round args stdin' line' ∧
      b.ends round args stdin = b.ends round args stdin'

/-- Clients that were started alike, whatever they have read since. -/
def StartedAlike (p p' : Invocation) : Prop := p.client = p'.client ∧ p.args = p'.args

lemma overlooks_nothing (programs : Programs) : Overlooks programs Eq Eq where
  invocation _ := rfl
  line _ := rfl
  refusal hp hl _ := by rw [hp, hl]
  taken hp hl := by rw [hp, hl]
  ends hp _ := by rw [hp]

lemma IgnoresInput.overlooks {programs : Programs} (h : IgnoresInput programs) :
    Overlooks programs StartedAlike fun _ _ => True where
  invocation _ := ⟨rfl, rfl⟩
  line _ := trivial
  refusal {p p' l l'} hp _ round := by
    unfold refusal
    rw [hp.1, hp.2]
    cases hb : (programs p'.client).behaviour? with
    | none => rfl
    | some b => exact (h _ b hb round p'.args p.stdin p'.stdin l l').1
  taken hp _ := hp
  ends {p p'} hp round := by
    unfold endOf
    rw [hp.1, hp.2]
    cases hb : (programs p'.client).behaviour? with
    | none => rfl
    | some b => exact (h _ b hb round p'.args p.stdin p'.stdin "" "").2

/-- Whether the lines of logins that differ in a password at most belong together by `L`. -/
def Logins (L : String → String → Prop) (spec : ConnectSpec) : Prop :=
  ∀ a b, Option.Rel Authentication.AlikeButPassword a b →
    List.Forall₂ L (loginLines spec a) (loginLines spec b)

lemma logins_of_not_telnet {spec : ConnectSpec} (h : spec.protocol ≠ .telnet) :
    Logins Eq spec := by
  intro a b _
  have hnone (auth : Option Authentication) : loginLines spec auth = [] := by
    unfold loginLines
    split
    · next htelnet => exact absurd htelnet h
    · rfl
  rw [hnone, hnone]
  exact .nil

lemma logins_anything (spec : ConnectSpec) : Logins (fun _ _ => True) spec := by
  rintro _ _ (⟨hlogin⟩ | _)
  · cases hlogin with
    | refl a => exact List.forall₂_same.mpr fun _ _ => trivial
    | password user p q wait =>
      unfold loginLines
      cases spec.protocol with
      | telnet =>
        exact List.rel_append (List.forall₂_same.mpr fun _ _ => trivial) (.cons trivial .nil)
      | ssh version => exact .nil
  · exact List.forall₂_same.mpr fun _ _ => trivial

/-- States of sessions that differ in the password and in what it made of the clients' input. -/
structure State.Alike (E : Invocation → Invocation → Prop) (L : String → String → Prop)
    (s v : State) : Prop where
  spec : s.spec = v.spec
  logins : ∀ spec ∈ s.spec, Logins L spec
  auth : Option.Rel Authentication.AlikeButPassword s.auth v.auth
  current : Option.Rel E s.current v.current
  finished : List.Forall₂ E s.finished v.finished

/-! ### Clients that are started alike -/

lemma arguments_alike (spec : ConnectSpec) {a b : Option Authentication}
    (h : Option.Rel Authentication.AlikeButPassword a b) : arguments spec a = arguments spec b := by
  rcases h with ⟨hlogin⟩ | _
  · cases hlogin <;> rfl
  · rfl

lemma start_alike (programs : Programs) (spec : ConnectSpec) {a b : Option Authentication}
    (h : Option.Rel Authentication.AlikeButPassword a b) :
    start programs spec a = start programs spec b := by
  unfold start
  rw [arguments_alike spec h]

section Alike

variable {programs : Programs} {E : Invocation → Invocation → Prop} {L : String → String → Prop}
  {s v : State}

lemma writeLine_alike (ho : Overlooks programs E L) (host : String) (round : Nat)
    {p p' : Invocation} {l l' : String} (hp : E p p') (hl : L l l') :
    (∃ e, writeLine programs host round p l = .error e ∧
        writeLine programs host round p' l' = .error e) ∨
      ∃ r r', writeLine programs host round p l = .ok r ∧
        writeLine programs host round p' l' = .ok r' ∧ E r r' := by
  have hrefusal := ho.refusal hp hl round
  unfold refusal at hrefusal
  unfold writeLine
  rw [← hrefusal]
  split
  · exact .inl ⟨_, rfl, rfl⟩
  · exact .inr ⟨_, _, rfl, rfl, ho.taken hp hl⟩

lemma writeLines_alike (ho : Overlooks programs E L) (host : String) (round : Nat)
    {p p' : Invocation} {ls ls' : List String} (hp : E p p') (hls : List.Forall₂ L ls ls') :
    (writeLines programs host round p ls).1 = (writeLines programs host round p' ls').1 ∧
      E (writeLines programs host round p ls).2 (writeLines programs host round p' ls').2 := by
  induction hls generalizing p p' with
  | nil => exact ⟨rfl, hp⟩
  | cons hl _ ih =>
    unfold writeLines
    rcases writeLine_alike ho host round hp hl with ⟨e, h, h'⟩ | ⟨r, r', h, h', hr⟩
    · rw [h, h']
      exact ⟨rfl, hp⟩
    · rw [h, h']
      exact ih hr

lemma State.Alike.withCurrent (h : s.Alike E L v) {a b : Option Invocation}
    (hab : Option.Rel E a b) :
    ({ s with current := a } : State).Alike E L { v with current := b } :=
  ⟨h.spec, h.logins, h.auth, hab, h.finished⟩

lemma ensureStarted_alike (ho : Overlooks programs E L) (h : s.Alike E L v) :
    (ensureStarted programs s).1 = (ensureStarted programs v).1 ∧
      (ensureStarted programs s).2.Alike E L (ensureStarted programs v).2 := by
  have hcurrent := h.current
  generalize hs : s.current = x at hcurrent
  generalize hv : v.current = y at hcurrent
  cases hcurrent with
  | some _ =>
    -- a client runs in both, or in none
    rw [ensureStarted_running hs, ensureStarted_running hv]
    exact ⟨rfl, h⟩
  | none =>
    cases hspec : s.spec with
    | none =>
      simp only [ensureStarted, hs, hv, hspec, ← h.spec]
      exact ⟨trivial, h⟩
    | some spec =>
      have hspec' : v.spec = some spec := h.spec ▸ hspec
      have hstart := start_alike programs spec h.auth
      cases hp : start programs spec s.auth with
      | error e =>
        -- starting looks at no password, so it fails in both or in none
        rw [ensureStarted_refused hspec hs hp, ensureStarted_refused hspec' hv (hstart ▸ hp)]
        exact ⟨rfl, h⟩
      | ok p =>
        have hlogin := h.logins spec hspec _ _ h.auth
        have hwrite := writeLines_alike ho spec.host s.finished.length (ho.invocation p) hlogin
        rw [ensureStarted_idle hspec hs hp rfl,
          ensureStarted_idle hspec' hv (hstart ▸ hp) rfl, ← h.finished.length_eq]
        exact ⟨hwrite.1, h.withCurrent (.some hwrite.2)⟩

lemma send_alike (ho : Overlooks programs E L) (h : s.Alike E L v) (command : String) :
    (send programs command s).1 = (send programs command v).1 ∧
      (send programs command s).2.Alike E L (send programs command v).2 := by
  obtain ⟨spec, auth, current, finished⟩ := s
  obtain ⟨_, auth', current', finished'⟩ := v
  obtain ⟨rfl, hlogins, hauth, hcurrent, hfinished⟩ := h
  rcases spec with _ | spec
  · exact ⟨rfl, rfl, hlogins, hauth, hcurrent, hfinished⟩
  rcases hcurrent with ⟨hp⟩ | _
  · simp only [send, ← hfinished.length_eq]
    rcases writeLine_alike ho spec.host finished.length hp (ho.line command) with
      ⟨e, hw, hw'⟩ | ⟨r, r', hw, hw', hr⟩
    · rw [hw, hw']
      exact ⟨rfl, rfl, hlogins, hauth, .some hp, hfinished⟩
    · rw [hw, hw']
      exact ⟨rfl, rfl, hlogins, hauth, .some hr, hfinished⟩
  · exact ⟨rfl, rfl, hlogins, hauth, .none, hfinished⟩

lemma finish_alike (ho : Overlooks programs E L) (h : s.Alike E L v) :
    (finish programs s).Alike (State.Alike E L) (finish programs v) := by
  obtain ⟨spec, auth, current, finished⟩ := s
  obtain ⟨_, auth', current', finished'⟩ := v
  obtain ⟨rfl, hlogins, hauth, hcurrent, hfinished⟩ := h
  rcases spec with _ | spec
  · exact ⟨rfl, rfl, rfl, hlogins, hauth, hcurrent, hfinished⟩
  rcases hcurrent with ⟨hp⟩ | _
  · have hended := List.rel_append hfinished (.cons hp .nil)
    simp only [finish, ← hfinished.length_eq, ← ho.ends hp]
    split
    · exact ⟨rfl, rfl, rfl, hlogins, hauth, .none, hended⟩
    · exact ⟨rfl, rfl, rfl, hlogins, hauth, .none, hended⟩
  · exact ⟨rfl, rfl, rfl, hlogins, hauth, .none, hfinished⟩

lemma loginWarnings_alike (spec : Option ConnectSpec) {a b : Authentication}
    (h : a.AlikeButPassword b) : loginWarnings spec a = loginWarnings spec b := by
  cases h with
  | refl => rfl
  | password user p q wait =>
    rcases spec with _ | ⟨_ | _, _, _, _, _⟩ <;> rfl

/-- Sessions with clients take two passwords alike, as far as their clients overlook them. -/
lemma Overlooks.respects (ho : Overlooks programs E L) :
    (transport programs).Respects (State.Alike E L) (Call.AlikeButPassword (Logins L)) where
  opened := ⟨rfl, by simp [transport], .none, .none, .nil⟩
  answer {c d s v} hc hs := by
    rw [transport_answer, transport_answer]
    cases hc with
    | @connect spec hlogins =>
      refine ⟨rfl, rfl, rfl, ?_, hs.auth, hs.current, hs.finished⟩
      rintro _ ⟨⟩
      exact hlogins
    | @authenticate a b hlogin =>
      refine ⟨rfl, ?_, hs.spec, hs.logins, .some hlogin, hs.current, hs.finished⟩
      show loginWarnings s.spec a = loginWarnings v.spec b
      rw [hs.spec, loginWarnings_alike _ hlogin]
    | execute command =>
      -- executing starts a client first if there is none
      have hstarted := ensureStarted_alike ho hs
      unfold answer
      generalize ensureStarted programs s = x at hstarted ⊢
      generalize ensureStarted programs v = y at hstarted ⊢
      obtain ⟨e, s'⟩ := x
      obtain ⟨_, v'⟩ := y
      obtain ⟨rfl, hs'⟩ := hstarted
      cases e with
      | some e => exact ⟨rfl, rfl, hs'⟩
      | none =>
        have hsend := send_alike ho hs' command
        exact ⟨hsend.1, rfl, hsend.2⟩
    | close =>
      have hstarted := ensureStarted_alike ho hs
      unfold answer
      generalize ensureStarted programs s = x at hstarted ⊢
      generalize ensureStarted programs v = y at hstarted ⊢
      obtain ⟨e, s'⟩ := x
      obtain ⟨_, v'⟩ := y
      obtain ⟨rfl, hs'⟩ := hstarted
      cases e with
      | some e => exact ⟨rfl, rfl, hs'⟩
      | none => exact finish_alike ho hs'

lemma State.Alike.clients (h : s.Alike E L v) : List.Forall₂ E s.clients v.clients := by
  have hcurrent := h.current
  unfold State.clients
  generalize s.current = x at hcurrent ⊢
  generalize v.current = y at hcurrent ⊢
  refine List.rel_append h.finished ?_
  cases hcurrent with
  | none => exact .nil
  | some hp => exact .cons hp .nil

end Alike

/-! ### Whole sessions -/

section Run

variable {programs : Programs} {a b : Sequence}

/-- As far as the clients overlook what their logins differ in, sessions come to the same. -/
lemma Overlooks.run_alike {E : Invocation → Invocation → Prop} {L : String → String → Prop}
    (ho : Overlooks programs E L) (h : a.AlikeButPassword b) (hlogins : Logins L a.connect)
    (disk : Disk) :
    (run (transport programs) a disk).Alike (fun s v => List.Forall₂ E s.clients v.clients)
      (run (transport programs) b disk) :=
  (Session.run_alike ho.respects h.name h.log (h.steps hlogins) .close disk).imp
    State.Alike.clients

lemma writeLines_started (programs : Programs) (host : String) (round : Nat) (p : Invocation)
    (lines : List String) : StartedAlike (writeLines programs host round p lines).2 p := by
  induction lines generalizing p with
  | nil => exact ⟨rfl, rfl⟩
  | cons line rest ih =>
    unfold writeLines writeLine
    split
    · exact ⟨rfl, rfl⟩
    · next heq =>
      split at heq
      · cases heq
      · cases heq
        exact ih _

lemma started_of_start {spec : ConnectSpec} {auth : Option Authentication} {p : Invocation}
    (h : start programs spec auth = .ok p) :
    p.client = spec.protocol.client ∧ p.args = arguments spec auth := by
  unfold start at h
  dsimp only at h
  split at h
  · cases h
  · split at h <;> cases h <;> exact ⟨rfl, rfl⟩

/-- All clients of a session are started by one name and with the same arguments. -/
lemma started_of_mem_clients {disk : Disk} {p : Invocation}
    (h : p ∈ (run (transport programs) a disk).state.clients) :
    p.client = a.connect.protocol.client ∧ p.args = arguments a.connect a.authentication := by
  rw [clients_run] at h
  unfold clients at h
  split at h
  · cases h
  · next p₀ hstart =>
    have hstarted := started_of_start hstart
    -- writing to a client changes neither its name nor its arguments
    have hwritten (round : Nat) (lines : List String) :
        (writeLines programs a.connect.host round p₀ lines).2.client = a.connect.protocol.client ∧
          (writeLines programs a.connect.host round p₀ lines).2.args =
            arguments a.connect a.authentication := by
      obtain ⟨hclient, hargs⟩ := writeLines_started programs a.connect.host round p₀ lines
      exact ⟨hclient.trans hstarted.1, hargs.trans hstarted.2⟩
    dsimp only at h
    rcases List.mem_append.mp h with h | h
    · rw [List.mem_singleton.mp h]
      exact hwritten 0 _
    · split at h
      · rw [List.mem_singleton.mp h]
        exact hwritten 1 _
      · cases h

end Run

end Client

end FleetScript
