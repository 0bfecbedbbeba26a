import FleetScript.Proofs.Session.Output
import FleetScript.Proofs.Text.Coding

/-!
Framing. Nothing but newlines tells a client where a line of its input ends. A client that takes
every line reads one newline for each line of the login and for each command that the session
reports, and one more for each newline inside of these: `Answers.framed_iff` says that the count is
right exactly if there is none.
-/

namespace FleetScript

open Text

/-! ### Newlines -/

namespace Text

/-- The number of newlines in the content of a stream. -/
def newlines (bytes : Bytes) : Nat := bytes.count 0x0A

@[simp] lemma newlines_append (a b : Bytes) : newlines (a ++ b) = newlines a + newlines b :=
  List.count_append

/-- All bytes of a character beyond the first 128 are above those of the others. -/
lemma le_of_mem_utf8EncodeChar {c : Char} {b : UInt8} (hc : 0x80 ≤ c.toNat)
    (hb : b ∈ String.utf8EncodeChar c) : 0x80 ≤ b.toNat := by
  have hval : c.val.toNat = c.toNat := rfl
  have hhigh {n : Nat} (hlo : 0x80 ≤ n % 256) : 0x80 ≤ (UInt8.ofNat n).toNat := by
    rwa [UInt8.toNat_ofNat']
  rw [String.utf8EncodeChar, hval] at hb
  generalize c.toNat = n at hc hb
  split at hb
  · omega
  split at hb
  · simp only [List.mem_cons, List.not_mem_nil, or_false] at hb
    rcases hb with rfl | rfl <;> exact hhigh (by omega)
  split at hb
  · simp only [List.mem_cons, List.not_mem_nil, or_false] at hb
    rcases hb with rfl | rfl | rfl <;> exact hhigh (by omega)
  · simp only [List.mem_cons, List.not_mem_nil, or_false] at hb
    rcases hb with rfl | rfl | rfl | rfl <;> exact hhigh (by omega)

lemma newlines_utf8EncodeChar (c : Char) :
    newlines (String.utf8EncodeChar c) = if c = '\n' then 1 else 0 := by
  unfold newlines
  by_cases hc : c.toNat < 0x80
  · rw [utf8EncodeChar_of_ascii hc, List.count_singleton]
    have hbyte : UInt8.ofNat c.toNat = 0x0A ↔ c = '\n' := by
      rw [← UInt8.toNat_inj, toNat_ofNat_of_lt (by omega), Char.ext_iff, ← UInt32.toNat_inj]
      rfl
    simp [hbyte]
  · have hno : (0x0A : UInt8) ∉ String.utf8EncodeChar c := by
      intro hm
      have hhigh := le_of_mem_utf8EncodeChar (Nat.le_of_not_lt hc) hm
      simp at hhigh
    have hne : c ≠ '\n' := by
      rintro rfl
      exact hc (by decide)
    rw [List.count_eq_zero_of_not_mem hno, if_neg hne]

lemma newlines_encode (s : List Char) : newlines (encode s) = s.count '\n' := by
  induction s with
  | nil => rfl
  | cons c s ih =>
    have hcons : encode (c :: s) = String.utf8EncodeChar c ++ encode s := List.flatMap_cons
    rw [hcons, newlines_append, newlines_utf8EncodeChar, ih, List.count_cons, Nat.add_comm]
    simp only [beq_iff_eq]

end Text

/-! ### Commands that are reported -/

namespace Session

section Commands

variable {σ : Type} {t : Transport σ} {p : Progress σ} {q : Sequence} {commands : List String}

lemma commands_call (p : Progress σ) (c : Call) : (p.call t c).2.commands = p.commands := by
  unfold Progress.call
  split <;> rfl

lemma commands_connect {spec : ConnectSpec} {f : Option Failure}
    (h : ({} : Progress σ).connect t spec = (f, p)) : p.commands = 0 := by
  have hp : (({} : Progress σ).connect t spec).2 = p := by rw [h]
  rw [← hp]
  unfold Progress.connect
  dsimp only
  split <;> rfl

lemma commands_send (h : (p.send t commands).1 = none) :
    (p.send t commands).2.commands = p.commands + commands.length := by
  induction commands generalizing p with
  | nil => rfl
  | cons c rest ih =>
    have hcall := commands_call (t := t) p (.execute c)
    unfold Progress.send at h ⊢
    cases hr : p.call t (.execute c) with
    | mk result p' =>
      rw [hr] at h hcall
      cases result with
      | error e => cases h
      | ok text =>
        have hrest := ih h
        simp only at hcall hrest ⊢
        rw [hrest, hcall, List.length_cons]
        omega

lemma commands_salvage (p : Progress σ) : (salvage t p).commands = p.commands := by
  have hcall := commands_call (t := t) p .close
  unfold salvage
  split
  · rfl
  · generalize p.call t .close = r at hcall
    obtain ⟨result, p'⟩ := r
    cases result <;> exact hcall

lemma commands_take_close (p : Progress σ) : (p.take t .close).2.commands = p.commands := by
  have hcall := commands_call (t := t) p .close
  unfold Progress.take
  generalize p.call t .close = r at hcall
  obtain ⟨result, p'⟩ := r
  cases result <;> exact hcall

lemma commands_take_authenticate (p : Progress σ) (auth : Authentication) :
    (p.take t (.authenticate auth)).2.commands = p.commands := by
  have hcall := commands_call (t := t) p (.authenticate auth)
  simp only [Progress.take]
  generalize p.call t (.authenticate auth) = r at hcall
  obtain ⟨result, p'⟩ := r
  cases result <;> exact hcall

/-- Between connecting and closing all commands are sent, unless something fails. -/
lemma commands_middle (hq : q.commands = .ok commands)
    (h : (perform t (middle q) p).1 = none) :
    (perform t (middle q) p).2.commands = p.commands + commands.length := by
  -- the script comes last, with or without a login before it
  have hscript {p : Progress σ} (h : (perform t [.runScript q.commands] p).1 = none) :
      (perform t [.runScript q.commands] p).2.commands = p.commands + commands.length := by
    rw [perform_singleton, hq] at h ⊢
    exact commands_send h
  unfold middle at h ⊢
  cases ha : q.authentication with
  | none =>
    rw [ha] at h
    exact hscript h
  | some auth =>
    rw [ha] at h
    have hlogin := commands_take_authenticate (t := t) p auth
    have hcons : (Option.map Step.authenticate (some auth)).toList ++ [.runScript q.commands] =
        .authenticate auth :: [.runScript q.commands] := rfl
    rw [hcons, perform_cons] at h ⊢
    generalize p.take t (.authenticate auth) = r at h hlogin ⊢
    obtain ⟨f, p'⟩ := r
    cases f with
    -- after a failed login the script is not taken
    | some f => cases h
    | none =>
      have hrest := hscript (p := p') h
      exact hrest.trans (congrArg (· + commands.length) hlogin)

/-- A session in which nothing fails before closing reports all its commands, whatever comes of
closing. -/
lemma commands_run (hp : ({} : Progress σ).connect t q.connect = (none, p))
    (hq : q.commands = .ok commands) (h : (perform t (middle q) p).1 = none) (disk : Disk) :
    (run t q disk).report.commands = commands.length := by
  have hsent := commands_middle hq h
  rw [commands_connect hp, Nat.zero_add] at hsent
  have hrun : (run t q disk).report.commands = (ended t (perform t (steps q) {})).commands := rfl
  rw [hrun, perform_steps t q hp]
  generalize perform t (middle q) p = r at h hsent
  obtain ⟨f, p'⟩ := r
  cases h
  have hclose := commands_take_close (t := t) p'
  show (ended t (p'.take t .close)).commands = _
  unfold ended
  split
  · rw [commands_salvage, hclose, hsent]
  · rw [hclose, hsent]

end Commands

end Session

/-! ### What a client reads -/

namespace Client

open Session

lemma newlines_inputLine (line : String) :
    newlines (inputLine line) = line.toList.count '\n' + 1 := by
  unfold inputLine
  rw [newlines_append, toBytes, newlines_encode]
  rfl

/-- Lines are read with a newline each, and with those inside of them. -/
lemma newlines_lines (lines : List String) :
    newlines (lines.flatMap inputLine) =
      lines.length + (lines.flatMap String.toList).count '\n' := by
  induction lines with
  | nil => rfl
  | cons line rest ih =>
    rw [List.flatMap_cons, newlines_append, newlines_inputLine, ih, List.length_cons,
      List.flatMap_cons, List.count_append]
    omega

lemma newlines_lines_eq_iff {lines : List String} :
    newlines (lines.flatMap inputLine) = lines.length ↔ ∀ line ∈ lines, '\n' ∉ line.toList := by
  rw [newlines_lines, Nat.add_eq_left, List.count_eq_zero, List.mem_flatMap]
  simp only [not_exists, not_and]

variable {programs : Programs} {q : Sequence} {p₀ : Invocation} {out : Nat → Bytes → Output}
  {commands : List String}

/-- The client takes the login and the commands; another one, which closing once more starts if the
end of the first is a failure, takes the login. -/
lemma Answers.clients_run (h : Answers programs q p₀ out) (hq : q.commands = .ok commands)
    (disk : Disk) :
    (run (transport programs) q disk).state.clients = { p₀ with stdin := inputOf q commands } ::
      if (out 0 (inputOf q commands)).exit = 0 then []
      else [{ p₀ with stdin := inputOf q [] }] := by
  have hwrite (round : Nat) (rest : List String) : writeLines programs q.connect.host round p₀
      (loginLines q.connect q.authentication ++ rest) =
        (none, { p₀ with stdin := inputOf q rest }) := by
    rw [writeLines_of_takes (h.takes round), stdin_of_start h.starts, List.nil_append]
    rfl
  have hcommands : q.commands.toOption.getD [] = commands := by rw [hq]; rfl
  have hall := hwrite 0 commands
  have hlogin := hwrite 1 []
  rw [← hcommands] at hall
  rw [List.append_nil] at hlogin
  have hends : endFails programs 0 { p₀ with stdin := inputOf q commands } =
      decide ((out 0 (inputOf q commands)).exit ≠ 0) := by
    unfold endFails
    rw [h.ends]
  rw [Client.clients_run, clients_eq programs q h.starts hall, hcommands, hlogin, hends, hq]
  by_cases hexit : (out 0 (inputOf q commands)).exit = 0
  · simp [hexit]
  · simp [hexit, Except.toOption]

lemma Answers.commands_run (h : Answers programs q p₀ out) (hq : q.commands = .ok commands)
    (disk : Disk) :
    (run (transport programs) q disk).report.commands = commands.length := by
  have hconnect : (next (transport programs) [] (.connect q.connect)).reply.result = .ok "" := rfl
  obtain ⟨p, hp, hopen⟩ := connect_ok hconnect
  have hmiddle := (perform_middle programs q hopen.transport).1
  have hnone : (scriptEnd programs q (ready q)).1.isSome = false := by
    rw [h.isSome_fst_scriptEnd, hq]
    rfl
  rw [← hmiddle, Option.isSome_eq_false_iff, Option.isNone_iff_eq_none] at hnone
  exact Session.commands_run hp hq hnone disk

/-- **When the lines of a session are framed.** The client reads one newline for each line of the
login and each command that is reported exactly if no line and no command holds one; a client that
is started to close once more reads one for each line of the login exactly if these hold none. -/
theorem Answers.framed_iff (h : Answers programs q p₀ out) (hq : q.commands = .ok commands)
    (disk : Disk) :
    ∃ client others,
      (run (transport programs) q disk).state.clients = client :: others ∧
      (newlines client.stdin = (loginLines q.connect q.authentication).length +
          (run (transport programs) q disk).report.commands ↔
        ∀ line ∈ loginLines q.connect q.authentication ++ commands, '\n' ∉ line.toList) ∧
      ∀ other ∈ others,
        (newlines other.stdin = (loginLines q.connect q.authentication).length ↔
          ∀ line ∈ loginLines q.connect q.authentication, '\n' ∉ line.toList) := by
  refine ⟨_, _, h.clients_run hq disk, ?_, ?_⟩
  · rw [h.commands_run hq, ← List.length_append]
    exact newlines_lines_eq_iff
  · intro other hother
    split at hother
    · cases hother
    · obtain rfl := List.mem_singleton.mp hother
      unfold inputOf
      rw [List.append_nil]
      exact newlines_lines_eq_iff

end Client

end FleetScript
