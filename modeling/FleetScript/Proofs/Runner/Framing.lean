import FleetScript.Proofs.Runner.History
import FleetScript.Proofs.Script.Characters
import FleetScript.Proofs.Session.Framing

/-!
Framing of compiled sessions. What is compiled always has commands, so its client reads one newline
for each line of the login and for each command that is reported, and others only if a user, a
password or a value holds them (`framed_iff_holdsNewline`).
-/

namespace FleetScript

open Session Text

/-! ### Tables -/

namespace Host.Table

lemma mem_of_row? {line : List Char} {row : Row} (h : row? line = some row) {cell : String}
    (hcell : cell ∈ row.cells) {c : Char} (hc : c ∈ cell.toList) : c ∈ line := by
  unfold row? at h
  dsimp only at h
  split at h
  · cases h
  split at h
  · next first cells hfields =>
    obtain rfl := Option.some.inj h
    obtain ⟨f, hf, rfl⟩ := List.mem_map.mp hcell
    rw [String.toList_ofList] at hc
    have hline := mem_of_mem_fields (hfields ▸ List.mem_cons_of_mem first hf) hc
    exact List.mem_reverse.mp ((List.dropWhile_suffix _).subset (List.mem_reverse.mp hline))
  · cases h

lemma newline_not_mem_of_read {text : List Char} {names : List String} {rows : List Row}
    (h : read text = .ok (names, rows)) :
    ∀ row ∈ rows, ∀ cell ∈ row.cells, '\n' ∉ cell.toList := by
  intro row hrow cell hcell hm
  unfold read at h
  dsimp only at h
  split at h
  · cases h
  obtain ⟨-, rfl⟩ := Prod.mk.inj (Except.ok.inj h)
  obtain ⟨line, hline, hread⟩ := List.mem_filterMap.mp hrow
  have hmem : line ∈ Text.lines text := (List.tail_suffix _).subset hline
  exact Script.newline_not_mem_lines hmem (mem_of_row? hread hcell hm)

/-- **No table gives a variable a value with a newline.** -/
theorem newline_not_mem_changes {σ : Type} (ask : Resolver σ) (disk : Disk) (path : String)
    (i : Intake σ) {hostname key value : String}
    (h : .append hostname key value ∈ changes ask disk path i) : '\n' ∉ value.toList := by
  unfold changes at h
  split at h
  · cases h
  split at h
  · cases h
  next names rows hread =>
  obtain ⟨row, hrow, hchange⟩ := List.mem_flatMap.mp h
  have hrow : row ∈ rows := by
    obtain ⟨_, _, -, hall | ⟨_, rest, _, _, hsplit, -⟩⟩ := taken_spec ask path names [] rows i
    · exact hall.1 ▸ hrow
    · exact hsplit ▸ List.mem_append_left _ hrow
  unfold rowChanges at hchange
  split at hchange
  · exact absurd hchange List.not_mem_nil
  obtain ⟨n, hn, hcell⟩ := List.mem_mapIdx.mp hchange
  obtain ⟨-, -, rfl⟩ := Change.append.inj hcell
  cases hcell : row.cells[n]? with
  | none => exact List.not_mem_nil
  | some cell => exact newline_not_mem_of_read hread row hrow cell (List.mem_of_getElem? hcell)

end Host.Table

/-! ### Plans -/

/-- Whether a plan holds a newline in what becomes a part of a line: in the user or the password
that log in, or in a value of a variable that a command line refers to. -/
def Plan.HoldsNewline (p : Plan) : Prop :=
  (∃ line ∈ Client.loginLines p.connect p.authentication, '\n' ∈ line.toList) ∨
    ∃ l ∈ p.script.lines, ∃ name ∈ l.names, ∃ values, p.script.get? name = some values ∧
      ∃ v ∈ values, '\n' ∈ v.toList

namespace Runner

variable {r : Runner} {disk : Disk} {ctx : RunContext} {entry : Host.Entry} {o : Options} {p : Plan}

lemma exists_read_of_plan (h : r.compile disk ctx entry o = .ok (.plan p)) :
    ∃ text vars, Script.read text vars = .ok p.script := by
  have hcompiles := compiles r disk ctx entry o
  rw [h] at hcompiles
  cases hcompiles with
  | plan hl ha hs hp =>
    obtain ⟨text, htext⟩ := exists_read_of_scriptFor hs
    exact ⟨text, _, htext⟩

lemma exists_commands_of_plan (h : r.compile disk ctx entry o = .ok (.plan p)) :
    ∃ commands, p.script.commands = .ok commands ∧ p.sequence.commands = .ok commands := by
  obtain ⟨text, vars, hread⟩ := exists_read_of_plan h
  have hcommands := Script.commands_of_read hread
  refine ⟨_, hcommands, ?_⟩
  unfold Plan.sequence
  simp only [hcommands]
  rfl

lemma holdsNewline_iff (h : r.compile disk ctx entry o = .ok (.plan p)) {commands : List String}
    (hc : p.script.commands = .ok commands) :
    p.HoldsNewline ↔ ∃ line ∈ Client.loginLines p.connect p.authentication ++ commands,
      '\n' ∈ line.toList := by
  obtain ⟨text, vars, hread⟩ := exists_read_of_plan h
  have hvalues := Script.newline_mem_commands_iff hread hc
  unfold Plan.HoldsNewline
  rw [← hvalues]
  simp only [List.mem_append, or_and_right, exists_or]

/-- **When each line of a session is one item.** The client reads one newline for each line of the
login and each command that is reported exactly if the plan holds no newline; a client that is
started to close once more reads one for each line of the login exactly if these hold none. -/
theorem framed_iff_holdsNewline (h : r.compile disk ctx entry o = .ok (.plan p))
    {programs : Client.Programs} {p₀ : Client.Invocation} {out : Nat → Bytes → Client.Output}
    (hclient : Client.Answers programs p.sequence p₀ out) (disk' : Disk) :
    ∃ client others,
      (run (Client.transport programs) p.sequence disk').state.clients = client :: others ∧
      (newlines client.stdin = (Client.loginLines p.connect p.authentication).length +
          (run (Client.transport programs) p.sequence disk').report.commands ↔
        ¬ p.HoldsNewline) ∧
      ∀ other ∈ others,
        (newlines other.stdin = (Client.loginLines p.connect p.authentication).length ↔
          ∀ line ∈ Client.loginLines p.connect p.authentication, '\n' ∉ line.toList) := by
  obtain ⟨commands, hscript, hsequence⟩ := exists_commands_of_plan h
  obtain ⟨client, others, hclients, hframed, hothers⟩ := hclient.framed_iff hsequence disk'
  refine ⟨client, others, hclients, ?_, hothers⟩
  rw [holdsNewline_iff h hscript]
  refine hframed.trans ?_
  simp only [not_exists, not_and]
  rfl

/-- A telnet client that reads a user, a password and a command with a value of the address. -/
theorem framed_telnet :
    let entry : Host.Entry :=
      { raw := "ops:secret@r1?x=vlan", queryVars := .ofList [("x", ["vlan"])] }
    let r : Runner := .ofHosts [entry] "show $x"
    let programs : Client.Programs := fun _ => .installed fun _ _ => {}
    ∃ p client others, r.compile {} oneThread entry {} = .ok (.plan p) ∧
      (run (Client.transport programs) p.sequence {}).state.clients = client :: others ∧
      newlines client.stdin =
        2 + (run (Client.transport programs) p.sequence {}).report.commands := by
  intro entry r programs
  obtain ⟨p, hp, hcommands, hstarts, hlogin, hnone⟩ : ∃ p ∈ r.plan? {} oneThread entry {},
      p.script.commands = .ok ["show vlan"] ∧
      Client.start programs p.connect p.authentication = .ok ⟨"telnet", ["r1"], []⟩ ∧
      (Client.loginLines p.connect p.authentication).length = 2 ∧
      ¬∃ line ∈ Client.loginLines p.connect p.authentication ++ ["show vlan"],
        '\n' ∈ line.toList := by
    decide +kernel
  have hplan := compile_of_plan? hp
  obtain ⟨client, others, hclients, hframed, -⟩ :=
    framed_iff_holdsNewline hplan (Client.answers_of_installed rfl hstarts) {}
  rw [hlogin] at hframed
  exact ⟨p, client, others, hplan, hclients,
    hframed.mpr ((holdsNewline_iff hplan hcommands).not.mpr hnone)⟩

/-- A newline in the query of a registered host makes two lines of one command. -/
theorem newline_smuggled_by_query :
    ¬ ∀ (s : Settings) (r : Runner) (cs : List Change), History s r cs →
      ∀ (disk : Disk) (ctx : RunContext) (o : Options) (p : Plan), ∀ entry ∈ r.registry.entries,
        r.compile disk ctx entry o = .ok (.plan p) →
        ∀ (programs : Client.Programs) (p₀ : Client.Invocation)
          (out : Nat → Bytes → Client.Output), Client.Answers programs p.sequence p₀ out →
          ∀ client ∈ (run (Client.transport programs) p.sequence disk).state.clients.head?,
            newlines client.stdin = (Client.loginLines p.connect p.authentication).length +
              (run (Client.transport programs) p.sequence disk).report.commands := by
  intro h
  let entry : Host.Entry := { raw := "r1?x=a%0Ab", queryVars := .ofList [("x", ["a\nb"])] }
  let r : Runner := .ofHosts [entry] "show $x"
  let programs : Client.Programs := fun _ => .installed fun _ _ => {}
  have hhistory := @History.load _ _ r _
    (History.new.addHosts (s := {}) Host.noAnswers () ["r1?x=a%0Ab"]) "show $x" (by decide +kernel)
  obtain ⟨p, hp, hstarts, hlogin, ⟨client, hclient, hstdin⟩, hreport⟩ :
      ∃ p ∈ r.plan? {} oneThread entry {},
      Client.start programs p.connect p.authentication = .ok ⟨"telnet", ["r1"], []⟩ ∧
      (Client.loginLines p.connect p.authentication).length = 0 ∧
      (∃ client ∈ (run (Client.transport programs) p.sequence {}).state.clients.head?,
        newlines client.stdin = 2) ∧
      (run (Client.transport programs) p.sequence {}).report.commands = 1 := by
    decide +kernel
  have hcount := h {} r _ hhistory {} oneThread {} p entry (List.mem_singleton_self _)
    (compile_of_plan? hp) programs _ _ (Client.answers_of_installed rfl hstarts) client hclient
  rw [hstdin, hlogin, hreport] at hcount
  cases hcount

end Runner

end FleetScript
