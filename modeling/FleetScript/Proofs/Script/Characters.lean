import FleetScript.Proofs.Script.Rendering

/-!
Where the characters of commands come from. A command line holds no newline of its own, as the text
of a script is cut at its newlines. So a command holds one exactly if a value of a variable does
that its line refers to, and no value is left out: a line is filled once for each value of the
variable that has most.
-/

namespace FleetScript.Script

open Text

/-! ### Characters of command lines -/

lemma newline_not_mem_lines {text l : List Char} (h : l ∈ Text.lines text) : '\n' ∉ l := by
  induction text using Text.lines.induct generalizing l with
  | case1 => cases h
  | case2 rest ih =>
    rcases List.mem_cons.mp h with rfl | h
    · exact List.not_mem_nil
    · exact ih h
  | case3 rest ih =>
    rcases List.mem_cons.mp h with rfl | h
    · exact List.not_mem_nil
    · exact ih h
  | case4 c rest hc hcr hnil ih =>
    rw [Text.lines, hnil] at h
    · obtain rfl := List.mem_singleton.mp h
      simpa using fun e => hc e.symm
    · exact hc
    · exact hcr
  | case5 c rest hc hcr first others hlines ih =>
    rw [Text.lines, hlines] at h
    · rcases List.mem_cons.mp h with rfl | h
      · have hfirst := ih (hlines ▸ List.mem_cons_self)
        simpa using ⟨fun e => hc e.symm, hfirst⟩
      · exact ih (hlines ▸ List.mem_cons_of_mem _ h)
    · exact hc
    · exact hcr

lemma mem_of_mem_trimChars {s : List Char} {c : Char} (h : c ∈ trimChars s) : c ∈ s := by
  obtain ⟨a, b, hs, -, -⟩ := exists_append_trimChars s
  rw [hs]
  exact List.mem_append_left _ (List.mem_append_right _ h)

lemma CommandLine.newline_not_mem {text l : List Char} {n : Nat} (h : CommandLine text n l) :
    '\n' ∉ l := by
  cases h with
  | mk hraw _ _ => exact fun hm =>
      newline_not_mem_lines (List.mem_of_getElem? hraw) (mem_of_mem_trimChars hm)

/-- A piece takes its characters from the text, and leaves what stands behind it. -/
lemma Starts.subset {s t : List Char} {p : Piece} (h : Starts s p t) :
    (∀ c, p = .char c → c ∈ s) ∧ t ⊆ s := by
  cases h with
  | char hc => simp
  | double => simp
  | bare => simp
  | braced => exact ⟨nofun, fun c hc => by simp [hc]⟩
  | lone hr => simp

lemma Spells.char_mem {s rest : List Char} {ps : List Piece} (h : Spells s ps rest) {c : Char}
    (hc : .char c ∈ ps) : c ∈ s := by
  induction h with
  | done => cases hc
  | step hp _ ih =>
    rcases List.mem_cons.mp hc with rfl | hc
    · exact hp.subset.1 c rfl
    · exact hp.subset.2 (ih hc)

/-- The lines of a script that was read hold no newline of their own. -/
lemma newline_not_mem_of_read {source : String} {vars : Variables} {s : Script}
    (h : read source vars = .ok s) : ∀ l ∈ s.lines, .char '\n' ∉ l.pieces := by
  obtain ⟨-, hlines⟩ := read_eq_ok_iff.mp h
  intro l hl hm
  obtain ⟨⟨text, n⟩, hx, hline⟩ := exists_of_mem_right hlines hl
  have hspells := (readLine_eq_ok_iff.mp hline).2.1
  exact (mem_commandLines_iff.mp hx).newline_not_mem (hspells.char_mem hm)

/-! ### Characters of commands -/

lemma valueAt_eq_or_mem (values : List String) (i : Nat) :
    valueAt values i = "" ∨ valueAt values i ∈ values := by
  unfold valueAt
  cases hi : values[i]? with
  | some v => exact .inr (List.mem_of_getElem? hi)
  | none =>
    cases hlast : values.getLast? with
    | some v => exact .inr (List.mem_of_getLast? hlast)
    | none => exact .inl rfl

variable {vars : Variables} {l : Line} {c : Char}

lemma mem_renderAt_iff (hc : .char c ∉ l.pieces) (i : Nat) :
    c ∈ (l.renderAt vars i).toList ↔
      ∃ name ∈ l.names, c ∈ (valueAt ((vars.get? name).getD []) i).toList := by
  rw [Line.renderAt, String.toList_ofList, List.mem_flatMap]
  constructor
  · rintro ⟨p, hp, hm⟩
    cases p with
    | char d =>
      obtain rfl := List.mem_singleton.mp hm
      exact absurd hp hc
    | ref name => exact ⟨name, mem_names_iff.mpr hp, hm⟩
  · rintro ⟨name, hname, hm⟩
    exact ⟨.ref name, mem_names_iff.mp hname, hm⟩

/-- A character that a line does not hold itself is in one of its commands exactly if it is in a
value of one of its variables. -/
lemma mem_render_iff (hc : .char c ∉ l.pieces) :
    (∃ command ∈ l.render vars, c ∈ command.toList) ↔
      ∃ name ∈ l.names, ∃ values, vars.get? name = some values ∧ ∃ v ∈ values, c ∈ v.toList := by
  unfold Line.render
  constructor
  · rintro ⟨command, hcommand, hm⟩
    obtain ⟨i, -, rfl⟩ := List.mem_map.mp hcommand
    obtain ⟨name, hname, hvalue⟩ := (mem_renderAt_iff hc i).mp hm
    have hne : valueAt ((vars.get? name).getD []) i ≠ "" := by
      intro he
      rw [he] at hvalue
      cases hvalue
    have hmem := (valueAt_eq_or_mem _ i).resolve_left hne
    cases hget : vars.get? name with
    | none =>
      rw [hget] at hmem
      cases hmem
    | some values =>
      rw [hget] at hmem hvalue
      exact ⟨name, hname, values, hget, _, hmem, hvalue⟩
  · rintro ⟨name, hname, values, hget, v, hv, hm⟩
    obtain ⟨i, hi, rfl⟩ := List.getElem_of_mem hv
    have hcount : values.length ≤ l.count vars := by
      have hle := (Line.count_le_iff.mp (Nat.le_refl (l.count vars))).2 name hname
      rwa [hget] at hle
    refine ⟨l.renderAt vars i, ?_, (mem_renderAt_iff hc i).mpr ⟨name, hname, ?_⟩⟩
    · exact List.mem_map.mpr ⟨i, List.mem_range.mpr (Nat.lt_of_lt_of_le hi hcount), rfl⟩
    · rw [hget, Option.getD_some, valueAt_of_lt hi]
      exact hm

/-- **A command holds a newline exactly if a value does** that its line refers to. -/
theorem newline_mem_commands_iff {source : String} {vars : Variables} {s : Script}
    {commands : List String} (h : read source vars = .ok s) (hs : s.commands = .ok commands) :
    (∃ command ∈ commands, '\n' ∈ command.toList) ↔
      ∃ l ∈ s.lines, ∃ name ∈ l.names, ∃ values, s.get? name = some values ∧
        ∃ v ∈ values, '\n' ∈ v.toList := by
  have hown := newline_not_mem_of_read h
  obtain rfl := Except.ok.inj (hs.symm.trans (commands_of_read h))
  constructor
  · rintro ⟨command, hcommand, hm⟩
    obtain ⟨l, hl, hrender⟩ := List.mem_flatMap.mp hcommand
    exact ⟨l, hl, (mem_render_iff (hown l hl)).mp ⟨command, hrender, hm⟩⟩
  · rintro ⟨l, hl, hvalue⟩
    obtain ⟨command, hrender, hm⟩ := (mem_render_iff (hown l hl)).mpr hvalue
    exact ⟨command, List.mem_flatMap.mpr ⟨l, hl, hrender⟩, hm⟩

end FleetScript.Script
