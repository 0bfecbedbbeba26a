import FleetScript.Proofs.Script.Grammar

/-!
The commands of a line. A line is filled once for each value of the variable that has most; when
the variables of a line have a value for each of some rows, or one value for all, each command is
the line filled from one row.
-/

namespace FleetScript.Script

/-! ### Filling a line -/

/-- The text of a line with a value for each name. -/
def Line.fill (l : Line) (value : String → String) : String :=
  String.ofList (l.pieces.flatMap fun
    | .char c => [c]
    | .ref name => (value name).toList)

lemma Line.fill_congr {l : Line} {f g : String → String} (h : ∀ name ∈ l.names, f name = g name) :
    l.fill f = l.fill g := by
  unfold Line.fill
  congr 1
  refine List.flatMap_congr fun p hp => ?_
  cases p with
  | char c => rfl
  | ref name => exact congrArg String.toList (h name (mem_names_iff.mpr hp))

lemma Line.renderAt_eq (vars : Variables) (l : Line) (i : Nat) :
    l.renderAt vars i = l.fill fun name => valueAt ((vars.get? name).getD []) i := rfl

/-! ### How often a line is filled -/

lemma foldl_max_le_iff {α : Type} {f : α → Nat} {l : List α} {a b : Nat} :
    l.foldl (fun n x => max n (f x)) a ≤ b ↔ a ≤ b ∧ ∀ x ∈ l, f x ≤ b := by
  induction l generalizing a with
  | nil => simp
  | cons x l ih => rw [List.foldl_cons, ih, Nat.max_le, List.forall_mem_cons, and_assoc]

/-- A line is filled no more than `n` times if none of its variables has more values. -/
lemma Line.count_le_iff {vars : Variables} {l : Line} {n : Nat} :
    l.count vars ≤ n ↔ 1 ≤ n ∧ ∀ name ∈ l.names, ((vars.get? name).getD []).length ≤ n :=
  foldl_max_le_iff

lemma Line.count_eq {vars : Variables} {l : Line} {n : Nat} (h1 : 1 ≤ n)
    (hle : ∀ name ∈ l.names, ((vars.get? name).getD []).length ≤ n)
    (heq : ∃ name ∈ l.names, ((vars.get? name).getD []).length = n) : l.count vars = n := by
  obtain ⟨name, hname, hlen⟩ := heq
  refine Nat.le_antisymm (count_le_iff.mpr ⟨h1, hle⟩) ?_
  rw [← hlen]
  exact (count_le_iff.mp (Nat.le_refl _)).2 name hname

/-! ### Lines over rows -/

lemma valueAt_of_lt {values : List String} {i : Nat} (h : i < values.length) :
    valueAt values i = values[i] := by
  unfold valueAt
  rw [List.getElem?_eq_getElem h]
  rfl

lemma valueAt_singleton (value : String) (i : Nat) : valueAt [value] i = value := by
  unfold valueAt
  cases i <;> rfl

/-- Of names with one value for each row, and others with one value for all, a line makes one
command from each row. -/
theorem Line.render_rows {ρ : Type} {rows : List ρ} {vars : Variables} {l : Line}
    {columns : List String} {cell : ρ → String → String} {value : String → String}
    (hrows : rows ≠ []) (hsome : ∃ name ∈ l.names, name ∈ columns)
    (hcell : ∀ name ∈ l.names, name ∈ columns →
      vars.get? name = some (rows.map fun row => cell row name))
    (hvalue : ∀ name ∈ l.names, name ∉ columns → vars.get? name = some [value name]) :
    l.render vars = rows.map fun row =>
      l.fill fun name => if name ∈ columns then cell row name else value name := by
  have h1 : 1 ≤ rows.length := List.length_pos_iff.mpr hrows
  have hcount : l.count vars = rows.length := by
    obtain ⟨name, hname, hcol⟩ := hsome
    refine count_eq h1 (fun name hname => ?_) ⟨name, hname, ?_⟩
    · by_cases hcol : name ∈ columns
      · rw [hcell name hname hcol, Option.getD_some, List.length_map]
      · rw [hvalue name hname hcol]
        exact h1
    · rw [hcell name hname hcol, Option.getD_some, List.length_map]
  unfold Line.render
  rw [hcount]
  refine List.ext_getElem (by simp) fun i hi _ => ?_
  have hi : i < rows.length := by simpa using hi
  rw [List.getElem_map, List.getElem_range, List.getElem_map, Line.renderAt_eq]
  refine Line.fill_congr fun name hname => ?_
  by_cases hcol : name ∈ columns
  · rw [hcell name hname hcol, if_pos hcol, Option.getD_some, valueAt_of_lt (by simpa using hi),
      List.getElem_map]
  · rw [hvalue name hname hcol, if_neg hcol, Option.getD_some, valueAt_singleton]

/-! ### Scripts that were read -/

lemma renderLine_of_defined {vars : Variables} {l : Line}
    (h : ∀ name ∈ l.names, vars.contains name = true) :
    renderLine vars l = .ok (l.render vars) := by
  have hfind : l.names.find? (fun name => !vars.contains name) = none := by
    simpa [List.find?_eq_none] using h
  unfold renderLine
  rw [hfind]

lemma defined_of_read {source : String} {vars : Variables} {s : Script}
    (h : read source vars = .ok s) :
    ∀ l ∈ s.lines, ∀ name ∈ l.names, s.vars.contains name = true := by
  obtain ⟨hvars, hlines⟩ := read_eq_ok_iff.mp h
  intro l hl
  obtain ⟨x, -, hx⟩ := exists_of_mem_right hlines hl
  rw [hvars]
  exact (readLine_eq_ok_iff.mp hx).2.2

/-- A script in which every name is defined has commands: those of its lines, in order. -/
lemma commands_of_defined {s : Script}
    (h : ∀ l ∈ s.lines, ∀ name ∈ l.names, s.vars.contains name = true) :
    s.commands = .ok (s.lines.flatMap (·.render s.vars)) := by
  have hmap : s.lines.mapM (renderLine s.vars) = .ok (s.lines.map (·.render s.vars)) := by
    rw [mapM_eq_ok_iff, List.forall₂_map_right_iff, List.forall₂_same]
    exact fun l hl => renderLine_of_defined (h l hl)
  unfold Script.commands
  rw [hmap]
  rfl

theorem commands_of_read {source : String} {vars : Variables} {s : Script}
    (h : read source vars = .ok s) :
    s.commands = .ok (s.lines.flatMap (·.render s.vars)) :=
  commands_of_defined (defined_of_read h)

end FleetScript.Script
