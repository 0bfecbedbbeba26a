import FleetScript.Proofs.Scopes.Lookup
import FleetScript.Proofs.Script.Rendering

/-!
The commands of a script, told from its text. A command line is rendered as often as the variable
that has most values in it has values, and once if none has more; each rendering puts values where
the text refers to variables, piece by piece (`Filled`). The pieces are those of the text alone, so
no value is ever read as a part of the template, whatever characters it holds. Variables may be
changed once the script has been read: the commands are those with the values of the time
(`commands_after_edits`).
-/

namespace FleetScript.Script

/-! ### Changes to the variables of a script -/

/-- A change to the variables of a script that has been read. -/
inductive Edit where
  | define (key : String) (values : List String)
  | bind (r : Variables.Reserved)

/-- The variables after a change. -/
def Edit.on (vars : Variables) : Edit → Variables
  | define key values => vars.insert key values
  | bind r => vars.reserve r

def Edit.apply (s : Script) : Edit → Script
  | define key values => s.define key values
  | bind r => s.bind r

/-- The script after changes, one after another. -/
def edited (s : Script) (edits : List Edit) : Script := edits.foldl Edit.apply s

lemma edited_eq (s : Script) (edits : List Edit) :
    s.edited edits = { s with vars := edits.foldl Edit.on s.vars } := by
  unfold edited
  induction edits generalizing s with
  | nil => rfl
  | cons e edits ih =>
    rw [List.foldl_cons, List.foldl_cons, ih]
    cases e <;> rfl

lemma contains_on {vars : Variables} {name : String} (h : vars.contains name = true) (e : Edit) :
    (e.on vars).contains name = true := by
  unfold Bindings.contains at *
  cases e with
  | define key values =>
    rw [Edit.on, Bindings.get?_insert]
    split
    · rfl
    · exact h
  | bind r =>
    rw [Edit.on, Variables.get?_reserve]
    split
    · rfl
    split
    · rfl
    split
    · rfl
    · exact h

lemma contains_foldl_on {vars : Variables} {name : String} (h : vars.contains name = true)
    (edits : List Edit) : (edits.foldl Edit.on vars).contains name = true := by
  induction edits generalizing vars with
  | nil => exact h
  | cons e edits ih => exact ih (contains_on h e)

/-! ### Renderings of a text -/

/-- The text of a piece, given the texts of variables. -/
def Piece.text (value : String → String) : Piece → List Char
  | char c => [c]
  | ref name => (value name).toList

/-- Each piece of a text in its turn is replaced by its own text: an escape by a dollar sign, and a
reference by the value, which goes into the outcome as it is. -/
inductive Filled (value : String → String) : List Char → List Char → Prop where
  | done : Filled value [] []
  | step {s rest t : List Char} {p : Piece} (hp : Starts s p rest) (h : Filled value rest t) :
    Filled value s (p.text value ++ t)

/-- The text refers to a name. -/
def Mentions (text : List Char) (name : String) : Prop :=
  ∃ ps, Spells text ps [] ∧ .ref name ∈ ps

/-- The value of a list with a number, counted from 0; the last one stands for those behind it, and
the empty text for the values of an empty list. -/
def numbered (values : List String) (i : Nat) : String :=
  (values[min i (values.length - 1)]?).getD ""

/-- How often a text is rendered: as often as the variable that has most values has values, and at
least once. -/
structure Repeats (vars : Variables) (text : List Char) (r : Nat) : Prop where
  pos : 1 ≤ r
  le : ∀ name, Mentions text name → ((vars.get? name).getD []).length ≤ r
  attained : r = 1 ∨ ∃ name, Mentions text name ∧ ((vars.get? name).getD []).length = r

/-- The renderings of a text, each with the values of its own number. -/
structure Renders (vars : Variables) (text : List Char) (commands : List String) : Prop where
  count : Repeats vars text commands.length
  filled : ∀ (i : Nat) (hi : i < commands.length),
    Filled (fun name => numbered ((vars.get? name).getD []) i) text commands[i].toList

/-! ### One rendering -/

section Renderings

variable {value : String → String} {vars : Variables} {text t : List Char} {ps : List Piece}

lemma filled_iff : Filled value text t ↔
    ∃ ps, Spells text ps [] ∧ t = ps.flatMap (·.text value) := by
  constructor
  · intro h
    induction h with
    | done => exact ⟨[], .done, rfl⟩
    | step hp _ ih =>
      obtain ⟨ps, hps, rfl⟩ := ih
      exact ⟨_, .step hp hps, List.flatMap_cons.symm⟩
  · rintro ⟨ps, hps, rfl⟩
    generalize hend : ([] : List Char) = last at hps
    induction hps with
    | done =>
      subst hend
      exact .done
    | step hp _ ih =>
      rw [List.flatMap_cons]
      exact .step hp (ih hend)

lemma spells_unique {qs : List Piece} (h : Spells text ps []) (h' : Spells text qs []) : ps = qs :=
  Except.ok.inj ((pieces_eq_ok_iff.mpr h).symm.trans (pieces_eq_ok_iff.mpr h'))

lemma Filled.unique {t' : List Char} (h : Filled value text t) (h' : Filled value text t') :
    t = t' := by
  obtain ⟨ps, hps, rfl⟩ := filled_iff.mp h
  obtain ⟨qs, hqs, rfl⟩ := filled_iff.mp h'
  rw [spells_unique hps hqs]

lemma mentions_iff (h : Spells text ps []) {name : String} :
    Mentions text name ↔ .ref name ∈ ps :=
  ⟨fun ⟨_, hqs, hname⟩ => spells_unique hqs h ▸ hname, fun hname => ⟨ps, h, hname⟩⟩

lemma valueAt_eq_numbered (values : List String) (i : Nat) :
    valueAt values i = numbered values i := by
  unfold valueAt numbered
  by_cases hi : i < values.length
  · have hmin : min i (values.length - 1) = i := by omega
    rw [hmin, List.getElem?_eq_getElem hi]
    rfl
  · have hmin : min i (values.length - 1) = values.length - 1 := by omega
    rw [hmin, List.getElem?_eq_none (Nat.le_of_not_lt hi), Option.none_or,
      List.getLast?_eq_getElem?]

/-! ### All renderings -/

lemma Repeats.unique {r r' : Nat} (h : Repeats vars text r) (h' : Repeats vars text r') :
    r = r' := by
  have hle {r r' : Nat} (h : Repeats vars text r) (h' : Repeats vars text r') : r ≤ r' := by
    rcases h.attained with rfl | ⟨name, hname, rfl⟩
    · exact h'.pos
    · exact h'.le name hname
  exact Nat.le_antisymm (hle h h') (hle h' h)

lemma Renders.unique {cs cs' : List String} (h : Renders vars text cs)
    (h' : Renders vars text cs') : cs = cs' :=
  List.ext_getElem (h.count.unique h'.count) fun i hi hi' =>
    String.toList_inj.mp ((h.filled i hi).unique (h'.filled i hi'))

lemma repeats_count {l : Line} (h : Spells text l.pieces []) :
    Repeats vars text (l.count vars) := by
  have hmentions {name : String} : Mentions text name ↔ name ∈ l.names :=
    (mentions_iff h).trans mem_names_iff.symm
  obtain ⟨hpos, hle⟩ := Line.count_le_iff.mp (Nat.le_refl (l.count vars))
  refine ⟨hpos, fun name hname => hle name (hmentions.mp hname), ?_⟩
  by_contra hno
  rw [not_or, not_exists] at hno
  obtain ⟨hone, hno⟩ := hno
  -- Were no list as long, a smaller number would do.
  have hless : l.count vars ≤ l.count vars - 1 := by
    refine Line.count_le_iff.mpr ⟨by omega, fun name hname => ?_⟩
    have hlength := hle name hname
    have hne : ((vars.get? name).getD []).length ≠ l.count vars := fun e =>
      hno name ⟨hmentions.mpr hname, e⟩
    omega
  omega

lemma filled_renderAt {l : Line} (h : Spells text l.pieces []) (i : Nat) :
    Filled (fun name => numbered ((vars.get? name).getD []) i) text
      (l.renderAt vars i).toList := by
  refine filled_iff.mpr ⟨l.pieces, h, ?_⟩
  rw [Line.renderAt, String.toList_ofList]
  refine List.flatMap_congr fun p _ => ?_
  cases p with
  | char c => rfl
  | ref name => exact congrArg String.toList (valueAt_eq_numbered _ i)

lemma renders_render {l : Line} (h : Spells text l.pieces []) :
    Renders vars text (l.render vars) := by
  unfold Line.render
  refine ⟨?_, fun i hi => ?_⟩
  · rw [List.length_map, List.length_range]
    exact repeats_count h
  · rw [List.getElem_map, List.getElem_range]
    exact filled_renderAt h i

end Renderings

/-! ### The commands of a script -/

/-- The command lines of a text, in the order of their numbers. -/
structure CommandLines (text : List Char) (lines : List (List Char × Nat)) : Prop where
  mem : ∀ l n, (l, n) ∈ lines ↔ CommandLine text n l
  increasing : lines.Pairwise fun a b => a.2 < b.2

lemma commandLines_commandLines (text : List Char) : CommandLines text (commandLines text) :=
  ⟨fun _ _ => mem_commandLines_iff, increasing_commandLines text⟩

/-- **The commands of a script are the renderings of its command lines,** one line after another,
with the values that the variables have after any changes to them. -/
theorem commands_after_edits {source : String} {vars : Variables} {s : Script}
    (h : read source vars = .ok s) (edits : List Edit) :
    ∃ lines groups, CommandLines source.toList lines ∧
      List.Forall₂ (fun x group => Renders (edits.foldl Edit.on vars) x.1 group) lines groups ∧
      (s.edited edits).commands = .ok groups.flatten ∧
      ∀ others, List.Forall₂ (fun x group => Renders (edits.foldl Edit.on vars) x.1 group)
        lines others → others = groups := by
  obtain ⟨hvars, hlines⟩ := read_eq_ok_iff.mp h
  have hdefined : ∀ l ∈ (s.edited edits).lines, ∀ name ∈ l.names,
      (s.edited edits).vars.contains name = true := by
    rw [edited_eq]
    exact fun l hl name hname => contains_foldl_on (defined_of_read h l hl name hname) edits
  have hgroups : List.Forall₂ (fun x group => Renders (edits.foldl Edit.on vars) x.1 group)
      (commandLines source.toList) (s.lines.map (·.render (edits.foldl Edit.on vars))) := by
    rw [List.forall₂_map_right_iff]
    exact hlines.imp fun x line hline => renders_render (readLine_eq_ok_iff.mp hline).2.1
  have hunique : Relator.RightUnique fun (x : List Char × Nat) group =>
      Renders (edits.foldl Edit.on vars) x.1 group := fun _ _ _ h h' => h.unique h'
  refine ⟨_, _, commandLines_commandLines _, hgroups, ?_, fun others hothers => ?_⟩
  · rw [commands_of_defined hdefined, edited_eq, hvars]
    exact congrArg _ List.flatMap_def
  · exact List.right_unique_forall₂' hunique hothers hgroups

/-- Values that look like templates, comments and blank lines, put in after the script was read. -/
theorem commands_after_edits_like_templates :
    let source := "set $x at $\x7by\x7d$$ for $ 5\r\n\n  # $none\n\t$z \n"
    let vars := Bindings.ofList [("x", ["a", "b", "c"]), ("y", ["1"]), ("z", [])]
    let edits : List Edit := [.define "y" ["$x", "$\x7b"], .bind ⟨"f", "r", ""⟩,
      .define "z" ["# $x", "", " "], .define "x" ["a", "$$"]]
    ∃ s lines groups, read source vars = .ok s ∧ CommandLines source.toList lines ∧
      List.Forall₂ (fun x group => Renders (edits.foldl Edit.on vars) x.1 group) lines groups ∧
      (s.edited edits).commands = .ok groups.flatten ∧
      groups.flatten = ["set a at $x$ for $ 5", "set $$ at $\x7b$ for $ 5", "# $x", "", " "] := by
  intro source vars edits
  let s : Script :=
    { lines := [
        { number := 1
          pieces := "set ".toList.map .char ++ .ref "x" :: " at ".toList.map .char ++
            .ref "y" :: "$ for $ 5".toList.map .char },
        { number := 4, pieces := [.ref "z"] }]
      vars }
  have hread : read source vars = .ok s := by decide +kernel
  obtain ⟨lines, groups, hlines, hgroups, hcommands, -⟩ := commands_after_edits hread edits
  have hflat : (s.edited edits).commands =
      .ok ["set a at $x$ for $ 5", "set $$ at $\x7b$ for $ 5", "# $x", "", " "] := by decide +kernel
  exact ⟨s, lines, groups, hread, hlines, hgroups, hcommands,
    Except.ok.inj (hcommands.symm.trans hflat)⟩

end FleetScript.Script
