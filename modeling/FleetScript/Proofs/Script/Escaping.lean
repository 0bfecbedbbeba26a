import FleetScript.Proofs.Script.Characters
import FleetScript.Proofs.Script.Commands
import FleetScript.Proofs.Text.Lines

/-!
Commands written as scripts. Where every dollar sign of a text is doubled, none of them refers to a
variable any more: `escape` goes through the cuts that a script is read with, into lines and off
white space, and what is left of each command line stands for itself. So the commands of an escaped
text are its command lines as they were before, whatever the variables are (`read_escape`), and a
list of commands comes back from its lines if each of them can stand on one (`commands_of_laidOut`).
-/

namespace FleetScript.Script

open Text

/-! ### Escaped texts -/

/-- What stands for a character in an escaped text. -/
def escapeChar (c : Char) : List Char := if c = '$' then ['$', '$'] else [c]

/-- A text that stands for another one: every dollar sign of it twice. -/
def escape (s : List Char) : List Char := s.flatMap escapeChar

/-- The text of a script with the given commands, each on a line of its own. -/
def write (commands : List String) : String :=
  String.ofList (commands.flatMap fun c => escape c.toList ++ ['\n'])

@[simp] lemma escape_nil : escape [] = [] := rfl

lemma escape_cons (c : Char) (s : List Char) : escape (c :: s) = escapeChar c ++ escape s :=
  List.flatMap_cons

lemma escape_append (s t : List Char) : escape (s ++ t) = escape s ++ escape t :=
  List.flatMap_append

lemma escapeChar_of_ne {c : Char} (h : c ≠ '$') : escapeChar c = [c] := if_neg h

lemma reverse_escapeChar (c : Char) : (escapeChar c).reverse = escapeChar c := by
  unfold escapeChar
  split <;> rfl

lemma reverse_escape (s : List Char) : (escape s).reverse = escape s.reverse := by
  unfold escape
  rw [List.reverse_flatMap]
  exact List.flatMap_congr fun c _ => reverse_escapeChar c

@[simp] lemma head?_escape (s : List Char) : (escape s).head? = s.head? := by
  cases s with
  | nil => rfl
  | cons c s =>
    rw [escape_cons, escapeChar]
    split
    · next hc => rw [hc]; rfl
    · rfl

@[simp] lemma isEmpty_escape (s : List Char) : (escape s).isEmpty = s.isEmpty := by
  cases s with
  | nil => rfl
  | cons c s =>
    rw [escape_cons, escapeChar]
    split <;> rfl

/-! ### White space -/

lemma dropWhile_escape (s : List Char) :
    (escape s).dropWhile isBlank = escape (s.dropWhile isBlank) := by
  induction s with
  | nil => rfl
  | cons c s ih =>
    by_cases hc : c = '$'
    · subst hc
      rfl
    · rw [escape_cons, escapeChar_of_ne hc, List.singleton_append, List.dropWhile_cons,
        List.dropWhile_cons]
      split
      · exact ih
      · rw [escape_cons, escapeChar_of_ne hc, List.singleton_append]

lemma trimChars_escape (s : List Char) : trimChars (escape s) = escape (trimChars s) := by
  unfold trimChars trimEndChars trimStartChars
  rw [dropWhile_escape, reverse_escape, dropWhile_escape, reverse_escape]

/-! ### Lines -/

lemma lines_escapeChar_append {c : Char} {s : List Char} (hc : c ≠ '\n')
    (hcr : c = '\r' → s.head? ≠ some '\n') :
    Text.lines (escapeChar c ++ s) =
      (escapeChar c ++ (Text.lines s).headD []) :: (Text.lines s).tail := by
  have hdollar (s : List Char) : Text.lines ('$' :: s) =
      ('$' :: (Text.lines s).headD []) :: (Text.lines s).tail :=
    lines_cons (by decide) fun e => absurd e (by decide)
  unfold escapeChar
  split
  · rw [List.cons_append, hdollar, List.singleton_append, hdollar]
    rfl
  · exact lines_cons hc hcr

lemma lines_escape (s : List Char) : Text.lines (escape s) = (Text.lines s).map escape := by
  have hcons {c : Char} {rest : List Char} (hc : c ≠ '\n')
      (hcr : ∀ rest', c = '\r' → rest = '\n' :: rest' → False)
      (ih : Text.lines (escape rest) = (Text.lines rest).map escape) :
      Text.lines (escape (c :: rest)) = (Text.lines (c :: rest)).map escape := by
    have hhead (e : c = '\r') : rest.head? ≠ some '\n' := fun h => by
      obtain ⟨rest', hrest⟩ := List.head?_eq_some_iff.mp h
      exact hcr rest' e hrest
    rw [escape_cons, lines_escapeChar_append hc (by rwa [head?_escape]), lines_cons hc hhead, ih]
    cases Text.lines rest with
    | nil => simp [escape_cons]
    | cons l ls => simp [escape_cons]
  induction s using Text.lines.induct with
  | case1 => rfl
  | case2 rest ih =>
    rw [Text.lines, List.map_cons, ← ih]
    rfl
  | case3 rest ih =>
    rw [Text.lines, List.map_cons, ← ih]
    rfl
  | case4 c rest hc hcr hnil ih => exact hcons hc hcr ih
  | case5 c rest hc hcr first others hlines ih => exact hcons hc hcr ih

/-! ### Command lines -/

/-- Whether a line without white space around it is a command line. -/
def isCommandLine (l : List Char) : Bool := !l.isEmpty && l.head? ≠ some '#'

lemma commandLines_eq (text : List Char) : commandLines text =
    (((Text.lines text).map trimChars).zipIdx 1).filter fun x => isCommandLine x.1 := by
  rw [List.zipIdx_map]
  rfl

lemma map_fst_commandLines (text : List Char) : (commandLines text).map (·.1) =
    ((Text.lines text).map trimChars).filter isCommandLine := by
  rw [commandLines_eq]
  generalize (Text.lines text).map trimChars = ls
  conv_rhs => rw [← List.zipIdx_map_fst 1 ls]
  rw [List.filter_map]
  rfl

lemma commandLines_escape (text : List Char) :
    commandLines (escape text) = (commandLines text).map fun x => (escape x.1, x.2) := by
  have htrim : (Text.lines (escape text)).map trimChars =
      ((Text.lines text).map trimChars).map escape := by
    rw [lines_escape, List.map_map, List.map_map]
    exact List.map_congr_left fun l _ => trimChars_escape l
  have hcommand (l : List Char) : isCommandLine (escape l) = isCommandLine l := by
    unfold isCommandLine
    rw [isEmpty_escape, head?_escape]
  rw [commandLines_eq, commandLines_eq, htrim, List.zipIdx_map, List.filter_map]
  refine congrArg _ (List.filter_congr fun x _ => ?_)
  exact hcommand x.1

/-! ### Reading and rendering -/

/-- Every character of an escaped text stands for itself. -/
lemma spells_escape (s : List Char) : Spells (escape s) (s.map .char) [] := by
  induction s with
  | nil => exact .done
  | cons c s ih =>
    rw [escape_cons, escapeChar]
    split
    · next hc =>
      subst hc
      exact .step .double ih
    · next hc => exact .step (.char hc) ih

/-- The line of a text in which every character stands for itself. -/
def Line.ofText (text : List Char) (number : Nat) : Line := { number, pieces := text.map .char }

@[simp] lemma Line.names_ofText (text : List Char) (number : Nat) :
    (Line.ofText text number).names = [] := by
  rw [names_eq, ofText]
  induction text with
  | nil => rfl
  | cons c text ih => exact ih

lemma Line.render_ofText (vars : Variables) (text : List Char) (number : Nat) :
    (Line.ofText text number).render vars = [String.ofList text] := by
  have hcount : (Line.ofText text number).count vars = 1 := by
    unfold Line.count
    rw [names_ofText]
    rfl
  have hrender : (Line.ofText text number).renderAt vars 0 = String.ofList text := by
    unfold Line.renderAt Line.ofText
    rw [List.flatMap_map]
    exact congrArg String.ofList (List.flatMap_singleton' text)
  unfold Line.render
  rw [hcount, List.range_one, List.map_singleton, hrender]

/-- **An escaped text is read to its command lines as they stand,** with any variables. -/
theorem read_escape (text : List Char) (vars : Variables) :
    read (String.ofList (escape text)) vars = .ok
      { lines := (commandLines text).map fun x => Line.ofText x.1 x.2, vars } := by
  rw [read_eq_ok_iff, String.toList_ofList, commandLines_escape]
  refine ⟨rfl, ?_⟩
  rw [List.forall₂_map_left_iff, List.forall₂_map_right_iff, List.forall₂_same]
  intro x _
  rw [readLine_eq_ok_iff]
  exact ⟨rfl, spells_escape x.1, by simp⟩

/-- The commands of an escaped text are its command lines, whatever becomes of the variables. -/
lemma commands_of_read_escape {text : List Char} {vars : Variables} {s : Script}
    (h : read (String.ofList (escape text)) vars = .ok s) (edits : List Edit) :
    (s.edited edits).commands = .ok ((commandLines text).map fun x => String.ofList x.1) := by
  obtain rfl := Except.ok.inj ((read_escape text vars).symm.trans h)
  rw [edited_eq, commands_of_defined]
  · simp only [List.flatMap_map, Line.render_ofText]
    rw [← List.map_eq_flatMap]
  · intro l hl name hname
    obtain ⟨x, -, rfl⟩ := List.mem_map.mp hl
    rw [Line.names_ofText] at hname
    cases hname

/-! ### Commands on lines of their own -/

/-- Whether a command can stand on a line of its own: it has no newline and no white space at its
ends, and is neither empty nor a comment. -/
structure FitsLine (command : String) : Prop where
  ne_empty : command ≠ ""
  newline : '\n' ∉ command.toList
  visible : Visible command.toList
  comment : command.toList.head? ≠ some '#'

lemma FitsLine.toList_ne_nil {command : String} (h : FitsLine command) : command.toList ≠ [] :=
  fun e => h.ne_empty (String.toList_inj.mp e)

/-- The text has each of the commands on a line of its own. A line ends at a newline, which may have
a carriage return before it, or with the text. -/
inductive LaidOut : List String → List Char → Prop where
  | nil : LaidOut [] []
  | last (command : String) : LaidOut [command] command.toList
  | line (command : String) {commands : List String} {rest : List Char}
    (h : LaidOut commands rest) : LaidOut (command :: commands) (command.toList ++ '\n' :: rest)
  | crlf (command : String) {commands : List String} {rest : List Char}
    (h : LaidOut commands rest) :
    LaidOut (command :: commands) (command.toList ++ '\r' :: '\n' :: rest)

/-- Commands that can stand on lines of their own are the lines they are laid out on. -/
lemma lines_of_laidOut {commands : List String} {text : List Char} (h : LaidOut commands text)
    (hfits : ∀ c ∈ commands, FitsLine c) : Text.lines text = commands.map String.toList := by
  induction h with
  | nil => rfl
  | last command =>
    have hfit := hfits command List.mem_cons_self
    have hlines := lines_append (t := []) hfit.toList_ne_nil hfit.newline nofun
    rwa [List.append_nil, Text.lines, List.headD_nil, List.append_nil] at hlines
  | line command h ih =>
    obtain ⟨hfit, hrest⟩ := List.forall_mem_cons.mp hfits
    have hcr : command.toList.getLast? ≠ some '\r' := fun hr =>
      absurd (hfit.visible.stop _ hr) (by decide)
    rw [lines_append hfit.toList_ne_nil hfit.newline fun hr => absurd hr hcr, Text.lines,
      List.headD_cons, List.append_nil, List.tail_cons, ih hrest, List.map_cons]
  | crlf command h ih =>
    obtain ⟨hfit, hrest⟩ := List.forall_mem_cons.mp hfits
    rw [lines_append hfit.toList_ne_nil hfit.newline fun _ => by simp, Text.lines,
      List.headD_cons, List.append_nil, List.tail_cons, ih hrest, List.map_cons]

lemma isCommandLine_iff {l : List Char} : isCommandLine l = true ↔ l ≠ [] ∧ l.head? ≠ some '#' := by
  simp [isCommandLine]

lemma commandLines_of_laidOut {commands : List String} {text : List Char}
    (h : LaidOut commands text) (hfits : ∀ c ∈ commands, FitsLine c) :
    (commandLines text).map (fun x => String.ofList x.1) = commands := by
  have hlines : (commandLines text).map (·.1) = commands.map String.toList := by
    rw [map_fst_commandLines, lines_of_laidOut h hfits, List.map_map, List.filter_eq_self.mpr]
    · refine List.map_congr_left fun c hc => ?_
      exact trimChars_of_visible (hfits c hc).visible
    · intro l hl
      obtain ⟨c, hc, rfl⟩ := List.mem_map.mp hl
      have hfit := hfits c hc
      rw [Function.comp_apply, trimChars_of_visible hfit.visible, isCommandLine_iff]
      exact ⟨hfit.toList_ne_nil, hfit.comment⟩
  calc (commandLines text).map (fun x => String.ofList x.1)
      = ((commandLines text).map (·.1)).map String.ofList := by rw [List.map_map]; rfl
    _ = (commands.map String.toList).map String.ofList := by rw [hlines]
    _ = commands := by simp [Function.comp_def]

lemma fitsLine_of_commandLine {text l : List Char} {n : Nat} (h : CommandLine text n l) :
    FitsLine (String.ofList l) := by
  have hnl := h.newline_not_mem
  cases h with
  | mk hraw h0 hc =>
    have hvisible := visible_trimChars
    constructor <;> simp_all

lemma write_eq (commands : List String) :
    write commands = String.ofList (escape (commands.flatMap fun c => c.toList ++ ['\n'])) := by
  unfold write
  congr 1
  induction commands with
  | nil => rfl
  | cons c commands ih =>
    rw [List.flatMap_cons, List.flatMap_cons, escape_append, escape_append, ih]
    rfl

lemma laidOut_lines (commands : List String) :
    LaidOut commands (commands.flatMap fun c => c.toList ++ ['\n']) := by
  induction commands with
  | nil => exact .nil
  | cons c commands ih =>
    rw [List.flatMap_cons, List.append_assoc]
    exact .line c ih

/-- **Commands on lines of their own, with every dollar sign doubled, are a script** that can be
read with any variables. Its commands are just these, whatever becomes of the variables, if each of
them can stand on a line; and else they are not. -/
theorem commands_of_laidOut {commands : List String} {text : List Char}
    (h : LaidOut commands text) (vars : Variables) :
    ∃ s, read (String.ofList (escape text)) vars = .ok s ∧
      ∀ edits, (s.edited edits).commands = .ok commands ↔ ∀ c ∈ commands, FitsLine c := by
  refine ⟨_, read_escape text vars, fun edits => ?_⟩
  rw [commands_of_read_escape (read_escape text vars)]
  constructor
  · intro he c hc
    rw [← Except.ok.inj he] at hc
    obtain ⟨x, hx, rfl⟩ := List.mem_map.mp hc
    exact fitsLine_of_commandLine (mem_commandLines_iff.mp hx)
  · intro hfits
    rw [commandLines_of_laidOut h hfits]

/-- Dollar signs of every kind, a carriage return and a comment sign inside of commands, read with
the very variables that they seem to refer to. -/
theorem commands_of_laidOut_dollars :
    let commands := ["echo $HOME costs $$ 5$", "$\x7bx\x7d $\x7b $é", "a\r$x # no comment", "$$$"]
    let vars := Bindings.ofList [("x", ["1", "2"]), ("HOME", [])]
    LaidOut commands (commands.flatMap fun c => c.toList ++ ['\n']) ∧
      (∀ c ∈ commands, FitsLine c) ∧
      ∃ s, read (write commands) vars = .ok s ∧
        (s.edited [.define "x" ["3"]]).commands = .ok commands := by
  intro commands vars
  have hlaid := laidOut_lines commands
  have hfits : ∀ c ∈ commands, FitsLine c := by
    simp only [commands, List.forall_mem_cons]
    refine ⟨?_, ?_, ?_, ?_, List.forall_mem_nil _⟩ <;> constructor <;> decide +kernel
  obtain ⟨s, hread, hcommands⟩ := commands_of_laidOut hlaid vars
  rw [← write_eq] at hread
  exact ⟨hlaid, hfits, s, hread, (hcommands _).mpr hfits⟩

end FleetScript.Script
