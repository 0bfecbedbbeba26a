import FleetScript.Text.Blank
import FleetScript.Text.Hex
import FleetScript.Variables

/-!
The lines of a script. A command line is a text in which a dollar sign refers to a variable:
`$name` and `${name}` stand for a value, `$$` for one dollar sign, and a dollar sign before
anything else for itself. Blank lines and lines that start with `#` are no command lines.
-/

namespace FleetScript.Script

open Text

/-! ### Pieces -/

/-- A piece of a command line: a character, or a reference to a variable. -/
inductive Piece where
  | char (c : Char)
  | ref (name : String)
  deriving DecidableEq

/-- Why a line is malformed. -/
inductive Fault where
  | invalidName (name : String)
  | unterminated
  deriving DecidableEq

def Fault.message : Fault → String
  | invalidName name => "invalid variable name '" ++ name ++ "'"
  | unterminated => "unterminated '$\x7b'"

def isNameChar (c : Char) : Bool := isLetter c || isDigit c || c = '_'

theorem length_lt_of_cut {sep : Char} {s a b : List Char} (h : cut sep s = some (a, b)) :
    b.length < s.length := by
  rw [eq_append_of_cut h]
  simp
  omega

theorem length_dropWhile_le (p : Char → Bool) (s : List Char) :
    (s.dropWhile p).length ≤ s.length :=
  (List.dropWhile_sublist p).length_le

/-- The pieces of a line. A bare name takes all name characters it can get; a name in braces goes
on to the first closing brace, and must be made of name characters. -/
def pieces (s : List Char) : Except Fault (List Piece) :=
  match s with
  | [] => .ok []
  | '$' :: '$' :: rest => (pieces rest).map (.char '$' :: ·)
  | '$' :: '\x7b' :: rest =>
    match _h : cut '\x7d' rest with
    | none => .error .unterminated
    | some (name, rest') =>
      if name.isEmpty || !name.all isNameChar then .error (.invalidName (String.ofList name))
      else (pieces rest').map (.ref (String.ofList name) :: ·)
  | '$' :: c :: rest =>
    if isNameChar c then
      (pieces (rest.dropWhile isNameChar)).map
        (.ref (String.ofList (c :: rest.takeWhile isNameChar)) :: ·)
    else (pieces (c :: rest)).map (.char '$' :: ·)
  | c :: rest => (pieces rest).map (.char c :: ·)
termination_by s.length
decreasing_by
  · simp only [List.length_cons]; omega
  · have := length_lt_of_cut ‹_›
    simp only [List.length_cons]
    omega
  · have := length_dropWhile_le isNameChar rest
    simp only [List.length_cons]
    omega
  · simp only [List.length_cons]; omega
  · simp only [List.length_cons]; omega

/-! ### Command lines -/

/-- A command line: its place among all lines, counted from 1, and its pieces. -/
structure Line where
  number : Nat
  pieces : List Piece
  deriving DecidableEq

def Line.names (l : Line) : List String :=
  l.pieces.filterMap fun p =>
    match p with
    | .ref name => some name
    | .char _ => none

/-- The texts of the command lines with their places. -/
def commandLines (text : List Char) : List (List Char × Nat) :=
  (((lines text).zipIdx 1).map fun (l, n) => (trimChars l, n)).filter fun (l, _) =>
    !l.isEmpty && l.head? ≠ some '#'

/-! ### Rendering -/

/-- Value number `i` of a list: the last one stands for those it lacks, and the empty text for
the values of an empty list. -/
def valueAt (values : List String) (i : Nat) : String :=
  (values[i]?.or values.getLast?).getD ""

/-- A line with value number `i` of every variable. -/
def Line.renderAt (vars : Variables) (l : Line) (i : Nat) : String :=
  String.ofList (l.pieces.flatMap fun p =>
    match p with
    | .char c => [c]
    | .ref name => (valueAt ((vars.get? name).getD []) i).toList)

/-- How often a line is rendered: once for each value of the variable that has most, and at least
once. -/
def Line.count (vars : Variables) (l : Line) : Nat :=
  l.names.foldl (fun n name => max n ((vars.get? name).getD []).length) 1

def Line.render (vars : Variables) (l : Line) : List String :=
  (List.range (l.count vars)).map (l.renderAt vars)

end FleetScript.Script
