import FleetScript.Host.Error
import FleetScript.Text.Quoted

/-!
Placeholders: the value `{label}` of a query variable asks for a value when the host is
registered.
-/

namespace FleetScript.Host

open Text

/-- A value that is asked for: the name of the variable, and what the user is told of it. -/
structure Request where
  key : String
  label : String
  deriving DecidableEq

namespace Request

/-- The text between the braces of a placeholder, which holds no closing brace itself. -/
def inner? (value : List Char) : Option (List Char) :=
  match value with
  | '\x7b' :: rest =>
    match cut '\x7d' rest with
    | some (inner, []) => some inner
    | _ => none
  | _ => none

/-- The request that a value makes, if it is a placeholder. -/
def ofValue? (key value : String) : Option Request :=
  (inner? value.toList).map fun inner =>
    let label := trimChars inner
    { key
      label := if label.isEmpty then "a value for \"" ++ key ++ "\"" else String.ofList label }

def prompt (r : Request) : String := "Please enter " ++ r.label

/-- Whether the answer should not be shown: the name or label speaks of a password or secret.
Lower case is taken of plain letters only, for no other character has one of these words' letters
as its lower case. -/
def isSecret (r : Request) : Bool :=
  let text := lowerAscii (r.key ++ " " ++ r.label).toList
  ["password", "passwd", "secret", "pass"].any fun word => occurs word.toList text

end Request

/-! ### Answers -/

/-- Who answers requests, with a state of its own. -/
abbrev Resolver (σ : Type) := Request → σ → Except Error String × σ

def noAnswers : Resolver Unit := fun r s =>
  (.error (.unanswered r.key "interactive input is disabled"), s)

section Answers

variable {σ : Type} (ask : Resolver σ)

/-- A value, or the answer if it is a placeholder. -/
def answerValue (key value : String) (s : σ) : Except Error String × σ :=
  match Request.ofValue? key value with
  | none => (.ok value, s)
  | some r => ask r s

/-- The values of one name, with answers for placeholders. -/
def answerValues (key : String) : List String → σ → Except Error (List String) × σ
  | [], s => (.ok [], s)
  | v :: vs, s =>
    match answerValue ask key v s with
    | (.error e, s) => (.error e, s)
    | (.ok a, s) =>
      match answerValues key vs s with
      | (.error e, s) => (.error e, s)
      | (.ok as, s) => (.ok (a :: as), s)

/-- The values of all names, in the order of the names, with answers for placeholders. -/
def answerPairs : List (String × List String) → σ →
    Except Error (List (String × List String)) × σ
  | [], s => (.ok [], s)
  | (k, vs) :: rest, s =>
    match answerValues ask k vs s with
    | (.error e, s) => (.error e, s)
    | (.ok as, s) =>
      match answerPairs rest s with
      | (.error e, s) => (.error e, s)
      | (.ok ps, s) => (.ok ((k, as) :: ps), s)

/-- Variables with answers for placeholders; the first answer that fails ends the asking. -/
def answerAll (vars : Variables) (s : σ) : Except Error Variables × σ :=
  match answerPairs ask vars.pairs s with
  | (.error e, s) => (.error e, s)
  | (.ok ps, s) => (.ok (Bindings.ofList ps), s)

end Answers

end FleetScript.Host
