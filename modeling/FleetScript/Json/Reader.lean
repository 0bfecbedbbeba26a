import FleetScript.Json.Token
import FleetScript.Json.Value

/-!
Reading JSON texts with comments. Beyond plain JSON, commas may be left out or stand before a
closing bracket, keys may be words or numbers, and of two members with one key the later counts.
-/

namespace FleetScript.Json

open Text Token

/-! ### Numbers -/

/-- The parts of the text of a decimal number without sign. -/
def Number.parts (s : List Char) : Bool × Number.Decimal :=
  let isPower (c : Char) : Bool := c = 'e' || c = 'E'
  let body := s.takeWhile (!isPower ·)
  let whole := body.takeWhile isDigit
  let fraction := (body.dropWhile isDigit).tail
  let power : Int := match (s.dropWhile (!isPower ·)).tail with
    | '-' :: ds => -(numeral 10 ds : Int)
    | '+' :: ds => numeral 10 ds
    | ds => numeral 10 ds
  (body.length = whole.length && whole.length = s.length, { whole, fraction, power })

/-- The value of the text of a number. What no number holds, a hexadecimal one beyond 63 bits or
a decimal one beyond the greatest binary number, is the string of its text. -/
def ofNumberText (text : List Char) : Json :=
  let minus := text.head? = some '-'
  let body := if minus || text.head? = some '+' then text.tail else text
  let value : Option Number := match body with
    | '0' :: x :: ds =>
      if x = 'x' ∨ x = 'X' then
        let n := numeral 16 ds
        if 0x8000000000000000 ≤ n then none
        else some (if minus ∧ 0 < n then .negative n else .natural n)
      else
        let (isWhole, d) := Number.parts body
        Number.ofDecimal? minus isWhole d
    | _ =>
      let (isWhole, d) := Number.parts body
      Number.ofDecimal? minus isWhole d
  match value with
  | some n => number n
  | none => string (String.ofList text)

/-! ### Values -/

def keyOf? : Token → Option String
  | .string s => some s
  | .word s => some s
  | .number text => some (String.ofList text)
  | _ => none

/-- The tokens without a comma at their start. -/
def skipComma : List Token → List Token
  | .comma :: rest => rest
  | tokens => tokens

mutual

/-- The value at the start of the tokens, and the tokens after it. -/
def value? : Nat → List Token → Option (Json × List Token)
  | 0, _ => none
  | fuel + 1, tokens =>
    match tokens with
    | .openBrace :: rest => (members? fuel rest).map fun (ms, t) => (ofMembers ms, t)
    | .openBracket :: rest => (items? fuel rest).map fun (xs, t) => (array xs, t)
    | .null :: rest => some (null, rest)
    | .bool b :: rest => some (bool b, rest)
    | .string s :: rest => some (string s, rest)
    | .number text :: rest => some (ofNumberText text, rest)
    | _ => none

/-- The items of an array up to its closing bracket, and the tokens after it. -/
def items? : Nat → List Token → Option (List Json × List Token)
  | 0, _ => none
  | fuel + 1, tokens =>
    match tokens with
    | .closeBracket :: rest => some ([], rest)
    | tokens => do
      let (x, rest) ← value? fuel tokens
      let (xs, rest) ← items? fuel (skipComma rest)
      pure (x :: xs, rest)

/-- The members of an object up to its closing brace, and the tokens after it. -/
def members? : Nat → List Token → Option (List (String × Json) × List Token)
  | 0, _ => none
  | fuel + 1, tokens =>
    match tokens with
    | .closeBrace :: rest => some ([], rest)
    | key :: .colon :: rest => do
      let k ← keyOf? key
      let (x, rest) ← value? fuel rest
      let (ms, rest) ← members? fuel (skipComma rest)
      pure ((k, x) :: ms, rest)
    | _ => none

end

/-- What a text holds. -/
inductive Content where
  | malformed
  | empty
  | value (v : Json)

/-- The value of tokens; each step takes a token at least or closes what a token opened. -/
def ofTokens (tokens : List Token) : Content :=
  if tokens.isEmpty then .empty
  else
    match value? (2 * tokens.length) tokens with
    | some (v, []) => .value v
    | _ => .malformed

def read (text : List Char) : Content :=
  match lex text with
  | none => .malformed
  | some tokens => ofTokens tokens

end FleetScript.Json
