import FleetScript.Json.Number
import FleetScript.Text.Blank
import FleetScript.Text.Letter

/-!
The tokens of JSON texts with comments: brackets and marks, strings in either quote, numbers
(decimal, hexadecimal, with either sign) and words. Blanks and comments stand anywhere between
them.
-/

namespace FleetScript.Json

open Text

/-- A token. A number keeps its text, for it may also stand as a key. -/
inductive Token where
  | openBrace
  | closeBrace
  | openBracket
  | closeBracket
  | comma
  | colon
  | null
  | bool (b : Bool)
  | string (s : String)
  | number (text : List Char)
  | word (s : String)
  deriving DecidableEq

namespace Token

/-! ### Strings -/

/-- The number that four hexadecimal digits spell. -/
def hex4? (a b c d : Char) : Option Nat :=
  if [a, b, c, d].all isHexDigit then some (numeral 16 [a, b, c, d]) else none

/-- The character of a code unit that is no surrogate. -/
def unitChar? (n : Nat) : Option Char :=
  if n < 0xD800 ∨ 0xDFFF < n then some (Char.ofNat n) else none

def pairChar? (high low : Nat) : Option Char :=
  if 0xD800 ≤ high ∧ high ≤ 0xDBFF ∧ 0xDC00 ≤ low ∧ low ≤ 0xDFFF then
    some (Char.ofNat (0x10000 + (high - 0xD800) * 1024 + (low - 0xDC00)))
  else none

/-- The character that a backslash and one more character stand for, in a string with the given
quote: only the quote of the string itself may be written so. -/
def escape? (quote c : Char) : Option Char :=
  match c with
  | '\\' => some '\\'
  | '/' => some '/'
  | 'b' => some '\x08'
  | 'f' => some '\x0c'
  | 'n' => some '\n'
  | 'r' => some '\r'
  | 't' => some '\t'
  | c => if c = quote then some c else none

/-- The characters of a string up to its closing quote, and the text after it. -/
def readString (quote : Char) : List Char → Option (List Char × List Char)
  | [] => none
  | '\\' :: 'u' :: a :: b :: c :: d :: rest =>
    match (hex4? a b c d).bind unitChar? with
    | some ch => (readString quote rest).map fun (s, t) => (ch :: s, t)
    | none =>
      match rest with
      | '\\' :: 'u' :: a' :: b' :: c' :: d' :: rest' => do
        let high ← hex4? a b c d
        let low ← hex4? a' b' c' d'
        let ch ← pairChar? high low
        (readString quote rest').map fun (s, t) => (ch :: s, t)
      | _ => none
  | '\\' :: c :: rest =>
    match escape? quote c with
    | some ch => (readString quote rest).map fun (s, t) => (ch :: s, t)
    | none => none
  | c :: rest =>
    if c = quote then some ([], rest)
    else (readString quote rest).map fun (s, t) => (c :: s, t)

/-! ### Numbers and words -/

/-- The text of a number without sign, and the text after it. -/
def readUnsigned : List Char → Option (List Char × List Char)
  | '0' :: x :: rest =>
    if x = 'x' ∨ x = 'X' then
      let digits := rest.takeWhile isHexDigit
      if digits.isEmpty then none else some ('0' :: x :: digits, rest.dropWhile isHexDigit)
    else readTail ['0'] (x :: rest)
  | '0' :: rest => readTail ['0'] rest
  | s =>
    let digits := s.takeWhile isDigit
    if digits.isEmpty then none else readTail digits (s.dropWhile isDigit)
where
  /-- Goes on after the digits before the point. -/
  readTail (whole s : List Char) : Option (List Char × List Char) :=
    match s with
    | '.' :: rest =>
      let digits := rest.takeWhile isDigit
      if digits.isEmpty then none
      else readPower (whole ++ '.' :: digits) (rest.dropWhile isDigit)
    | s => readPower whole s
  /-- Goes on after the digits behind the point. -/
  readPower (start s : List Char) : Option (List Char × List Char) :=
    match s with
    | e :: rest =>
      if e = 'e' ∨ e = 'E' then
        let (sign, rest) : List Char × List Char := match rest with
          | '+' :: r => (['+'], r)
          | '-' :: r => (['-'], r)
          | r => ([], r)
        let digits := rest.takeWhile isDigit
        if digits.isEmpty then none
        else some (start ++ e :: sign ++ digits, rest.dropWhile isDigit)
      else some (start, e :: rest)
    | [] => some (start, [])

/-- The text of a number with an optional sign, and the text after it. -/
def readNumber : List Char → Option (List Char × List Char)
  | '-' :: rest => (readUnsigned rest).map fun (n, t) => ('-' :: n, t)
  | '+' :: rest => (readUnsigned rest).map fun (n, t) => ('+' :: n, t)
  | s => readUnsigned s

def isWordChar (c : Char) : Bool := isAlphanumeric c || c = '-' || c = '_'

/-- The word at the start of a text: it goes on to a blank or a colon, and holds nothing but word
characters. -/
def readWord (s : List Char) : Option (List Char × List Char) :=
  let goesOn (c : Char) : Bool := !isBlank c && c ≠ ':'
  let word := s.takeWhile goesOn
  if word.isEmpty || !word.all isWordChar then none else some (word, s.dropWhile goesOn)

/-- The literal that a text starts with, if no letter or number follows it. -/
def literal? (s : List Char) : Option (Token × List Char) :=
  [("true", Token.bool true), ("false", .bool false), ("null", .null)].findSome? fun (w, t) =>
    let rest := s.drop w.length
    if w.toList.isPrefixOf s && !(rest.head?.any isAlphanumeric) then some (t, rest) else none

/-! ### Blanks and comments -/

/-- The text after a comment to the end of the line. -/
def skipLine : List Char → List Char
  | [] => []
  | '\n' :: rest => '\n' :: rest
  | _ :: rest => skipLine rest

/-- The text after a comment to its closing mark, if there is one. -/
def skipBlock : List Char → Option (List Char)
  | [] => none
  | '*' :: '/' :: rest => some rest
  | _ :: rest => skipBlock rest

/-! ### Tokens -/

/-- The first token of a text, or a blank or comment in place of it, and the text after it. -/
def next? (s : List Char) : Option (Option Token × List Char) :=
  match s with
  | [] => none
  | '{' :: rest => some (some openBrace, rest)
  | '}' :: rest => some (some closeBrace, rest)
  | '[' :: rest => some (some openBracket, rest)
  | ']' :: rest => some (some closeBracket, rest)
  | ',' :: rest => some (some comma, rest)
  | ':' :: rest => some (some colon, rest)
  | '/' :: '/' :: rest => some (none, skipLine rest)
  | '/' :: '*' :: rest => (skipBlock rest).map fun t => (none, t)
  | '"' :: rest => (readString '"' rest).map fun (cs, t) => (some (string (String.ofList cs)), t)
  | '\'' :: rest => (readString '\'' rest).map fun (cs, t) => (some (string (String.ofList cs)), t)
  | c :: rest =>
    if isBlank c then some (none, rest)
    else if c = '-' || c = '+' || isDigit c then
      (readNumber s).map fun (n, t) => (some (number n), t)
    else
      match literal? s with
      | some (token, t) => some (some token, t)
      | none => (readWord s).map fun (w, t) => (some (word (String.ofList w)), t)

/-- The tokens of a text, as far as `fuel` steps go. -/
def lexFrom : Nat → List Char → Option (List Token)
  | _, [] => some []
  | 0, _ => none
  | fuel + 1, s => do
    let (token, rest) ← next? s
    let tokens ← lexFrom fuel rest
    pure (token.toList ++ tokens)

/-- The tokens of a text. Each step takes a character at least, so the steps suffice. -/
def lex (s : List Char) : Option (List Token) := lexFrom s.length s

end Token

end FleetScript.Json
