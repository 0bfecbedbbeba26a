import FleetScript.Text.Hex
import Mathlib.Tactic.Lemma

/-!
The grammar of JSON texts. A document is what a text spells, apart from the blanks and comments
between its parts: its numbers are kept as they are written, and the members of its objects in their
order. `Document.SpelledBy` says which texts spell it, without a word about how they are read.
-/

namespace FleetScript.Json

open Text

/-! ### Strings -/

/-- Characters that may be written with a backslash before another one. -/
def escapes : List (Char × Char) :=
  [('"', '"'), ('\\', '\\'), ('/', '/'), ('b', '\x08'), ('f', '\x0c'), ('n', '\n'), ('r', '\r'),
    ('t', '\t')]

/-- The ways to write a character in a string: as it is, with a backslash, or by its code in
hexadecimal digits, beyond the first 65536 characters in two parts. -/
inductive CharText : List Char → Char → Prop where
  | plain {c : Char} (hquote : c ≠ '"') (hslash : c ≠ '\\') (hcontrol : 0x20 ≤ c.toNat) :
    CharText [c] c
  | escape {e c : Char} (h : (e, c) ∈ escapes) : CharText ['\\', e] c
  | unit {a b c d : Char} (hhex : ∀ x ∈ [a, b, c, d], isHexDigit x = true)
    (h : numeral 16 [a, b, c, d] < 0xD800 ∨ 0xDFFF < numeral 16 [a, b, c, d]) :
    CharText ['\\', 'u', a, b, c, d] (Char.ofNat (numeral 16 [a, b, c, d]))
  | pair {a b c d a' b' c' d' : Char} (hhex : ∀ x ∈ [a, b, c, d], isHexDigit x = true)
    (hhex' : ∀ x ∈ [a', b', c', d'], isHexDigit x = true)
    (hhigh : 0xD800 ≤ numeral 16 [a, b, c, d] ∧ numeral 16 [a, b, c, d] ≤ 0xDBFF)
    (hlow : 0xDC00 ≤ numeral 16 [a', b', c', d'] ∧ numeral 16 [a', b', c', d'] ≤ 0xDFFF) :
    CharText ['\\', 'u', a, b, c, d, '\\', 'u', a', b', c', d']
      (Char.ofNat (0x10000 + (numeral 16 [a, b, c, d] - 0xD800) * 1024 +
        (numeral 16 [a', b', c', d'] - 0xDC00)))

/-- The ways to write the characters of a string one after another. -/
inductive StringText : List Char → List Char → Prop where
  | nil : StringText [] []
  | cons {t ts cs : List Char} {c : Char} (hc : CharText t c) (hcs : StringText ts cs) :
    StringText (t ++ ts) (c :: cs)

def Quoted (t : List Char) (s : String) : Prop :=
  ∃ inner, StringText inner s.toList ∧ t = '"' :: (inner ++ ['"'])

/-! ### Numbers -/

def Digits (ds : List Char) : Prop := ds ≠ [] ∧ ∀ c ∈ ds, isDigit c = true

/-- The parts of a number: a minus sign, if any; digits, of which the first is zero only if it is
the only one; digits behind a point, if any; and a power of ten, if any. -/
structure NumberParts where
  minus : Bool
  whole : List Char
  fraction : Option (List Char)
  power : Option (Char × List Char × List Char)
  whole_digits : Digits whole
  whole_zero : whole.head? = some '0' → whole = ['0']
  fraction_digits : ∀ ds ∈ fraction, Digits ds
  power_digits : ∀ p ∈ power, (p.1 = 'e' ∨ p.1 = 'E') ∧ p.2.1 ∈ [[], ['+'], ['-']] ∧ Digits p.2.2

namespace NumberParts

variable (p : NumberParts)

def fractionText : List Char := (p.fraction.map fun ds => '.' :: ds).getD []

def powerText : List Char := (p.power.map fun (e, sign, ds) => e :: (sign ++ ds)).getD []

def body : List Char := p.whole ++ (p.fractionText ++ p.powerText)

def text : List Char := if p.minus then '-' :: p.body else p.body

end NumberParts

/-! ### Blanks and comments -/

/-- What may stand between the parts of a document: blanks, comments to the end of a line, and
comments between marks. -/
inductive Gap : List Char → Prop where
  | nil : Gap []
  | blank {c : Char} {s : List Char} (hc : c ∈ [' ', '\t', '\n', '\r']) (h : Gap s) : Gap (c :: s)
  | line {comment s : List Char} (hc : '\n' ∉ comment) (h : Gap ('\n' :: s)) :
    Gap ('/' :: '/' :: (comment ++ '\n' :: s))
  | block {comment s : List Char} (hc : ¬['*', '/'] <:+: comment) (h : Gap s) :
    Gap ('/' :: '*' :: (comment ++ '*' :: '/' :: s))

/-- What may stand behind a document: a comment at the very end needs no end of its line. -/
inductive Ending : List Char → Prop where
  | gap {g : List Char} (h : Gap g) : Ending g
  | line {g comment : List Char} (h : Gap g) (hc : '\n' ∉ comment) :
    Ending (g ++ '/' :: '/' :: comment)

/-! ### Documents -/

/-- A JSON document. -/
inductive Document where
  | null
  | bool (b : Bool)
  | number (p : NumberParts)
  | string (s : String)
  | array (items : List Document)
  | object (members : List (String × Document))

mutual

def Document.SpelledBy : Document → List Char → Prop
  | .null, t => t = "null".toList
  | .bool b, t => t = (if b then "true" else "false").toList
  | .number p, t => t = p.text
  | .string s, t => Quoted t s
  | .array xs, t =>
    ∃ u, t = '[' :: (u ++ [']']) ∧ (xs = [] ∧ Gap u ∨ ItemsSpelledBy xs (',' :: u))
  | .object ms, t =>
    ∃ u, t = '\x7b' :: (u ++ ['\x7d']) ∧ (ms = [] ∧ Gap u ∨ MembersSpelledBy ms (',' :: u))

/-- The texts that spell items, with a comma before each. -/
def ItemsSpelledBy : List Document → List Char → Prop
  | [], t => Gap t
  | x :: xs, t => ∃ g g' u rest, t = g ++ ',' :: (g' ++ (u ++ rest)) ∧ Gap g ∧ Gap g' ∧
      x.SpelledBy u ∧ ItemsSpelledBy xs rest

/-- The texts that spell members, with a comma before each. -/
def MembersSpelledBy : List (String × Document) → List Char → Prop
  | [], t => Gap t
  | (k, x) :: ms, t => ∃ g g' key g₁ g₂ u rest,
      t = g ++ ',' :: (g' ++ (key ++ (g₁ ++ ':' :: (g₂ ++ (u ++ rest))))) ∧ Gap g ∧ Gap g' ∧
        Quoted key k ∧ Gap g₁ ∧ Gap g₂ ∧ x.SpelledBy u ∧ MembersSpelledBy ms rest

end

/-- A text that spells a document, with blanks and comments around it. -/
def Document.FileText (d : Document) (text : List Char) : Prop :=
  ∃ g t e, text = g ++ (t ++ e) ∧ Gap g ∧ d.SpelledBy t ∧ Ending e

end FleetScript.Json
