import FleetScript.Text.Normal.Classes
import FleetScript.Text.Normal.Composites

/-!
The composed normal form of a text: every character is taken apart, the marks on one character are
put in the order of their classes, and what can be put together is.
-/

namespace FleetScript.Text.Normal

/-! ### Korean syllables -/

/-- The first syllable; syllables stand in the order of their three letters. -/
def syllableBase : Nat := 0xAC00

/-- The letters that a syllable stands for. -/
def lettersOf? (n : Nat) : Option (List Char) :=
  if syllableBase ≤ n ∧ n < syllableBase + 11172 then
    let i := n - syllableBase
    let first := Char.ofNat (0x1100 + i / 588)
    let second := Char.ofNat (0x1161 + i % 588 / 28)
    some (if i % 28 = 0 then [first, second] else [first, second, Char.ofNat (0x11A7 + i % 28)])
  else none

/-- The syllable of two letters, or of a syllable without a third letter and one. -/
def syllable? (a b : Nat) : Option Nat :=
  if 0x1100 ≤ a ∧ a < 0x1113 ∧ 0x1161 ≤ b ∧ b < 0x1176 then
    some (syllableBase + ((a - 0x1100) * 21 + (b - 0x1161)) * 28)
  else if syllableBase ≤ a ∧ a < syllableBase + 11172 ∧ (a - syllableBase) % 28 = 0 ∧
      0x11A7 < b ∧ b < 0x11C3 then
    some (a + (b - 0x11A7))
  else none

/-! ### Taking apart -/

/-- The characters that a character stands for, taken apart to a depth. -/
def apart : Nat → Char → List Char
  | 0, c => [c]
  | depth + 1, c =>
    match lettersOf? c.toNat with
    | some letters => letters
    | none =>
      match composites.find? (·.1 = c.toNat) with
      | some (_, a, b) => apart depth (Char.ofNat a) ++ [Char.ofNat b]
      | none => [c]

/-- A text taken apart. No composite stands for composites more than three deep. -/
def decompose (s : List Char) : List Char :=
  s.flatMap fun c => if c.toNat < 0xC0 then [c] else apart 4 c

/-! ### Order of marks -/

/-- A character put behind a text given in reverse, before the marks of higher classes. -/
def putMark (c : Char) : List Char → List Char
  | [] => [c]
  | d :: rest =>
    if 0 < combiningClass c && combiningClass c < combiningClass d then d :: putMark c rest
    else c :: d :: rest

/-- A text with marks in the order of their classes. -/
def order (s : List Char) : List Char := (s.foldl (fun l c => putMark c l) []).reverse

/-! ### Putting together -/

/-- The character that stands for two. -/
def composite? (a b : Char) : Option Char :=
  match syllable? a.toNat b.toNat with
  | some n => some (Char.ofNat n)
  | none =>
    (composites.find? fun p => p.2.1 = a.toNat && p.2.2 = b.toNat).map fun p => Char.ofNat p.1

/-- A text while it is put together: what is done, in reverse; the last character that marks go
with; and the marks on it that stayed, in reverse. -/
structure Joint where
  done : List Char := []
  base : Option Char := none
  marks : List Char := []

/-- Whether a character may be put together with the base: no mark between them has its class or a
higher one. -/
def Joint.reaches (j : Joint) (c : Char) : Bool :=
  match j.marks with
  | [] => true
  | m :: _ => combiningClass m < combiningClass c

/-- What is done, with the base and its marks, in reverse. -/
def Joint.flush (j : Joint) : List Char := j.marks ++ j.base.toList ++ j.done

def Joint.take (j : Joint) (c : Char) : Joint :=
  match j.base.bind fun b => if j.reaches c then composite? b c else none with
  | some b => { j with base := some b }
  | none =>
    if combiningClass c = 0 then { done := j.flush, base := some c }
    else { j with marks := c :: j.marks }

def compose (s : List Char) : List Char := (s.foldl Joint.take {}).flush.reverse

def normal (s : List Char) : List Char := compose (order (decompose s))

example : normal ['e', '\u0301', 'x'] = ['é', 'x'] := by decide +kernel
example : normal ['ᄒ', 'ᅡ', 'ᆫ'] = ['한'] := by decide +kernel

end FleetScript.Text.Normal
