/-!
Punycode: a text of any characters as letters, digits and hyphens. The plain characters come
first, and the others follow as the steps of a counter that walks over all pairs of a code
point and a place, each step written in digits of a base that varies with the place and with
the steps before it.
-/

namespace FleetScript.Text.Punycode

/-! ### Digits -/

/-- The digit of a value below 36: `a` to `z`, then `0` to `9`. -/
def digit (n : Nat) : Char := if n < 26 then Char.ofNat (97 + n) else Char.ofNat (22 + n)

def value? (c : Char) : Option Nat :=
  if 'a' ≤ c ∧ c ≤ 'z' then some (c.toNat - 97)
  else if 'A' ≤ c ∧ c ≤ 'Z' then some (c.toNat - 65)
  else if '0' ≤ c ∧ c ≤ '9' then some (c.toNat - 22)
  else none

/-- The digits below which a number ends, at weight position `k` under a bias. -/
def threshold (k bias : Nat) : Nat := max 1 (min 26 (k - bias))

/-- Divides by 35 until the number is at most 455, and counts 36 for each division. -/
def damped (n : Nat) : Nat × Nat :=
  if 455 < n then ((damped (n / 35)).1, (damped (n / 35)).2 + 36) else (n, 0)
termination_by n
decreasing_by all_goals exact Nat.div_lt_self (by omega) (by omega)

/-- The bias after a step: large steps make the next digits come later. -/
def adapt (step points : Nat) (first : Bool) : Nat :=
  let s := if first then step / 700 else step / 2
  let d := damped (s + s / points)
  d.2 + 36 * d.1 / (d.1 + 38)

/-! ### Writing -/

def writeStep (bias k n : Nat) : List Char :=
  let t := threshold k bias
  if n < t then [digit n]
  else digit (t + (n - t) % (36 - t)) :: writeStep bias (k + 36) ((n - t) / (36 - t))
termination_by n
decreasing_by
  have h : 1 ≤ threshold k bias := by unfold threshold; omega
  have := Nat.div_le_self (n - threshold k bias) (36 - threshold k bias)
  omega

/-- What has been written so far: the digits, the step in progress, the bias, and the number of
characters placed. -/
structure Writer where
  out : List Char
  step : Nat
  bias : Nat
  placed : Nat

/-- Walks past one character of the text while the counter stands at code point `m`. -/
def Writer.pass (basic m : Nat) (w : Writer) (c : Char) : Writer :=
  if c.toNat < m then { w with step := w.step + 1 }
  else if c.toNat = m then
    { out := w.out ++ writeStep w.bias 36 w.step
      step := 0
      bias := adapt w.step (w.placed + 1) (w.placed == basic)
      placed := w.placed + 1 }
  else w

/-- Writes the characters at the given code points, which increase; the counter has reached code
point `n`. -/
def writeAll (text : List Char) (basic : Nat) : Nat → List Nat → Writer → Writer
  | _, [], w => w
  | n, m :: rest, w =>
    let w := { w with step := w.step + (m - n) * (w.placed + 1) }
    let w := text.foldl (Writer.pass basic m) w
    writeAll text basic (m + 1) rest { w with step := w.step + 1 }

/-- A number put into an increasing list, once. -/
def place (n : Nat) : List Nat → List Nat
  | [] => [n]
  | m :: rest => if n < m then n :: m :: rest else if n = m then m :: rest else m :: place n rest

def write (text : List Char) : List Char :=
  let basic := text.filter fun c => c.toNat < 128
  let others := (text.filter fun c => 128 ≤ c.toNat).foldl (fun l c => place c.toNat l) []
  let w := writeAll text basic.length 128 others ⟨[], 0, 72, basic.length⟩
  (if basic.isEmpty then [] else basic ++ ['-']) ++ w.out

/-! ### Reading -/

/-- The step that the digits at the start of a text spell, and the text after it. -/
def readStep? (bias : Nat) : Nat → Nat → Nat → List Char → Option (Nat × List Char)
  | _, _, _, [] => none
  | k, weight, n, c :: rest => do
    let d ← value? c
    let n := n + d * weight
    let t := threshold k bias
    if d < t then pure (n, rest) else readStep? bias (k + 36) (weight * (36 - t)) n rest

theorem length_lt_of_readStep? {bias k weight n m : Nat} {s rest : List Char}
    (h : readStep? bias k weight n s = some (m, rest)) : rest.length < s.length := by
  induction s generalizing k weight n with
  | nil => simp [readStep?] at h
  | cons c s ih =>
    rw [readStep?] at h
    simp only [Option.bind_eq_bind, Option.bind_eq_some_iff] at h
    obtain ⟨d, -, h⟩ := h
    split at h
    · simp_all
    · exact Nat.lt_succ_of_lt (ih h)

/-- The text so far with the characters that the digits place in it. -/
def readAll? (s : List Char) (bias i : Nat) (n : Nat) (text : List Char) : Option (List Char) :=
  if s.isEmpty then some text
  else
    match _h : readStep? bias 36 1 0 s with
    | none => none
    | some (step, rest) =>
      let points := text.length + 1
      let n' := n + (i + step) / points
      let i' := (i + step) % points
      if n'.isValidChar then
        readAll? rest (adapt step points (i == 0)) (i' + 1) n'
          (text.take i' ++ Char.ofNat n' :: text.drop i')
      else none
termination_by s.length
decreasing_by exact length_lt_of_readStep? ‹_›

end FleetScript.Text.Punycode
