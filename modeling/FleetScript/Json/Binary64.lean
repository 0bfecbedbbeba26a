import FleetScript.Text.Blank
import FleetScript.Text.Hex

/-!
Binary floating-point numbers of 64 bits, in exact arithmetic on natural numbers: rounding a
quotient to the nearest one, products and quotients of them, and the shortest decimal text that
is read back as the same number.
-/

namespace FleetScript.Json

open Text

/-! ### Numbers -/

/-- The finite number `mantissa · 2 ^ exponent`, or its negative. The mantissa has at most 53
bits, and as many as the least exponent, -1074, allows. -/
structure Binary64 where
  negative : Bool := false
  mantissa : Nat
  exponent : Int
  deriving DecidableEq

namespace Binary64

/-- The quotient rounded to the nearest natural number, half way to the even one. -/
def roundDiv (n d : Nat) : Nat :=
  let q := n / d
  let r := n % d
  if d < 2 * r ∨ (2 * r = d ∧ q % 2 = 1) then q + 1 else q

theorem roundDiv_mul {d : Nat} (h : 0 < d) (q : Nat) : roundDiv (q * d) d = q := by
  simp [roundDiv, Nat.mul_div_cancel _ h]
  omega

/-- The quotient `n / (d · 2 ^ e)` as numerator and denominator. -/
def scaled (n d : Nat) (e : Int) : Nat × Nat :=
  match e with
  | .ofNat k => (n, d * Nat.pow 2 k)
  | .negSucc k => (n * Nat.pow 2 (k + 1), d)

/-- The greatest `e` with `2 ^ e ≤ n / d`, for positive numbers. -/
def floorLog2 (n d : Nat) : Int :=
  let e : Int := (Nat.log2 n : Int) - Nat.log2 d
  let (a, b) := scaled n d e
  if b ≤ a then e else e - 1

/-- The number nearest to `n / d`, or `none` beyond the greatest. -/
def ofRatio? (n d : Nat) : Option Binary64 :=
  if n = 0 then some { mantissa := 0, exponent := 0 }
  else
    let e := max (floorLog2 n d - 52) (-1074)
    let (a, b) := scaled n d e
    let m := roundDiv a b
    let (m, e) := if m = 0x20000000000000 then (0x10000000000000, e + 1) else (m, e)
    if 971 < e then none else some { mantissa := m, exponent := e }

/-- The value as numerator and denominator, without sign. -/
def ratio (x : Binary64) : Nat × Nat :=
  match x.exponent with
  | .ofNat k => (x.mantissa * Nat.pow 2 k, 1)
  | .negSucc k => (x.mantissa, Nat.pow 2 (k + 1))

/-- The rounded product of the magnitudes, or `none` beyond the greatest number. -/
def mul? (x y : Binary64) : Option Binary64 :=
  ofRatio? (x.ratio.1 * y.ratio.1) (x.ratio.2 * y.ratio.2)

/-- The rounded quotient of the magnitudes. -/
def div? (x y : Binary64) : Option Binary64 :=
  ofRatio? (x.ratio.1 * y.ratio.2) (x.ratio.2 * y.ratio.1)

/-! ### Decimal text -/

/-- Whether a number lies where it is read back as `x`: half way to the neighbours of `x`, the
ends included when the mantissa is even. The number is `a / b`. -/
def readsBack (x : Binary64) (a b : Nat) : Bool :=
  let (n, d) := scaled a b (x.exponent - 2)
  let low := if x.mantissa = 0x10000000000000 ∧ x.exponent ≠ -1074 then 4 * x.mantissa - 1
    else 4 * x.mantissa - 2
  let high := 4 * x.mantissa + 2
  if x.mantissa % 2 = 0 then low * d ≤ n && n ≤ high * d else low * d < n && n < high * d

/-- The value `m · 10 ^ k` as numerator and denominator. -/
def decimalRatio (m : Nat) : Int → Nat × Nat
  | .ofNat k => (m * Nat.pow 10 k, 1)
  | .negSucc k => (m, Nat.pow 10 (k + 1))

/-- The greatest `e` with `10 ^ e ≤ n / d`, for a positive quotient. -/
def floorLog10 (n d : Nat) : Int :=
  if d ≤ n then ((Nat.toDigits 10 (n / d)).length : Int) - 1
  else
    let k := (List.range 400).find? (fun k => d ≤ n * Nat.pow 10 (k + 1))
    Int.negSucc (k.getD 0)

/-- The multiple of `10 ^ k` nearest to `x` that is read back as `x`, if there is one. -/
def onGrid? (x : Binary64) (k : Int) : Option Nat :=
  let (n, d) := x.ratio
  let (a, b) : Nat × Nat := match k with
    | .ofNat j => (n, d * Nat.pow 10 j)
    | .negSucc j => (n * Nat.pow 10 (j + 1), d)
  let near := roundDiv a b
  let far := if near = a / b then near + 1 else a / b
  [near, far].find? fun m =>
    let (p, q) := decimalRatio m k
    readsBack x p q

/-- The fewest digits that are read back as `x`, and the power of ten of the last. -/
def shortest (x : Binary64) : Nat × Int :=
  let (n, d) := x.ratio
  let e := floorLog10 n d
  let found := (List.range 17).findSome? fun (i : Nat) =>
    let k : Int := e - i
    (onGrid? x k).map fun m => (m, k)
  found.getD (0, 0)

/-- Digits and the power of ten of the last, without zeros at the end. -/
def dropZeros (m : Nat) (k : Int) : Nat → Nat × Int
  | 0 => (m, k)
  | fuel + 1 => if m ≠ 0 ∧ m % 10 = 0 then dropZeros (m / 10) (k + 1) fuel else (m, k)

/-- A power of ten in the text of a number, always with a sign. -/
def exponentText (e : Int) : String := (if e < 0 then "e-" else "e+") ++ decimal e.natAbs

/-- The text of a number: positional from the fifth place after the point to the sixteenth
before it, with at least one place after the point, and else with a power of ten. -/
def text (x : Binary64) : String :=
  let sign := if x.negative then "-" else ""
  if x.mantissa = 0 then sign ++ "0.0"
  else
    let (m, k) := shortest x
    let (m, k) := dropZeros m k 20
    let ds := Nat.toDigits 10 m
    let e : Int := k + ds.length - 1
    let body :=
      if 0 ≤ k ∧ e ≤ 15 then ds ++ List.replicate k.toNat '0' ++ ['.', '0']
      else if 0 ≤ e ∧ e ≤ 15 then ds.take (e.toNat + 1) ++ '.' :: ds.drop (e.toNat + 1)
      else if -5 ≤ e ∧ e < 0 then ['0', '.'] ++ List.replicate (-e - 1).toNat '0' ++ ds
      else
        ds.take 1 ++ (if ds.length = 1 then [] else '.' :: ds.drop 1) ++ (exponentText e).toList
    sign ++ String.ofList body

end Binary64

end FleetScript.Json
