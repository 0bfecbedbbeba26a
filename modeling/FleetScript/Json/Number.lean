import FleetScript.Json.Binary64

/-!
Numbers of JSON texts: whole numbers that fit 64 bits, and all others as binary floating-point
numbers.
-/

namespace FleetScript.Json

open Text

/-- A number: a natural number below `2 ^ 64`, the negative of a positive one up to `2 ^ 63`, or
a binary floating-point number. -/
inductive Number where
  | natural (n : Nat)
  | negative (n : Nat)
  | real (x : Binary64)
  deriving DecidableEq

namespace Number

/-- The greatest natural number that is kept as such. -/
def maxNatural : Nat := 0xFFFFFFFFFFFFFFFF

/-- A number without sign given by the digits before and after the point and the power of ten. -/
structure Decimal where
  whole : List Char
  fraction : List Char := []
  power : Int := 0

/-- The longest start of the digits whose number is at most `maxNatural`, going on from `n`, and
the digits after it. -/
def fill (n : Nat) : List Char → Nat × List Char
  | [] => (n, [])
  | c :: rest =>
    let m := n * 10 + numeral 10 [c]
    if m ≤ maxNatural then fill m rest else (n, c :: rest)

/-- The significant digits that fit 64 bits as a number, and the power of ten of the last. Digits
that do not fit count nothing in the fraction, and a place each before it. -/
def Decimal.significant (d : Decimal) : Nat × Int :=
  let (n, left) := fill 0 d.whole
  let (m, lost) := fill n d.fraction
  (m, (left.length : Int) - (d.fraction.length - lost.length : Nat))

/-- A power of ten as a binary floating-point number, for powers up to 308. -/
def tenPower (k : Nat) : Binary64 :=
  (Binary64.ofRatio? (Nat.pow 10 k) 1).getD { mantissa := 0, exponent := 0 }

/-- The binary number for `m · 10 ^ k`: the digits are rounded, and then multiplied or divided by
the power of ten, in steps of `10 ^ 308` for great negative powers. There is none beyond the
greatest number. -/
def round? (m : Nat) (k : Int) : Option Binary64 :=
  (Binary64.ofRatio? m 1).bind fun x =>
    if m = 0 then some x
    else
      match k with
      | .ofNat j => if j ≤ 308 then x.mul? (tenPower j) else none
      | .negSucc j =>
        let down (x : Binary64) (j : Nat) : Option Binary64 := x.div? (tenPower j)
        let n := j + 1
        if n ≤ 308 then down x n
        else (down x 308).bind fun x =>
          if n - 308 ≤ 308 then down x (n - 308) else some { mantissa := 0, exponent := 0 }

/-- The number of a decimal text: whole numbers within range are kept whole, and all others are
rounded. There is none beyond the greatest binary number. A zero with a minus sign is no whole
number. -/
def ofDecimal? (minus isWhole : Bool) (d : Decimal) : Option Number :=
  let n := numeral 10 d.whole
  if isWhole && n ≤ maxNatural && (!minus || (0 < n && n ≤ 0x8000000000000000)) then
    some (if minus then .negative n else .natural n)
  else
    let (m, k) := d.significant
    (round? m (k + d.power)).map fun x => .real { x with negative := minus }

def text : Number → String
  | natural n => decimal n
  | negative n => "-" ++ decimal n
  | real x => x.text

end Number

end FleetScript.Json
