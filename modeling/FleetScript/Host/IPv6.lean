import FleetScript.Text.Blank
import FleetScript.Text.Hex

/-!
IPv6 addresses: read from eight groups of hexadecimal digits, of which one run may be left out
as `::` and the last two may be given as a dotted IPv4 address, and written in the shortest
form, with the first of the longest runs of zeros left out.
-/

namespace FleetScript.Host

open Text

/-- An IPv6 address: eight pieces of 16 bits. -/
structure IPv6 where
  pieces : List Nat
  length_pieces : pieces.length = 8 := by simp
  deriving DecidableEq

namespace IPv6

/-! ### Reading -/

def piece? (s : List Char) : Option Nat :=
  if s ≠ [] ∧ s.length ≤ 4 ∧ s.all isHexDigit then some (numeral 16 s) else none

/-- A byte in decimal digits without a leading zero. -/
def octet? (s : List Char) : Option Nat :=
  if s ≠ [] ∧ s.all isDigit ∧ (s.length = 1 ∨ s.head? ≠ some '0') ∧ numeral 10 s < 256 then
    some (numeral 10 s)
  else none

/-- The two pieces of a dotted IPv4 address. -/
def dotted? (s : List Char) : Option (List Nat) :=
  match (fields '.' s).map octet? with
  | [some a, some b, some c, some d] => some [256 * a + b, 256 * c + d]
  | _ => none

/-- The pieces of groups; where `ends` holds the last group may be dotted. -/
def groups? (ends : Bool) : List (List Char) → Option (List Nat)
  | [] => some []
  | [g] =>
    match piece? g with
    | some p => some [p]
    | none => if ends then dotted? g else none
  | g :: gs => do
    let p ← piece? g
    let ps ← groups? ends gs
    pure (p :: ps)

/-- The pieces of a text between colons; the empty text has none. -/
def run? (ends : Bool) (s : List Char) : Option (List Nat) :=
  if s.isEmpty then some [] else groups? ends (fields ':' s)

/-- The texts before and after the first `::`. -/
def cutGap : List Char → Option (List Char × List Char)
  | [] => none
  | ':' :: ':' :: rest => some ([], rest)
  | c :: rest => (cutGap rest).map fun (a, b) => (c :: a, b)

/-- The address of these pieces, if they are eight. -/
def ofPieces? (ps : List Nat) : Option IPv6 :=
  if h : ps.length = 8 then some ⟨ps, h⟩ else none

/-- The address that a text spells; `::` stands for at least one zero. -/
def read? (s : List Char) : Option IPv6 :=
  match cutGap s with
  | none => (groups? true (fields ':' s)).bind ofPieces?
  | some (before, after) => do
    let high ← run? false before
    let low ← run? true after
    if high.length + low.length ≤ 7 then
      ofPieces? (high ++ List.replicate (8 - high.length - low.length) 0 ++ low)
    else none

/-! ### Writing -/

def leadingZeros (ps : List Nat) : Nat := (ps.takeWhile (· = 0)).length

/-- The place and the length of the first of the longest runs of zeros. -/
def longestGap (ps : List Nat) : Nat × Nat :=
  (List.range ps.length).foldl
    (fun best i =>
      if best.2 < leadingZeros (ps.drop i) then (i, leadingZeros (ps.drop i)) else best)
    (0, 0)

def writePieces (ps : List Nat) : String := joinWith ":" (ps.map fun p => String.ofList (hex p))

/-- The shortest text of an address; a single zero is not left out. -/
def write (a : IPv6) : String :=
  let gap := longestGap a.pieces
  if gap.2 < 2 then writePieces a.pieces
  else writePieces (a.pieces.take gap.1) ++ "::" ++ writePieces (a.pieces.drop (gap.1 + gap.2))

example : (read? "2001:DB8:0:0:1:0:0:1".toList).map write = some "2001:db8::1:0:0:1" := by
  decide +kernel
example : (read? "::ffff:1.2.3.4".toList).map write = some "::ffff:102:304" := by decide +kernel
example : read? "1::2::3".toList = none := by decide +kernel

end IPv6

end FleetScript.Host
