import FleetScript.Text.Blank
import FleetScript.Text.Hex

/-!
IPv4 addresses in the liberal spelling of web addresses: one to four numbers between dots, each
decimal, octal with a leading `0`, or hexadecimal with a leading `0x`, of which the last fills
all bytes that the others leave.
-/

namespace FleetScript.Host.IPv4

open Text

/-! ### Numbers -/

/-- The number that one part spells, if it spells one. -/
def number? (s : List Char) : Option Nat :=
  let digits (base : Nat) (ok : Char → Bool) (ds : List Char) : Option Nat :=
    if ds.all ok then some (numeral base ds) else none
  match s with
  | [] => none
  | '0' :: 'x' :: ds => digits 16 isHexDigit ds
  | '0' :: 'X' :: ds => digits 16 isHexDigit ds
  | '0' :: d :: ds => digits 8 (fun c => '0' ≤ c && c ≤ '7') (d :: ds)
  | ds => digits 10 isDigit ds

/-- The parts of a dotted name; one dot at the end adds none. -/
def parts (s : List Char) : List (List Char) :=
  let all := fields '.' s
  if all.getLast? = some [] then all.dropLast else all

/-- Whether a dotted name must be read as an address: its last part is all digits or spells a
number. -/
def isNumeric (s : List Char) : Bool :=
  match (parts s).getLast? with
  | none => false
  | some last => (!last.isEmpty && last.all isDigit) || (number? last).isSome

/-! ### Addresses -/

/-- The address whose parts are these numbers: each but the last is a byte, and the last is less
than what is left to fill. -/
def ofNumbers? (ns : List Nat) : Option Nat :=
  match ns.reverse with
  | [] => none
  | last :: high =>
    if high.length ≤ 3 ∧ last < Nat.pow 256 (4 - high.length) ∧ high.all (· < 256) then
      some (high.reverse.foldl (fun n b => n * 256 + b) 0 * Nat.pow 256 (4 - high.length) + last)
    else none

def read? (s : List Char) : Option Nat := do
  let ns ← (parts s).mapM number?
  ofNumbers? ns

def write (n : Nat) : String :=
  joinWith "." [decimal (n / 0x1000000 % 256), decimal (n / 0x10000 % 256),
    decimal (n / 256 % 256), decimal (n % 256)]

example : (read? "10.1".toList).map write = some "10.0.0.1" := by decide +kernel
example : (read? "0x7f.1".toList).map write = some "127.0.0.1" := by decide +kernel
example : read? "1.2.3.256".toList = none := by decide +kernel

end FleetScript.Host.IPv4
