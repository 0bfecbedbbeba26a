import FleetScript.Text.Hex
import FleetScript.Text.Utf8

/-!
Percent coding: a byte may be written as a percent sign and two hexadecimal digits. Reading
leaves every percent sign alone that two such digits do not follow. Form coding writes a space
as a plus sign besides.
-/

namespace FleetScript.Text

/-! ### Reading -/

/-- The value of a hexadecimal digit given as a byte. -/
def hexByte? (b : UInt8) : Option Nat := hexValue? (Char.ofNat b.toNat)

def percentDecode : Bytes → Bytes
  | [] => []
  | 0x25 :: a :: b :: rest =>
    match hexByte? a, hexByte? b with
    | some x, some y => UInt8.ofNat (16 * x + y) :: percentDecode rest
    | _, _ => 0x25 :: percentDecode (a :: b :: rest)
  | b :: rest => b :: percentDecode rest

/-- The text behind a percent coded one, read as UTF-8 with replacement characters. -/
def percentDecodeText (s : List Char) : List Char :=
  decodeLossyChars (percentDecode (encode s))

/-- The text behind a form coded one: plus signs are spaces. -/
def formDecodeText (s : List Char) : List Char :=
  percentDecodeText (s.map fun c => if c = '+' then ' ' else c)

/-! ### Writing -/

def percentByte (b : UInt8) : List Char := '%' :: byteHex b

/-- The text with the UTF-8 bytes of each character that `keep` does not hold percent coded. -/
def percentEncode (keep : Char → Bool) (s : List Char) : List Char :=
  s.flatMap fun c => if keep c then [c] else (String.utf8EncodeChar c).flatMap percentByte

theorem percentEncode_of_keep {keep : Char → Bool} {s : List Char} (h : ∀ c ∈ s, keep c) :
    percentEncode keep s = s := by
  induction s with
  | nil => rfl
  | cons c rest ih =>
    have hc : keep c = true := h c (by simp)
    have hr := ih fun x hx => h x (by simp [hx])
    unfold percentEncode at hr ⊢
    simp [List.flatMap_cons, hc, hr]

end FleetScript.Text
