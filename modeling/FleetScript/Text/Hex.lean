/-!
Digits and numbers as text: decimal and hexadecimal digits, their values, and the numbers that
lists of them spell.
-/

namespace FleetScript.Text

/-! ### Reading -/

def isDigit (c : Char) : Bool := '0' ≤ c && c ≤ '9'

def isLetter (c : Char) : Bool := ('a' ≤ c && c ≤ 'z') || ('A' ≤ c && c ≤ 'Z')

theorem toNat_of_isLetter_or_isDigit {c : Char} (h : isLetter c ∨ isDigit c) :
    (48 ≤ c.toNat ∧ c.toNat ≤ 57) ∨ (65 ≤ c.toNat ∧ c.toNat ≤ 90) ∨
      (97 ≤ c.toNat ∧ c.toNat ≤ 122) := by
  have hle {x y : Char} (h : x ≤ y) : x.toNat ≤ y.toNat := h
  simp only [isLetter, isDigit, Bool.or_eq_true, Bool.and_eq_true, decide_eq_true_eq] at h
  rcases h with (⟨h, h'⟩ | ⟨h, h'⟩) | ⟨h, h'⟩
  · exact .inr (.inr ⟨hle h, hle h'⟩)
  · exact .inr (.inl ⟨hle h, hle h'⟩)
  · exact .inl ⟨hle h, hle h'⟩

/-- The value of a hexadecimal digit of either case. -/
def hexValue? (c : Char) : Option Nat :=
  if '0' ≤ c && c ≤ '9' then some (c.toNat - 48)
  else if 'a' ≤ c && c ≤ 'f' then some (c.toNat - 87)
  else if 'A' ≤ c && c ≤ 'F' then some (c.toNat - 55)
  else none

def isHexDigit (c : Char) : Bool := (hexValue? c).isSome

/-- The number that digits spell in a base; what is no digit counts nothing. -/
def numeral (base : Nat) (digits : List Char) : Nat :=
  digits.foldl (fun n c => n * base + (hexValue? c).getD 0) 0

@[simp] theorem numeral_nil (base : Nat) : numeral base [] = 0 := rfl

theorem numeral_concat (base : Nat) (digits : List Char) (c : Char) :
    numeral base (digits ++ [c]) = numeral base digits * base + (hexValue? c).getD 0 := by
  simp [numeral]

/-- The letters of the Latin alphabet in lower case, and all else as it is. -/
def lowerAscii (s : List Char) : List Char := s.map Char.toLower

/-! ### Writing -/

/-- The hexadecimal digit, in lower case, of a number below 16. -/
def hexDigit (n : Nat) : Char := if n < 10 then Char.ofNat (48 + n) else Char.ofNat (87 + n)

def hex (n : Nat) : List Char := Nat.toDigits 16 n

def byteHex (b : UInt8) : List Char :=
  [(hexDigit (b.toNat / 16)).toUpper, (hexDigit (b.toNat % 16)).toUpper]

def decimal (n : Nat) : String := String.ofList (Nat.toDigits 10 n)

end FleetScript.Text
