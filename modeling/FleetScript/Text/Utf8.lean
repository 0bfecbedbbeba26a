/-!
Texts as bytes. `encode` writes UTF-8, `decode?` reads it and refuses anything else, and
`decodeLossy` reads any bytes, with one replacement character for each longest piece that
starts like a character and does not go on like one.
-/

namespace FleetScript.Text

abbrev Bytes := List UInt8

def encode (s : List Char) : Bytes := s.flatMap String.utf8EncodeChar

@[simp] theorem encode_nil : encode [] = [] := rfl

@[simp] theorem encode_append (s t : List Char) : encode (s ++ t) = encode s ++ encode t :=
  List.flatMap_append

def toBytes (s : String) : Bytes := encode s.toList

/-- The string with this UTF-8 form, if the bytes are one. -/
def decode? (bytes : Bytes) : Option String := String.fromUTF8? ⟨bytes.toArray⟩

/-! ### Reading any bytes -/

/-- The replacement character. -/
def replacement : Char := '\uFFFD'

def isContinuation (b : UInt8) : Bool := 0x80 ≤ b && b ≤ 0xBF

/-- The second bytes that may follow a lead byte of three: they rule out longer forms of what
two bytes can hold, and surrogates. -/
def isSecondOfThree (lead b : UInt8) : Bool :=
  if lead = 0xE0 then 0xA0 ≤ b && b ≤ 0xBF
  else if lead = 0xED then 0x80 ≤ b && b ≤ 0x9F
  else isContinuation b

/-- The second bytes that may follow a lead byte of four: they rule out longer forms of what
three bytes can hold, and code points beyond the last. -/
def isSecondOfFour (lead b : UInt8) : Bool :=
  if lead = 0xF0 then 0x90 ≤ b && b ≤ 0xBF
  else if lead = 0xF4 then 0x80 ≤ b && b ≤ 0x8F
  else isContinuation b

/-- The low six bits of a continuation byte. -/
def payload (b : UInt8) : Nat := b.toNat % 64

def decodeLossyChars : Bytes → List Char
  | [] => []
  | a :: rest =>
    if a < 0x80 then Char.ofNat a.toNat :: decodeLossyChars rest
    else if 0xC2 ≤ a && a ≤ 0xDF then
      match rest with
      | [] => [replacement]
      | b :: rest' =>
        if isContinuation b then
          Char.ofNat (a.toNat % 32 * 64 + payload b) :: decodeLossyChars rest'
        else replacement :: decodeLossyChars (b :: rest')
    else if 0xE0 ≤ a && a ≤ 0xEF then
      match rest with
      | [] => [replacement]
      | b :: rest' =>
        if isSecondOfThree a b then
          match rest' with
          | [] => [replacement]
          | c :: rest'' =>
            if isContinuation c then
              Char.ofNat ((a.toNat % 16 * 64 + payload b) * 64 + payload c)
                :: decodeLossyChars rest''
            else replacement :: decodeLossyChars (c :: rest'')
        else replacement :: decodeLossyChars (b :: rest')
    else if 0xF0 ≤ a && a ≤ 0xF4 then
      match rest with
      | [] => [replacement]
      | b :: rest' =>
        if isSecondOfFour a b then
          match rest' with
          | [] => [replacement]
          | c :: rest'' =>
            if isContinuation c then
              match rest'' with
              | [] => [replacement]
              | d :: rest''' =>
                if isContinuation d then
                  Char.ofNat (((a.toNat % 8 * 64 + payload b) * 64 + payload c) * 64 + payload d)
                    :: decodeLossyChars rest'''
                else replacement :: decodeLossyChars (d :: rest''')
            else replacement :: decodeLossyChars (c :: rest'')
        else replacement :: decodeLossyChars (b :: rest')
    else replacement :: decodeLossyChars rest

def decodeLossy (bytes : Bytes) : String := String.ofList (decodeLossyChars bytes)

end FleetScript.Text
