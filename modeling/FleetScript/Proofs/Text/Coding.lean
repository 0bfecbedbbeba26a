import FleetScript.Text.Percent
import Mathlib.Tactic.Lemma

/-!
Codings read back. UTF-8 is read strictly, or with replacement characters, of which the UTF-8 form
of a text needs none; percent coding gives back the bytes it stands for, and form coding the text,
since a plus sign that is written for itself is percent coded. Of what such coded texts hold, it is
enough to know the characters that stay and those of coded bytes.
-/

namespace FleetScript.Text

/-! ### Reading UTF-8 -/

section Utf8

variable {a b c d lo hi : UInt8} {rest : Bytes}

lemma not_between_of_lt (h : hi < a) : (lo ≤ a && a ≤ hi) = false := by
  simp [UInt8.not_le.mpr h]

lemma not_ascii_of_le (h : 0xC2 ≤ a) : ¬ a < 0x80 :=
  UInt8.not_lt.mpr (UInt8.le_trans (by decide) h)

lemma decodeLossyChars_one (ha : a < 0x80) :
    decodeLossyChars (a :: rest) = Char.ofNat a.toNat :: decodeLossyChars rest := by
  rw [decodeLossyChars.eq_def]
  exact if_pos ha

lemma decodeLossyChars_two (ha : 0xC2 ≤ a ∧ a ≤ 0xDF) (hb : isContinuation b = true) :
    decodeLossyChars (a :: b :: rest) =
      Char.ofNat (a.toNat % 32 * 64 + payload b) :: decodeLossyChars rest := by
  rw [decodeLossyChars.eq_def]
  simp only [if_neg (not_ascii_of_le ha.1), ha, hb, Bool.and_self, decide_true, if_true]

lemma decodeLossyChars_three (ha : 0xE0 ≤ a ∧ a ≤ 0xEF) (hb : isSecondOfThree a b = true)
    (hc : isContinuation c = true) :
    decodeLossyChars (a :: b :: c :: rest) =
      Char.ofNat ((a.toNat % 16 * 64 + payload b) * 64 + payload c) :: decodeLossyChars rest := by
  have hle : 0xC2 ≤ a := UInt8.le_trans (by decide) ha.1
  have htwo : ((0xC2 : UInt8) ≤ a && a ≤ 0xDF) = false :=
    not_between_of_lt (UInt8.lt_of_lt_of_le (by decide) ha.1)
  rw [decodeLossyChars.eq_def]
  simp only [if_neg (not_ascii_of_le hle), htwo, ha, hb, hc, Bool.and_self, decide_true, if_true,
    Bool.false_eq_true, if_false]

lemma decodeLossyChars_four (ha : 0xF0 ≤ a ∧ a ≤ 0xF4) (hb : isSecondOfFour a b = true)
    (hc : isContinuation c = true) (hd : isContinuation d = true) :
    decodeLossyChars (a :: b :: c :: d :: rest) =
      Char.ofNat (((a.toNat % 8 * 64 + payload b) * 64 + payload c) * 64 + payload d) ::
        decodeLossyChars rest := by
  have hle : 0xC2 ≤ a := UInt8.le_trans (by decide) ha.1
  have htwo : ((0xC2 : UInt8) ≤ a && a ≤ 0xDF) = false :=
    not_between_of_lt (UInt8.lt_of_lt_of_le (by decide) ha.1)
  have hthree : ((0xE0 : UInt8) ≤ a && a ≤ 0xEF) = false :=
    not_between_of_lt (UInt8.lt_of_lt_of_le (by decide) ha.1)
  rw [decodeLossyChars.eq_def]
  simp only [if_neg (not_ascii_of_le hle), htwo, hthree, ha, hb, hc, hd, Bool.and_self, decide_true,
    if_true, Bool.false_eq_true, if_false]

lemma toNat_ofNat_of_lt {n : Nat} (h : n < 256) : (UInt8.ofNat n).toNat = n := by
  rw [UInt8.toNat_ofNat']
  exact Nat.mod_eq_of_lt h

lemma isContinuation_ofNat (n : Nat) : isContinuation (UInt8.ofNat (n % 64 + 128)) = true := by
  have h := toNat_ofNat_of_lt (n := n % 64 + 128) (by omega)
  simp only [isContinuation, UInt8.le_iff_toNat_le, h, UInt8.reduceToNat, Bool.and_eq_true,
    decide_eq_true_eq]
  omega

lemma payload_ofNat (n : Nat) : payload (UInt8.ofNat (n % 64 + 128)) = n % 64 := by
  unfold payload
  rw [toNat_ofNat_of_lt (by omega)]
  omega

/-- A second byte of three is in its range, as the character is no shorter and no surrogate. -/
lemma isSecondOfThree_ofNat {n : Nat} (h : 2047 < n) (h' : n ≤ 65535)
    (hvalid : n < 0xD800 ∨ 0xDFFF < n) :
    isSecondOfThree (UInt8.ofNat (n / 4096 % 16 + 224)) (UInt8.ofNat (n / 64 % 64 + 128)) =
      true := by
  have ha := toNat_ofNat_of_lt (n := n / 4096 % 16 + 224) (by omega)
  have hb := toNat_ofNat_of_lt (n := n / 64 % 64 + 128) (by omega)
  simp only [isSecondOfThree, isContinuation, ← UInt8.toNat_inj, UInt8.le_iff_toNat_le, ha, hb,
    UInt8.reduceToNat]
  split
  · simp only [Bool.and_eq_true, decide_eq_true_eq]
    omega
  split <;> simp only [Bool.and_eq_true, decide_eq_true_eq] <;> omega

/-- A second byte of four is in its range, as the character is no shorter and not beyond the
last. -/
lemma isSecondOfFour_ofNat {n : Nat} (h : 65535 < n) (h' : n < 0x110000) :
    isSecondOfFour (UInt8.ofNat (n / 262144 % 8 + 240)) (UInt8.ofNat (n / 4096 % 64 + 128)) =
      true := by
  have ha := toNat_ofNat_of_lt (n := n / 262144 % 8 + 240) (by omega)
  have hb := toNat_ofNat_of_lt (n := n / 4096 % 64 + 128) (by omega)
  simp only [isSecondOfFour, isContinuation, ← UInt8.toNat_inj, UInt8.le_iff_toNat_le, ha, hb,
    UInt8.reduceToNat]
  split
  · simp only [Bool.and_eq_true, decide_eq_true_eq]
    omega
  split <;> simp only [Bool.and_eq_true, decide_eq_true_eq] <;> omega

/-- A character is read from its bytes, one lemma for each number of them. -/
lemma decodeLossyChars_utf8EncodeChar (c : Char) (rest : Bytes) :
    decodeLossyChars (String.utf8EncodeChar c ++ rest) = c :: decodeLossyChars rest := by
  have hvalid : c.toNat < 0xD800 ∨ 0xDFFF < c.toNat ∧ c.toNat < 0x110000 := c.valid
  have hback {n : Nat} (h : n = c.toNat) : Char.ofNat n = c := h ▸ Char.ofNat_toNat c
  rw [String.utf8EncodeChar]
  simp only [show c.val.toNat = c.toNat from rfl]
  generalize c.toNat = n at hvalid hback
  split
  · -- one byte
    have ha := toNat_ofNat_of_lt (n := n) (by omega)
    rw [List.singleton_append, decodeLossyChars_one, ha, hback rfl]
    simp only [UInt8.lt_iff_toNat_lt, ha, UInt8.reduceToNat]
    omega
  split
  · -- two bytes
    have ha := toNat_ofNat_of_lt (n := n / 64 % 32 + 192) (by omega)
    simp only [List.cons_append, List.nil_append]
    rw [decodeLossyChars_two _ (isContinuation_ofNat n), ha, payload_ofNat, hback (by omega)]
    simp only [UInt8.le_iff_toNat_le, ha, UInt8.reduceToNat]
    omega
  split
  · -- three bytes, which code no surrogate
    have ha := toNat_ofNat_of_lt (n := n / 4096 % 16 + 224) (by omega)
    simp only [List.cons_append, List.nil_append]
    rw [decodeLossyChars_three _ (isSecondOfThree_ofNat (by omega) (by omega) (by omega))
      (isContinuation_ofNat n), ha, payload_ofNat, payload_ofNat, hback (by omega)]
    simp only [UInt8.le_iff_toNat_le, ha, UInt8.reduceToNat]
    omega
  · -- four bytes
    have ha := toNat_ofNat_of_lt (n := n / 262144 % 8 + 240) (by omega)
    simp only [List.cons_append, List.nil_append]
    rw [decodeLossyChars_four _ (isSecondOfFour_ofNat (by omega) (by omega))
      (isContinuation_ofNat _) (isContinuation_ofNat n), ha, payload_ofNat, payload_ofNat,
      payload_ofNat, hback (by omega)]
    simp only [UInt8.le_iff_toNat_le, ha, UInt8.reduceToNat]
    omega

/-- **The UTF-8 form of a text is read back**, without any replacement. -/
theorem decodeLossyChars_encode (s : List Char) : decodeLossyChars (encode s) = s := by
  induction s with
  | nil => rfl
  | cons c s ih =>
    show decodeLossyChars (String.utf8EncodeChar c ++ encode s) = _
    rw [decodeLossyChars_utf8EncodeChar, ih]

/-- **The UTF-8 form of a text is read back by a reader that refuses anything else.** -/
theorem decode?_toBytes (s : String) : decode? (toBytes s) = some s := by
  have hbytes : (⟨(toBytes s).toArray⟩ : ByteArray) = s.toByteArray := by
    unfold toBytes encode
    rw [← String.utf8Encode_toList]
    ext1
    exact List.data_toByteArray.symm
  unfold decode? String.fromUTF8?
  rw [hbytes]
  exact dif_pos s.isValidUTF8

end Utf8

/-! ### Percent coding -/

section Percent

variable {keep : Char → Bool} {s : List Char} {c : Char}

lemma utf8EncodeChar_of_ascii (h : c.toNat < 0x80) :
    String.utf8EncodeChar c = [UInt8.ofNat c.toNat] := by
  rw [String.utf8EncodeChar]
  exact if_pos (Nat.le_of_lt_succ h)

lemma percentDecode_cons {b : UInt8} (h : b ≠ 0x25) (rest : Bytes) :
    percentDecode (b :: rest) = b :: percentDecode rest := by
  rw [percentDecode.eq_def]
  split
  · next heq => cases heq
  · next heq => exact absurd (List.cons.inj heq).1 h
  · next heq =>
    obtain ⟨rfl, rfl⟩ := List.cons.inj heq
    rfl

def upperHexDigits : List Char := "0123456789ABCDEF".toList

lemma hexDigit_upper : ∀ n < 16, hexValue? (hexDigit n).toUpper = some n ∧
    (hexDigit n).toUpper ∈ upperHexDigits ∧ (hexDigit n).toUpper.toNat < 0x80 := by
  decide +kernel

lemma hexByte?_of_ascii (h : c.toNat < 0x80) : hexByte? (UInt8.ofNat c.toNat) = hexValue? c := by
  unfold hexByte?
  rw [toNat_ofNat_of_lt (by omega), Char.ofNat_toNat]

lemma percentDecode_percentByte (b : UInt8) (rest : Bytes) :
    percentDecode (encode (percentByte b) ++ rest) = b :: percentDecode rest := by
  have hb : b.toNat < 256 := b.toNat_lt
  obtain ⟨hhigh, -, hhigh'⟩ := hexDigit_upper (b.toNat / 16) (by omega)
  obtain ⟨hlow, -, hlow'⟩ := hexDigit_upper (b.toNat % 16) (by omega)
  have hbytes : encode (percentByte b) =
      [0x25, UInt8.ofNat (hexDigit (b.toNat / 16)).toUpper.toNat,
        UInt8.ofNat (hexDigit (b.toNat % 16)).toUpper.toNat] := by
    unfold encode percentByte byteHex
    simp only [List.flatMap_cons, List.flatMap_nil, utf8EncodeChar_of_ascii hhigh',
      utf8EncodeChar_of_ascii hlow', utf8EncodeChar_of_ascii (c := '%') (by decide)]
    rfl
  rw [hbytes]
  simp only [List.cons_append, List.nil_append]
  rw [percentDecode]
  simp only [hexByte?_of_ascii hhigh', hexByte?_of_ascii hlow', hhigh, hlow]
  rw [Nat.div_add_mod, UInt8.ofNat_toNat]

lemma percentDecode_flatMap (bytes rest : Bytes) :
    percentDecode (encode (bytes.flatMap percentByte) ++ rest) = bytes ++ percentDecode rest := by
  induction bytes with
  | nil => rfl
  | cons b bytes ih =>
    rw [List.flatMap_cons, encode_append, List.append_assoc, percentDecode_percentByte, ih]
    rfl

/-- Reading gives back the bytes of a text, whichever plain characters stay as they are. -/
lemma percentDecode_percentEncode (hkeep : ∀ c, keep c = true → c.toNat < 0x80 ∧ c ≠ '%')
    (s : List Char) : percentDecode (encode (percentEncode keep s)) = encode s := by
  induction s with
  | nil => rfl
  | cons c s ih =>
    have hsplit : percentEncode keep (c :: s) =
        (if keep c then [c] else (String.utf8EncodeChar c).flatMap percentByte) ++
          percentEncode keep s := List.flatMap_cons
    rw [hsplit, encode_append]
    split
    · next hc =>
      obtain ⟨hascii, hne⟩ := hkeep c hc
      -- a character that stays is no percent sign, and so one byte that stands for itself
      have hbyte : UInt8.ofNat c.toNat ≠ 0x25 := by
        intro he
        have hcode := congrArg UInt8.toNat he
        rw [toNat_ofNat_of_lt (by omega)] at hcode
        exact hne (Char.ofNat_toNat c ▸ congrArg Char.ofNat hcode)
      show percentDecode (String.utf8EncodeChar c ++ [] ++ _) =
        String.utf8EncodeChar c ++ encode s
      rw [List.append_nil, utf8EncodeChar_of_ascii hascii, List.singleton_append,
        percentDecode_cons hbyte, ih]
      rfl
    · rw [percentDecode_flatMap, ih]
      rfl

/-- **A percent coded text is read back.** -/
theorem percentDecodeText_percentEncode
    (hkeep : ∀ c, keep c = true → c.toNat < 0x80 ∧ c ≠ '%') (s : List Char) :
    percentDecodeText (percentEncode keep s) = s := by
  unfold percentDecodeText
  rw [percentDecode_percentEncode hkeep, decodeLossyChars_encode]

/-- A percent coded text holds characters that stay, and those of coded bytes. -/
lemma of_mem_percentEncode (h : c ∈ percentEncode keep s) :
    keep c = true ∨ c = '%' ∨ c ∈ upperHexDigits := by
  obtain ⟨x, -, h⟩ := List.mem_flatMap.mp h
  split at h
  · next hx => exact .inl (List.mem_singleton.mp h ▸ hx)
  · obtain ⟨b, -, h⟩ := List.mem_flatMap.mp h
    have hb : b.toNat < 256 := b.toNat_lt
    have hhigh := (hexDigit_upper (b.toNat / 16) (by omega)).2.1
    have hlow := (hexDigit_upper (b.toNat % 16) (by omega)).2.1
    simp only [percentByte, byteHex, List.mem_cons, List.not_mem_nil, or_false] at h
    rcases h with rfl | rfl | rfl
    · exact .inr (.inl rfl)
    · exact .inr (.inr hhigh)
    · exact .inr (.inr hlow)

lemma percentEncode_ne_nil (h : s ≠ []) : percentEncode keep s ≠ [] := by
  obtain ⟨c, rest, rfl⟩ := List.exists_cons_of_ne_nil h
  have hlength := String.length_utf8EncodeChar c
  have hsize := c.utf8Size_pos
  unfold percentEncode
  rw [List.flatMap_cons]
  split
  · exact List.cons_ne_nil c _
  · cases hb : String.utf8EncodeChar c with
    | nil =>
      rw [hb, List.length_nil] at hlength
      omega
    | cons b bytes =>
      rw [List.flatMap_cons]
      exact List.cons_ne_nil '%' _

end Percent

/-! ### Form coding -/

/-- A character that form coding leaves as it is. -/
def isFormChar (c : Char) : Bool :=
  isLetter c || isDigit c || c = '*' || c = '-' || c = '.' || c = '_'

/-- The text in form coding: spaces are plus signs, and what is no plain character is percent
coded. -/
def formEncodeText (s : List Char) : List Char :=
  (percentEncode (fun c => isFormChar c || c = ' ') s).map fun c => if c = ' ' then '+' else c

lemma ascii_of_isFormChar {c : Char} (h : isFormChar c = true) :
    0x20 < c.toNat ∧ c.toNat < 0x7F ∧ c ≠ '%' ∧ c ≠ '+' := by
  simp only [isFormChar, Bool.or_eq_true, decide_eq_true_eq] at h
  rcases h with (((h | rfl) | rfl) | rfl) | rfl
  · have hcode := toNat_of_isLetter_or_isDigit h
    refine ⟨by omega, by omega, ?_, ?_⟩ <;> rintro rfl <;> revert hcode <;> decide
  all_goals decide

/-- **A form coded text is read back.** -/
theorem formDecodeText_formEncodeText (s : List Char) :
    formDecodeText (formEncodeText s) = s := by
  have hkeep : ∀ c, (isFormChar c || decide (c = ' ')) = true → c.toNat < 0x80 ∧ c ≠ '%' := by
    intro c h
    rcases (Bool.or_eq_true _ _).mp h with h | h
    · have hc := ascii_of_isFormChar h
      exact ⟨by omega, hc.2.2.1⟩
    · rw [of_decide_eq_true h]
      decide
  -- plus signs are coded themselves, so all that are there stand for spaces
  have hback : (formEncodeText s).map (fun c => if c = '+' then ' ' else c) =
      percentEncode (fun c => isFormChar c || c = ' ') s := by
    unfold formEncodeText
    rw [List.map_map]
    refine (List.map_congr_left fun c hc => ?_).trans (List.map_id _)
    have hplus : c ≠ '+' := by
      rintro rfl
      rcases of_mem_percentEncode hc with h | h | h <;> revert h <;> decide
    by_cases hspace : c = ' ' <;> simp [hspace, hplus]
  unfold formDecodeText
  rw [hback, percentDecodeText_percentEncode hkeep]

/-- A form coded text holds plain characters, plus signs, and the characters of coded bytes. -/
lemma of_mem_formEncodeText {s : List Char} {c : Char} (h : c ∈ formEncodeText s) :
    isFormChar c = true ∨ c = '+' ∨ c = '%' := by
  obtain ⟨x, hx, rfl⟩ := List.mem_map.mp h
  split
  · exact .inr (.inl rfl)
  next hspace =>
  rcases of_mem_percentEncode hx with hx | hx | hx
  · exact .inl (by simpa [hspace] using hx)
  · exact .inr (.inr hx)
  · have hall : upperHexDigits.all isFormChar = true := by decide
    exact .inl (List.all_eq_true.mp hall x hx)

/-! ### Decimal numbers -/

lemma isDigit_of_mem_decimal {n : Nat} {c : Char} (h : c ∈ (decimal n).toList) :
    isDigit c = true := by
  unfold decimal at h
  rw [String.toList_ofList] at h
  exact Nat.isDigit_of_mem_toDigits (by decide) (by decide) h

lemma decimal_ne_nil (n : Nat) : (decimal n).toList ≠ [] := by
  unfold decimal
  rw [String.toList_ofList]
  exact Nat.toDigits_ne_nil

lemma numeral_toDigits {base : Nat} (h1 : 1 < base) (h16 : base ≤ 16) (n : Nat) :
    numeral base (Nat.toDigits base n) = n := by
  have hdigit : ∀ d < 16, hexValue? d.digitChar = some d := by decide
  induction n using Nat.strongRecOn with
  | ind n ih =>
    rw [Nat.toDigits_eq_if h1]
    split
    · next h => simp [numeral, hdigit n (by omega)]
    · next h =>
      have hlt : n % base < 16 := Nat.lt_of_lt_of_le (Nat.mod_lt n (by omega)) h16
      rw [numeral_concat, ih (n / base) (Nat.div_lt_self (by omega) h1), hdigit _ hlt]
      exact Nat.div_add_mod' n base

lemma numeral_decimal (n : Nat) : numeral 10 (decimal n).toList = n := by
  unfold decimal
  rw [String.toList_ofList]
  exact numeral_toDigits (by decide) (by decide) n

lemma head?_decimal {n : Nat} (h : 0 < n) : (decimal n).toList.head? ≠ some '0' := by
  unfold decimal
  rw [String.toList_ofList]
  induction n using Nat.strongRecOn with
  | ind n ih =>
    rw [Nat.toDigits_eq_if (by decide)]
    split
    · next hlt =>
      have hdigit : ∀ d < 10, 0 < d → d.digitChar ≠ '0' := by decide
      simpa using hdigit n hlt h
    · have hne : Nat.toDigits 10 (n / 10) ≠ [] := Nat.toDigits_ne_nil
      obtain ⟨c, cs, hcs⟩ := List.exists_cons_of_ne_nil hne
      have hfront := ih (n / 10) (by omega) (by omega)
      rw [hcs] at hfront ⊢
      exact hfront

end FleetScript.Text
