import FleetScript.Json.Printer
import FleetScript.Proofs.Json.Reading
import FleetScript.Proofs.Text.Coding

/-!
Reading after writing. The text of a value over several lines spells a document, and where the
numbers of the value are whole it is read back, with the members of objects in the order of their
keys.
-/

namespace FleetScript.Json

open Text

/-! ### Strings and blanks -/

lemma charText_printChar (c : Char) : CharText (printChar c) c := by
  by_cases hmark : c ∈ ['"', '\\', '\x08', '\x0c', '\n', '\r', '\t']
  · simp only [List.mem_cons, List.not_mem_nil, or_false] at hmark
    rcases hmark with rfl | rfl | rfl | rfl | rfl | rfl | rfl <;> exact .escape (by decide)
  simp only [List.mem_cons, List.not_mem_nil, or_false, not_or] at hmark
  by_cases hcontrol : c.toNat < 0x20
  · have hprint : printChar c =
        ['\\', 'u', '0', '0', hexDigit (c.toNat / 16), hexDigit (c.toNat % 16)] := by
      simp [printChar, hmark, hcontrol]
    have hcode : ∀ n < 0x20,
        ['0', '0', hexDigit (n / 16), hexDigit (n % 16)].all isHexDigit = true ∧
          numeral 16 ['0', '0', hexDigit (n / 16), hexDigit (n % 16)] = n := by decide
    obtain ⟨hhex, hc⟩ := hcode c.toNat hcontrol
    have hunit := CharText.unit (List.all_eq_true.mp hhex) (.inl (by omega))
    rwa [hc, Char.ofNat_toNat, ← hprint] at hunit
  · have hprint : printChar c = [c] := by simp [printChar, hmark, hcontrol]
    rw [hprint]
    exact .plain hmark.1 hmark.2.1 (Nat.le_of_not_lt hcontrol)

lemma quoted_printString (s : String) : Quoted (printString s) s := by
  have htext (cs : List Char) : StringText (cs.flatMap printChar) cs := by
    induction cs with
    | nil => exact .nil
    | cons c cs ih => exact .cons (charText_printChar c) ih
  exact ⟨_, htext s.toList, rfl⟩

lemma gap_newline (depth : Nat) : Gap (newline depth) := by
  have hblanks (n : Nat) : Gap (List.replicate n ' ') := by
    induction n with
    | zero => exact .nil
    | succ n ih => exact .blank (by decide) ih
  exact .blank (by decide) (hblanks _)

/-! ### Numbers -/

/-- The numbers that are kept whole, within their range. -/
def Number.Whole : Number → Prop
  | natural n => n ≤ maxNatural
  | negative n => 0 < n ∧ n ≤ 0x8000000000000000
  | real _ => False

lemma digits_decimal (n : Nat) : Digits (decimal n).toList :=
  ⟨decimal_ne_nil n, fun _ => isDigit_of_mem_decimal⟩

def NumberParts.ofDecimal (minus : Bool) (n : Nat) : NumberParts where
  minus := minus
  whole := (decimal n).toList
  fraction := none
  power := none
  whole_digits := digits_decimal n
  whole_zero := by
    intro h
    rcases Nat.eq_zero_or_pos n with rfl | hn
    · rfl
    · exact absurd h (head?_decimal hn)
  fraction_digits := by simp
  power_digits := by simp

lemma NumberParts.text_ofDecimal (minus : Bool) (n : Nat) :
    (ofDecimal minus n).text =
      if minus then '-' :: (decimal n).toList else (decimal n).toList := by
  have hbody : (ofDecimal minus n).body = (decimal n).toList := List.append_nil _
  rw [text, hbody]
  rfl

lemma exists_parts_text {n : Number} (h : n.Whole) :
    ∃ p : NumberParts, p.text = n.text.toList ∧ p.number? = some n := by
  cases n with
  | natural n =>
    refine ⟨.ofDecimal false n, NumberParts.text_ofDecimal false n, ?_⟩
    exact (NumberParts.number?_eq_natural_iff _).mpr ⟨rfl, rfl, rfl, numeral_decimal n, h⟩
  | negative n =>
    obtain ⟨hpos, hle⟩ := h
    have hmax : n ≤ Number.maxNatural := hle.trans (by decide)
    have hwhole : numeral 10 (NumberParts.ofDecimal true n).whole = n := numeral_decimal n
    refine ⟨.ofDecimal true n, ?_, ?_⟩
    · rw [NumberParts.text_ofDecimal]
      simp [Number.text]
    · rw [NumberParts.number?_of_whole _ rfl rfl (by omega) (by omega), hwhole]
      rfl
  | real x => cases h

/-! ### Values -/

mutual

/-- All numbers of a value are kept whole. -/
def Whole : Json → Prop
  | .number n => n.Whole
  | .array xs => WholeItems xs
  | .object ms => WholeMembers ms
  | _ => True

def WholeItems : List Json → Prop
  | [] => True
  | x :: xs => Whole x ∧ WholeItems xs

/-- All numbers of the values of some members are kept whole. -/
def WholeMembers : List (String × Json) → Prop
  | [] => True
  | (_, x) :: ms => Whole x ∧ WholeMembers ms

end

mutual

/-- The value with the members of its objects in the order of their keys, and of two members with
one key the later alone. -/
def normal : Json → Json
  | .array xs => .array (normalItems xs)
  | .object ms => ofMembers (normalMembers ms)
  | v => v

def normalItems : List Json → List Json
  | [] => []
  | x :: xs => normal x :: normalItems xs

def normalMembers : List (String × Json) → List (String × Json)
  | [] => []
  | (k, x) :: ms => (k, normal x) :: normalMembers ms

end

mutual

/-- **A written value spells a document with the same value.** -/
theorem exists_spelledBy_printAt (depth : Nat) (v : Json) (hv : v.Whole) :
    ∃ d : Document, d.SpelledBy (printAt depth v) ∧ d.value = v.normal := by
  match v with
  | .null => exact ⟨.null, rfl, rfl⟩
  | .bool b => exact ⟨.bool b, rfl, rfl⟩
  | .number n =>
    obtain ⟨p, htext, hp⟩ := exists_parts_text hv
    refine ⟨.number p, htext.symm, ?_⟩
    rw [Document.value, p.ofNumberText_text, hp]
    rfl
  | .string s => exact ⟨.string s, quoted_printString s, rfl⟩
  | .array [] => exact ⟨.array [], ⟨[], rfl, .inl ⟨rfl, .nil⟩⟩, rfl⟩
  | .object [] => exact ⟨.object [], ⟨[], rfl, .inl ⟨rfl, .nil⟩⟩, rfl⟩
  | .array (x :: xs) =>
    obtain ⟨d, hd, hvalue⟩ := exists_spelledBy_printAt (depth + 1) x hv.1
    obtain ⟨ds, hds, hvalues⟩ := exists_itemsSpelledBy (depth + 1) xs hv.2 (gap_newline depth)
    -- the items stand on lines of their own, one level deeper
    refine ⟨.array (d :: ds), ⟨newline (depth + 1) ++ (printAt (depth + 1) x ++
      (printItems (depth + 1) xs ++ newline depth)), ?_, .inr ?_⟩, ?_⟩
    · simp [printAt]
    · exact ⟨[], newline (depth + 1), _, _, rfl, .nil, gap_newline _, hd, hds⟩
    · rw [Document.value, itemValues, hvalue, hvalues]
      rfl
  | .object ((k, x) :: ms) =>
    obtain ⟨d, hd, hvalue⟩ := exists_spelledBy_printAt (depth + 1) x hv.1
    obtain ⟨ds, hds, hvalues⟩ := exists_membersSpelledBy (depth + 1) ms hv.2 (gap_newline depth)
    refine ⟨.object ((k, d) :: ds), ⟨newline (depth + 1) ++ (printString k ++ (':' :: ([' '] ++
      (printAt (depth + 1) x ++ (printMembers (depth + 1) ms ++ newline depth))))), ?_, .inr ?_⟩,
      ?_⟩
    · simp [printAt]
    · exact ⟨[], newline (depth + 1), _, [], [' '], _, _, rfl, .nil, gap_newline _,
        quoted_printString k, .nil, .blank (by decide) .nil, hd, hds⟩
    · rw [Document.value, memberValues, hvalue, hvalues]
      rfl

lemma exists_itemsSpelledBy (depth : Nat) (xs : List Json) (hxs : WholeItems xs) {e : List Char}
    (he : Gap e) :
    ∃ ds, ItemsSpelledBy ds (printItems depth xs ++ e) ∧ itemValues ds = normalItems xs := by
  match xs with
  | [] => exact ⟨[], he, rfl⟩
  | x :: xs =>
    obtain ⟨d, hd, hvalue⟩ := exists_spelledBy_printAt depth x hxs.1
    obtain ⟨ds, hds, hvalues⟩ := exists_itemsSpelledBy depth xs hxs.2 he
    refine ⟨d :: ds, ⟨[], newline depth, _, _, ?_, .nil, gap_newline depth, hd, hds⟩, ?_⟩
    · simp [printItems]
    · rw [itemValues, hvalue, hvalues]
      rfl

lemma exists_membersSpelledBy (depth : Nat) (ms : List (String × Json)) (hms : WholeMembers ms)
    {e : List Char} (he : Gap e) :
    ∃ ds, MembersSpelledBy ds (printMembers depth ms ++ e) ∧
      memberValues ds = normalMembers ms := by
  match ms with
  | [] => exact ⟨[], he, rfl⟩
  | (k, x) :: ms =>
    obtain ⟨d, hd, hvalue⟩ := exists_spelledBy_printAt depth x hms.1
    obtain ⟨ds, hds, hvalues⟩ := exists_membersSpelledBy depth ms hms.2 he
    refine ⟨(k, d) :: ds, ⟨[], newline depth, _, [], [' '], _, _, ?_, .nil, gap_newline depth,
      quoted_printString k, .nil, .blank (by decide) .nil, hd, hds⟩, ?_⟩
    · simp [printMembers]
    · rw [memberValues, hvalue, hvalues]
      rfl

end

/-- **A written value is read back.** -/
theorem read_print {v : Json} (hv : v.Whole) : read (print v).toList = .value v.normal := by
  obtain ⟨d, hd, hvalue⟩ := exists_spelledBy_printAt 0 v hv
  have htext : d.FileText (print v).toList := by
    refine ⟨[], printAt 0 v, [], ?_, .nil, hd, .gap .nil⟩
    simp [print]
  rw [read_of_fileText htext, hvalue]

end FleetScript.Json
