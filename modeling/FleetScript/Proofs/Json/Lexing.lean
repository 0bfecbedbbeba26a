import FleetScript.Json.Reader
import FleetScript.Proofs.Json.Grammar
import FleetScript.Proofs.Text.Cuts

/-!
The tokens of documents. A text that spells a document is cut into the tokens of that document, with
whatever stands after it, as long as no word or number goes on there.
-/

namespace FleetScript.Json

open Text Token

variable {rest s : List Char} {us : List Token}

/-! ### Cutting into tokens -/

/-- A text is cut into these tokens, with as many steps as it has characters, or more. -/
def LexesTo (s : List Char) (ts : List Token) : Prop :=
  ∀ fuel, s.length ≤ fuel → lexFrom fuel s = some ts

lemma LexesTo.lex_eq {ts : List Token} (h : LexesTo s ts) : lex s = some ts := h _ le_rfl

lemma LexesTo.nil : LexesTo [] [] := by
  rintro (_ | fuel) - <;> rfl

lemma LexesTo.step {t : Option Token} (hnext : next? s = some (t, rest))
    (hlt : rest.length < s.length) (h : LexesTo rest us) : LexesTo s (t.toList ++ us) := by
  rintro (_ | fuel) hfuel
  · omega
  · cases s with
    | nil => cases hnext
    | cons c s =>
      rw [lexFrom, hnext]
      · simp only [bind, Option.bind, h fuel (by omega)]
        rfl
      · simp

lemma LexesTo.mark {c : Char} {t : Token} (hnext : next? (c :: rest) = some (some t, rest))
    (h : LexesTo rest us) : LexesTo (c :: rest) (t :: us) := h.step hnext (by simp)

/-- What is left when the comma at the start is taken away. -/
lemma LexesTo.of_comma (h : LexesTo (',' :: s) (.comma :: us)) : LexesTo s us := by
  intro fuel hfuel
  have hstep : (lexFrom fuel s).map (Token.comma :: ·) = some (.comma :: us) := by
    have hnext : next? (',' :: s) = some (some .comma, s) := rfl
    rw [← h (fuel + 1) (by simpa using hfuel), lexFrom, hnext]
    · cases hrest : lexFrom fuel s <;> simp [hrest]
    · simp
  obtain ⟨ts, hts, heq⟩ := Option.map_eq_some_iff.mp hstep
  rw [hts, (List.cons.inj heq).2]

/-! ### Blanks and comments -/

lemma skipLine_append {comment : List Char} (h : '\n' ∉ comment) (s : List Char) :
    skipLine (comment ++ s) = skipLine s := by
  induction comment with
  | nil => rfl
  | cons c comment ih =>
    obtain ⟨hc, hrest⟩ := not_or.mp (mt List.mem_cons.mpr h)
    rw [List.cons_append, skipLine, ih hrest]
    exact fun e => hc e.symm

lemma skipBlock_append {comment : List Char} (h : ¬['*', '/'] <:+: comment) (s : List Char) :
    skipBlock (comment ++ '*' :: '/' :: s) = some s := by
  induction comment with
  | nil => rfl
  | cons c comment ih =>
    have hrest := ih fun hinfix => h (List.infix_cons hinfix)
    rw [List.cons_append, skipBlock, hrest]
    -- a star at the end of the comment is followed by the star of the mark
    rintro u rfl hu
    cases comment with
    | nil => cases hu
    | cons d comment =>
      obtain ⟨rfl, -⟩ := List.cons.inj hu
      exact h ⟨[], comment, rfl⟩

lemma LexesTo.blank {c : Char} (hc : c ∈ [' ', '\t', '\n', '\r']) (h : LexesTo rest us) :
    LexesTo (c :: rest) us := by
  have hnext : next? (c :: rest) = some (none, rest) := by
    simp only [List.mem_cons, List.not_mem_nil, or_false] at hc
    rcases hc with rfl | rfl | rfl | rfl <;> rfl
  exact h.step hnext (by simp)

lemma LexesTo.gap {g : List Char} (hg : Gap g) (h : LexesTo rest us) : LexesTo (g ++ rest) us := by
  induction hg with
  | nil => exact h
  | blank hc _ ih => exact ih.blank hc
  | @line comment s hc _ ih =>
    -- the comment is skipped up to the end of its line, which is a blank of its own
    have hnext : next? ('/' :: '/' :: (comment ++ '\n' :: (s ++ rest))) =
        some (none, '\n' :: (s ++ rest)) := by
      show some (none, skipLine (comment ++ '\n' :: (s ++ rest))) = _
      rw [skipLine_append hc]
      rfl
    have hlt : ('\n' :: (s ++ rest)).length <
        ('/' :: '/' :: (comment ++ '\n' :: (s ++ rest))).length := by
      simp only [List.length_cons, List.length_append]
      omega
    have hstep := ih.step hnext hlt
    simpa using hstep
  | @block comment s hc _ ih =>
    have hnext : next? ('/' :: '*' :: (comment ++ '*' :: '/' :: (s ++ rest))) =
        some (none, s ++ rest) := by
      show (skipBlock (comment ++ '*' :: '/' :: (s ++ rest))).map (fun t => (none, t)) = _
      rw [skipBlock_append hc]
      rfl
    have hlt : (s ++ rest).length <
        ('/' :: '*' :: (comment ++ '*' :: '/' :: (s ++ rest))).length := by
      simp only [List.length_cons, List.length_append]
      omega
    have hstep := ih.step hnext hlt
    simpa using hstep

lemma LexesTo.ending {e : List Char} (he : Ending e) : LexesTo e [] := by
  cases he with
  | gap hg => simpa using LexesTo.gap hg .nil
  | @line g comment hg hc =>
    have hnext : next? ('/' :: '/' :: comment) = some (none, []) := by
      show some (none, skipLine comment) = _
      rw [← List.append_nil comment, skipLine_append hc]
      rfl
    exact .gap hg (LexesTo.nil.step hnext (by simp))

/-! ### Strings -/

lemma readString_charText {t : List Char} {c : Char} (h : CharText t c) (rest : List Char) :
    readString '"' (t ++ rest) = (readString '"' rest).map fun (s, u) => (c :: s, u) := by
  cases h with
  | plain hquote hslash =>
    rw [List.singleton_append, readString]
    · exact if_neg hquote
    all_goals simp [hslash]
  | escape h =>
    simp only [escapes, List.mem_cons, Prod.mk.injEq, List.not_mem_nil, or_false] at h
    rcases h with h | h | h | h | h | h | h | h <;> obtain ⟨rfl, rfl⟩ := h <;> rfl
  | @unit a b c d hhex h =>
    have hcode : (hex4? a b c d).bind unitChar? =
        some (Char.ofNat (numeral 16 [a, b, c, d])) := by
      unfold hex4? unitChar?
      rw [if_pos (List.all_eq_true.mpr hhex), Option.bind_some, if_pos h]
    rw [readString.eq_def]
    simp only [List.cons_append, List.nil_append, hcode]
  | @pair a b c d a' b' c' d' hhex hhex' hhigh hlow =>
    have hfour : hex4? a b c d = some (numeral 16 [a, b, c, d]) :=
      if_pos (List.all_eq_true.mpr hhex)
    have hfour' : hex4? a' b' c' d' = some (numeral 16 [a', b', c', d']) :=
      if_pos (List.all_eq_true.mpr hhex')
    -- the first surrogate alone is no character, so the second one is read with it
    have hunit : unitChar? (numeral 16 [a, b, c, d]) = none := if_neg (by omega)
    have hpair : pairChar? (numeral 16 [a, b, c, d]) (numeral 16 [a', b', c', d']) = some _ :=
      if_pos ⟨hhigh.1, hhigh.2, hlow.1, hlow.2⟩
    rw [readString.eq_def]
    simp only [List.cons_append, List.nil_append, hunit, hfour, hfour', hpair, bind,
      Option.bind_some]

lemma readString_stringText {t cs : List Char} (h : StringText t cs) (rest : List Char) :
    readString '"' (t ++ '"' :: rest) = some (cs, rest) := by
  induction h with
  | nil => rfl
  | cons hc _ ih =>
    rw [List.append_assoc, readString_charText hc, ih]
    rfl

lemma LexesTo.quoted {t : List Char} {str : String} (ht : Quoted t str) (h : LexesTo rest us) :
    LexesTo (t ++ rest) (.string str :: us) := by
  obtain ⟨inner, hinner, rfl⟩ := ht
  have htext : '"' :: (inner ++ ['"']) ++ rest = '"' :: (inner ++ '"' :: rest) := by simp
  have hnext : next? ('"' :: (inner ++ '"' :: rest)) = some (some (.string str), rest) := by
    show (readString '"' _).map (fun (cs, t) => (some (Token.string (String.ofList cs)), t)) = _
    rw [readString_stringText hinner]
    simp only [Option.map_some, String.ofList_toList]
  rw [htext]
  exact h.step hnext (by simp; omega)

/-! ### Words -/

def delimiters : List Char := [',', ']', '}', ' ', '\t', '\n', '\r', '/']

/-- A text that no word or number goes on into. -/
def Delimited (s : List Char) : Prop := ∀ c ∈ s.head?, c ∈ delimiters

lemma Delimited.nil : Delimited [] := nofun

lemma Delimited.cons {c : Char} (hc : c ∈ delimiters) (s : List Char) : Delimited (c :: s) := by
  rintro d ⟨⟩
  exact hc

lemma Delimited.gap {g : List Char} (hg : Gap g) (h : Delimited rest) : Delimited (g ++ rest) := by
  cases hg with
  | nil => exact h
  | blank hc =>
    refine .cons ?_ _
    simp only [List.mem_cons, List.not_mem_nil, or_false] at hc
    rcases hc with rfl | rfl | rfl | rfl <;> decide
  | line | block => exact .cons (by decide) _

lemma Delimited.ending {e : List Char} (he : Ending e) : Delimited e := by
  cases he with
  | gap hg => simpa using gap hg .nil
  | line hg => exact gap hg (.cons (by decide) _)

lemma eq_false_of_any {p : Char → Bool} (h : s.any p = false) : ∀ c ∈ s, p c = false := by
  simpa using h

lemma Delimited.head?_eq_false (h : Delimited rest) {p : Char → Bool}
    (hp : delimiters.any p = false) : ∀ c ∈ rest.head?, p c = false :=
  fun c hc => eq_false_of_any hp c (h c hc)

lemma Delimited.not_alphanumeric (h : Delimited rest) :
    rest.head?.any isAlphanumeric = false := by
  have hhead := h.head?_eq_false (p := isAlphanumeric) (by decide)
  cases rest with
  | nil => rfl
  | cons c rest => exact hhead c rfl

lemma LexesTo.null (hend : Delimited rest) (h : LexesTo rest us) :
    LexesTo ("null".toList ++ rest) (.null :: us) := by
  have hlength : "null".length = 4 := rfl
  have hlit : literal? ("null".toList ++ rest) = some (.null, rest) := by
    simp [literal?, hlength, hend.not_alphanumeric, -List.head?_drop]
  have hnext : next? ("null".toList ++ rest) = some (some .null, rest) := by
    rw [next?.eq_def, hlit]
    rfl
  exact h.step hnext (by simp; omega)

lemma LexesTo.bool (b : Bool) (hend : Delimited rest) (h : LexesTo rest us) :
    LexesTo ((if b then "true" else "false").toList ++ rest) (.bool b :: us) := by
  have hlength : "true".length = 4 ∧ "false".length = 5 := ⟨rfl, rfl⟩
  have hlit : literal? ((if b then "true" else "false").toList ++ rest) = some (.bool b, rest) := by
    cases b <;> simp [literal?, hlength, hend.not_alphanumeric, -List.head?_drop]
  have hnext : next? ((if b then "true" else "false").toList ++ rest) =
      some (some (.bool b), rest) := by
    cases b <;> rw [next?.eq_def, hlit] <;> rfl
  exact h.step hnext (by cases b <;> simp <;> omega)

/-! ### Numbers -/

lemma next?_number {c : Char} (hc : c = '-' ∨ isDigit c = true) (s : List Char) :
    next? (c :: s) = (readNumber (c :: s)).map fun (n, t) => (some (.number n), t) := by
  have hstart : isBlank c = false ∧ (c = '-' || c = '+' || isDigit c) = true := by
    rcases hc with rfl | hc
    · exact ⟨rfl, rfl⟩
    · have hcode := toNat_of_isLetter_or_isDigit (.inr hc)
      exact ⟨isBlank_of_visible (by omega) (by omega), by simp [hc]⟩
  rw [next?.eq_def]
  split <;> simp_all [isDigit]

lemma readNumber_digit {c : Char} (hc : isDigit c = true) (s : List Char) :
    readNumber (c :: s) = readUnsigned (c :: s) := by
  rw [readNumber.eq_def]
  split <;> simp_all [isDigit]

lemma Digits.span {ds : List Char} (h : Digits ds) (hend : ∀ c ∈ rest.head?, isDigit c = false) :
    (ds ++ rest).takeWhile isDigit = ds ∧ (ds ++ rest).dropWhile isDigit = rest ∧
      ds.isEmpty = false := by
  obtain ⟨htake, hdrop⟩ := span_append h.2 hend
  exact ⟨htake, hdrop, List.isEmpty_eq_false_iff.mpr h.1⟩

namespace NumberParts

variable (p : NumberParts)

lemma head?_fractionText : ∀ c ∈ p.fractionText.head?, c = '.' := by
  intro c hc
  unfold fractionText at hc
  cases hfraction : p.fraction with
  | none => simp [hfraction] at hc
  | some ds =>
    rw [hfraction] at hc
    exact (Option.some.inj hc).symm

lemma head?_powerText : ∀ c ∈ p.powerText.head?, c = 'e' ∨ c = 'E' := by
  intro c hc
  unfold powerText at hc
  cases hpower : p.power with
  | none => simp [hpower] at hc
  | some power =>
    rw [hpower] at hc
    obtain rfl : power.1 = c := Option.some.inj hc
    exact (p.power_digits power hpower).1

lemma readPower_append (start : List Char) (hend : Delimited rest) :
    readUnsigned.readPower start (p.powerText ++ rest) = some (start ++ p.powerText, rest) := by
  have hdigit := hend.head?_eq_false (p := isDigit) (by decide)
  unfold powerText
  cases hpower : p.power with
  | none =>
    have hletter := hend.head?_eq_false (p := fun c => c = 'e' || c = 'E') (by decide)
    cases rest with
    | nil => simp [readUnsigned.readPower]
    | cons c rest =>
      have hc : ¬(c = 'e' ∨ c = 'E') := by simpa using hletter c rfl
      simp [readUnsigned.readPower, hc]
  | some power =>
    obtain ⟨e, sign, ds⟩ := power
    obtain ⟨he, hsign, hds⟩ := p.power_digits _ hpower
    obtain ⟨htake, hdrop, hne⟩ := hds.span hdigit
    obtain ⟨d, ds', rfl⟩ := List.exists_cons_of_ne_nil hds.1
    have hd : isDigit d = true := hds.2 d List.mem_cons_self
    have hplus : d ≠ '+' := by rintro rfl; cases hd
    have hminus : d ≠ '-' := by rintro rfl; cases hd
    simp only [List.cons_append] at htake hdrop
    simp only [List.mem_cons, List.not_mem_nil, or_false] at hsign
    rcases hsign with rfl | rfl | rfl <;>
      simp [readUnsigned.readPower, he, hplus, hminus, htake, hdrop]

lemma head?_powerText_append (hend : Delimited rest) :
    ∀ c ∈ (p.powerText ++ rest).head?, c ∈ 'e' :: 'E' :: delimiters := by
  intro c hc
  rw [List.head?_append, Option.mem_def, Option.or_eq_some_iff] at hc
  rcases hc with hc | ⟨-, hc⟩
  · rcases p.head?_powerText c hc with rfl | rfl <;> decide
  · exact List.mem_cons_of_mem _ (List.mem_cons_of_mem _ (hend c hc))

lemma head?_fractionText_append (hend : Delimited rest) :
    ∀ c ∈ (p.fractionText ++ (p.powerText ++ rest)).head?,
      c ∈ '.' :: 'e' :: 'E' :: delimiters := by
  intro c hc
  rw [List.head?_append, Option.mem_def, Option.or_eq_some_iff] at hc
  rcases hc with hc | ⟨-, hc⟩
  · obtain rfl := p.head?_fractionText c hc
    decide
  · exact List.mem_cons_of_mem _ (p.head?_powerText_append hend c hc)

lemma readTail_append (whole : List Char) (hend : Delimited rest) :
    readUnsigned.readTail whole (p.fractionText ++ (p.powerText ++ rest)) =
      some (whole ++ (p.fractionText ++ p.powerText), rest) := by
  have hafter := p.head?_powerText_append hend
  have hpower (start : List Char) := p.readPower_append start hend
  unfold fractionText
  cases hfraction : p.fraction with
  | none =>
    have hpoint : ∀ u, p.powerText ++ rest ≠ '.' :: u := by
      intro u hu
      rw [hu] at hafter
      exact absurd (hafter '.' rfl) (by decide)
    simp only [Option.map_none, Option.getD_none, List.nil_append]
    rw [readUnsigned.readTail]
    · exact hpower whole
    · exact hpoint
  | some ds =>
    have hdigit : ∀ c ∈ (p.powerText ++ rest).head?, isDigit c = false := by
      have hclass : ('e' :: 'E' :: delimiters).any isDigit = false := by decide
      exact fun c hc => eq_false_of_any hclass c (hafter c hc)
    obtain ⟨htake, hdrop, hne⟩ := (p.fraction_digits ds hfraction).span hdigit
    simp only [Option.map_some, Option.getD_some, List.cons_append]
    rw [readUnsigned.readTail, htake, hdrop, hne, if_neg (by decide), hpower]
    simp

/-- What stands behind a zero does not make it the start of a hexadecimal number. -/
lemma not_hexMark {x : Char} (h : x ∈ '.' :: 'e' :: 'E' :: delimiters) : ¬(x = 'x' ∨ x = 'X') := by
  rintro (rfl | rfl) <;> revert h <;> decide

lemma readUnsigned_append (hend : Delimited rest) :
    readUnsigned (p.body ++ rest) = some (p.body, rest) := by
  have hafter := p.head?_fractionText_append hend
  have htail := p.readTail_append p.whole hend
  -- no digit follows those of the whole part
  have hdigit : ∀ c ∈ (p.fractionText ++ (p.powerText ++ rest)).head?, isDigit c = false := by
    have hclass : ('.' :: 'e' :: 'E' :: delimiters).any isDigit = false := by decide
    exact fun c hc => eq_false_of_any hclass c (hafter c hc)
  have hbody : p.body ++ rest = p.whole ++ (p.fractionText ++ (p.powerText ++ rest)) := by
    simp [body]
  obtain ⟨htake, hdrop, hne⟩ := p.whole_digits.span hdigit
  rw [hbody, body]
  generalize p.fractionText ++ (p.powerText ++ rest) = after at hafter htail htake hdrop
  -- a zero stands alone; other digits are taken as far as they go
  by_cases hzero : p.whole = ['0']
  · rw [hzero] at htail ⊢
    cases after with
    | nil => exact htail
    | cons x after =>
      have hx := not_hexMark (hafter x rfl)
      rw [List.singleton_append, readUnsigned, if_neg hx]
      exact htail
  · obtain ⟨d, ds, hwhole⟩ := List.exists_cons_of_ne_nil p.whole_digits.1
    have hd : d ≠ '0' := by
      rintro rfl
      exact hzero (p.whole_zero (by rw [hwhole]; rfl))
    rw [hwhole] at htail htake hdrop ⊢
    rw [readUnsigned.eq_def]
    split
    · next heq => exact absurd (List.cons.inj heq).1 hd
    · next heq => exact absurd (List.cons.inj heq).1 hd
    · simp only [htake, hdrop]
      exact htail

lemma exists_cons_body : ∃ d ds, p.body = d :: ds ∧ isDigit d = true := by
  obtain ⟨d, ds, hwhole⟩ := List.exists_cons_of_ne_nil p.whole_digits.1
  refine ⟨d, ds ++ (p.fractionText ++ p.powerText), ?_, ?_⟩
  · rw [body, hwhole]
    rfl
  · exact p.whole_digits.2 d (hwhole ▸ List.mem_cons_self)

lemma exists_cons_text : ∃ c cs, p.text = c :: cs ∧ (c = '-' ∨ isDigit c = true) := by
  unfold text
  split
  · exact ⟨'-', p.body, rfl, .inl rfl⟩
  · obtain ⟨d, ds, hbody, hd⟩ := p.exists_cons_body
    exact ⟨d, ds, hbody, .inr hd⟩

lemma readNumber_append (hend : Delimited rest) :
    readNumber (p.text ++ rest) = some (p.text, rest) := by
  have hread := p.readUnsigned_append hend
  unfold text
  split
  · rw [List.cons_append, readNumber, hread]
    rfl
  · obtain ⟨d, ds, hbody, hd⟩ := p.exists_cons_body
    rw [hbody, List.cons_append] at hread ⊢
    rw [readNumber_digit hd, hread]

end NumberParts

lemma LexesTo.number (p : NumberParts) (hend : Delimited rest) (h : LexesTo rest us) :
    LexesTo (p.text ++ rest) (.number p.text :: us) := by
  obtain ⟨c, cs, htext, hc⟩ := p.exists_cons_text
  have hread := p.readNumber_append hend
  have hnext : next? (p.text ++ rest) = some (some (.number p.text), rest) := by
    rw [htext, List.cons_append] at hread ⊢
    rw [next?_number hc, hread]
    rfl
  refine h.step hnext ?_
  rw [htext, List.length_append, List.length_cons]
  omega

/-! ### Documents -/

mutual

def Document.tokens : Document → List Token
  | .null => [.null]
  | .bool b => [.bool b]
  | .number p => [.number p.text]
  | .string s => [.string s]
  | .array xs => .openBracket :: (skipComma (itemTokens xs) ++ [.closeBracket])
  | .object ms => .openBrace :: (skipComma (memberTokens ms) ++ [.closeBrace])

/-- The tokens of the items of an array, with a comma before each. -/
def itemTokens : List Document → List Token
  | [] => []
  | x :: xs => .comma :: (x.tokens ++ itemTokens xs)

/-- The tokens of the members of an object, with a comma before each. -/
def memberTokens : List (String × Document) → List Token
  | [] => []
  | (k, x) :: ms => .comma :: .string k :: .colon :: (x.tokens ++ memberTokens ms)

end

lemma not_gap_comma (s : List Char) : ¬Gap (',' :: s) := by
  intro h
  cases h with
  | blank hc => exact absurd hc (by decide)

lemma Delimited.items {xs : List Document} {t : List Char} (ht : ItemsSpelledBy xs t)
    (hend : Delimited rest) : Delimited (t ++ rest) := by
  cases xs with
  | nil => exact gap ht hend
  | cons x xs =>
    obtain ⟨g, g', u, t', rfl, hg, -⟩ := ht
    rw [List.append_assoc]
    exact gap hg (.cons (by decide) _)

lemma Delimited.members {ms : List (String × Document)} {t : List Char}
    (ht : MembersSpelledBy ms t) (hend : Delimited rest) : Delimited (t ++ rest) := by
  cases ms with
  | nil => exact gap ht hend
  | cons m ms =>
    obtain ⟨g, g', key, g₁, g₂, u, t', rfl, hg, -⟩ := ht
    rw [List.append_assoc]
    exact gap hg (.cons (by decide) _)

mutual

/-- **A text that spells a document is cut into its tokens.** -/
theorem lexesTo_of_spelledBy {d : Document} {t rest : List Char} {us : List Token}
    (ht : d.SpelledBy t) (hend : Delimited rest) (h : LexesTo rest us) :
    LexesTo (t ++ rest) (d.tokens ++ us) := by
  match d with
  | .null =>
    obtain rfl : t = "null".toList := ht
    exact .null hend h
  | .bool b =>
    obtain rfl : t = (if b then "true" else "false").toList := ht
    exact .bool b hend h
  | .number p =>
    obtain rfl : t = p.text := ht
    exact .number p hend h
  | .string str => exact .quoted ht h
  | .array xs =>
    obtain ⟨u, rfl, hu⟩ := ht
    have hclose : LexesTo (']' :: rest) (.closeBracket :: us) := .mark rfl h
    -- each item is lexed with a comma before it, and the first comma is taken away again
    have hinner : LexesTo (u ++ ']' :: rest)
        (skipComma (itemTokens xs) ++ .closeBracket :: us) := by
      rcases hu with ⟨rfl, hgap⟩ | hitems
      · exact .gap hgap hclose
      · have hcomma := lexesTo_itemTokens hitems (.cons (by decide) _) hclose
        cases xs with
        | nil => exact absurd hitems (not_gap_comma u)
        | cons x xs => exact hcomma.of_comma
    simp only [Document.tokens, List.cons_append, List.append_assoc]
    exact .mark rfl hinner
  | .object ms =>
    obtain ⟨u, rfl, hu⟩ := ht
    have hclose : LexesTo ('}' :: rest) (.closeBrace :: us) := .mark rfl h
    have hinner : LexesTo (u ++ '}' :: rest)
        (skipComma (memberTokens ms) ++ .closeBrace :: us) := by
      rcases hu with ⟨rfl, hgap⟩ | hmembers
      · exact .gap hgap hclose
      · have hcomma := lexesTo_memberTokens hmembers (.cons (by decide) _) hclose
        cases ms with
        | nil => exact absurd hmembers (not_gap_comma u)
        | cons m ms => exact hcomma.of_comma
    simp only [Document.tokens, List.cons_append, List.append_assoc]
    exact .mark rfl hinner

lemma lexesTo_itemTokens {xs : List Document} {t rest : List Char} {us : List Token}
    (ht : ItemsSpelledBy xs t) (hend : Delimited rest) (h : LexesTo rest us) :
    LexesTo (t ++ rest) (itemTokens xs ++ us) := by
  match xs with
  | [] => exact .gap ht h
  | x :: xs =>
    -- put together from the end, since each part is cut before what is cut already
    obtain ⟨g, g', u, t', rfl, hg, hg', hu, hrest⟩ := ht
    have hxs := lexesTo_itemTokens hrest hend h
    have hx := lexesTo_of_spelledBy hu (.items hrest hend) hxs
    simp only [itemTokens, List.append_assoc, List.cons_append]
    exact .gap hg (.mark rfl (.gap hg' hx))

lemma lexesTo_memberTokens {ms : List (String × Document)} {t rest : List Char}
    {us : List Token} (ht : MembersSpelledBy ms t) (hend : Delimited rest)
    (h : LexesTo rest us) : LexesTo (t ++ rest) (memberTokens ms ++ us) := by
  match ms with
  | [] => exact .gap ht h
  | (k, x) :: ms =>
    obtain ⟨g, g', key, g₁, g₂, u, t', rfl, hg, hg', hkey, hg₁, hg₂, hu, hrest⟩ := ht
    have hms := lexesTo_memberTokens hrest hend h
    have hx := lexesTo_of_spelledBy hu (.members hrest hend) hms
    have hcolon : LexesTo (':' :: (g₂ ++ (u ++ (t' ++ rest))))
        (.colon :: (x.tokens ++ (memberTokens ms ++ us))) := .mark rfl (.gap hg₂ hx)
    simp only [memberTokens, List.append_assoc, List.cons_append]
    exact .gap hg (.mark rfl (.gap hg' (.quoted hkey (.gap hg₁ hcolon))))

end

end FleetScript.Json
