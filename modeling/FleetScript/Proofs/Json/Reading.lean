import FleetScript.Proofs.Json.Lexing

/-!
Reading documents. A text that spells a document is read as the value of that document, whose
numbers are the nearest there are and whose objects have their members in the order of the keys.
-/

namespace FleetScript.Json

open Text Token

/-! ### Numbers -/

namespace NumberParts

variable (p : NumberParts)

/-- The number that is written, if it is not beyond the greatest. -/
def number? : Option Number :=
  Number.ofDecimal? p.minus (Number.parts p.body).1 (Number.parts p.body).2

/-- The parts are found again: the digits before the point, and whether there are more. -/
lemma parts_body : (Number.parts p.body).2.whole = p.whole ∧
    (Number.parts p.body).1 = (p.fraction.isNone && p.power.isNone) := by
  have hletter : ∀ c, isDigit c = true → (!(c = 'e' || c = 'E')) = true := by
    intro c hc
    rw [Bool.not_eq_true', Bool.or_eq_false_iff]
    constructor <;> refine decide_eq_false ?_ <;> rintro rfl <;> cases hc
  -- the letter of the power stands behind all digits before it
  have hstart : ∀ c ∈ p.whole ++ p.fractionText, (!(c = 'e' || c = 'E')) = true := by
    intro c hc
    rcases List.mem_append.mp hc with hc | hc
    · exact hletter c (p.whole_digits.2 c hc)
    · unfold fractionText at hc
      cases hfraction : p.fraction with
      | none => simp [hfraction] at hc
      | some ds =>
        rw [hfraction] at hc
        rcases List.mem_cons.mp hc with rfl | hc
        · rfl
        · exact hletter c ((p.fraction_digits ds hfraction).2 c hc)
  have hpower : ∀ c ∈ p.powerText.head?, (!(c = 'e' || c = 'E')) = false := by
    intro c hc
    rcases p.head?_powerText c hc with rfl | rfl <;> rfl
  -- and the point stands behind the digits of the whole part
  have hpoint : ∀ c ∈ p.fractionText.head?, isDigit c = false := by
    intro c hc
    obtain rfl := p.head?_fractionText c hc
    rfl
  have hbody : p.body = (p.whole ++ p.fractionText) ++ p.powerText := by simp [body]
  obtain ⟨htake, -⟩ := span_append hstart hpower
  obtain ⟨hwhole, -⟩ := span_append p.whole_digits.2 hpoint
  refine ⟨?_, ?_⟩
  · simp only [Number.parts, hbody, htake, hwhole]
  · simp only [Number.parts, hbody, htake, hwhole]
    cases hfraction : p.fraction <;> cases hp : p.power <;>
      simp [fractionText, powerText, hfraction, hp]

lemma head?_text : (p.text.head? = some '-' ↔ p.minus = true) ∧ p.text.head? ≠ some '+' := by
  obtain ⟨d, ds, hbody, hd⟩ := p.exists_cons_body
  have hminus : d ≠ '-' := by rintro rfl; cases hd
  have hplus : d ≠ '+' := by rintro rfl; cases hd
  unfold text
  cases p.minus <;> simp [hbody, hminus, hplus]

/-- No number is taken for a hexadecimal one. -/
lemma body_ne_hex {x : Char} {ds : List Char} (h : p.body = '0' :: x :: ds) :
    ¬(x = 'x' ∨ x = 'X') := by
  have hzero : p.whole = ['0'] := by
    obtain ⟨d, w, hwhole⟩ := List.exists_cons_of_ne_nil p.whole_digits.1
    rw [body, hwhole, List.cons_append] at h
    refine p.whole_zero ?_
    rw [hwhole, (List.cons.inj h).1]
    rfl
  have hafter : p.fractionText ++ (p.powerText ++ []) = x :: ds := by
    rw [body, hzero] at h
    simpa using (List.cons.inj h).2
  exact not_hexMark (p.head?_fractionText_append .nil x (by rw [hafter]; rfl))

/-- A number is read as the number that is written, and as a string if it is too great. -/
theorem ofNumberText_text :
    ofNumberText p.text =
      match p.number? with
      | some n => .number n
      | none => .string (String.ofList p.text) := by
  obtain ⟨hminus, hplus⟩ := p.head?_text
  have hsign : decide (p.text.head? = some '-') = p.minus := by
    rw [Bool.eq_iff_iff, decide_eq_true_eq, hminus]
  have hbody : (if p.minus || p.text.head? = some '+' then p.text.tail else p.text) = p.body := by
    unfold text at hplus ⊢
    cases hm : p.minus <;> simp_all
  unfold ofNumberText number?
  simp only [hsign, hbody]
  congr 1
  split
  · next x ds heq => rw [if_neg (p.body_ne_hex heq)]
  · rfl

/-- Digits alone, with or without a sign, are kept whole within their range. -/
lemma number?_of_whole (hfraction : p.fraction = none) (hpower : p.power = none)
    (hle : numeral 10 p.whole ≤ Number.maxNatural)
    (hminus : p.minus = true → 0 < numeral 10 p.whole ∧ numeral 10 p.whole ≤ 0x8000000000000000) :
    p.number? = some (if p.minus then .negative (numeral 10 p.whole)
      else .natural (numeral 10 p.whole)) := by
  obtain ⟨hwhole, hisWhole⟩ := p.parts_body
  unfold number? Number.ofDecimal?
  simp only [hwhole, hisWhole, hfraction, hpower]
  cases hm : p.minus with
  | false => simp [hle]
  | true => simp [hle, hminus hm]

theorem number?_eq_natural_iff {n : Nat} :
    p.number? = some (.natural n) ↔
      p.minus = false ∧ p.fraction = none ∧ p.power = none ∧ numeral 10 p.whole = n ∧
        n ≤ Number.maxNatural := by
  constructor
  · intro h
    obtain ⟨hwhole, hisWhole⟩ := p.parts_body
    unfold number? Number.ofDecimal? at h
    simp only [hwhole, hisWhole] at h
    split at h
    · next hcond =>
      cases hm : p.minus with
      | true => simp [hm] at h
      | false =>
        have hn : numeral 10 p.whole = n := by simpa [hm] using h
        simp only [Bool.and_eq_true, decide_eq_true_eq, Option.isNone_iff_eq_none] at hcond
        exact ⟨rfl, hcond.1.1.1, hcond.1.1.2, hn, hn ▸ hcond.1.2⟩
    · obtain ⟨x, -, hx⟩ := Option.map_eq_some_iff.mp h
      cases hx
  · rintro ⟨hminus, hfraction, hpower, rfl, hle⟩
    rw [p.number?_of_whole hfraction hpower hle (by simp [hminus]), hminus]
    rfl

end NumberParts

/-! ### Values -/

mutual

/-- The value of a document: objects have their members in the order of the keys, and of two
members with one key the later alone. -/
def Document.value : Document → Json
  | .null => .null
  | .bool b => .bool b
  | .number p => ofNumberText p.text
  | .string s => .string s
  | .array xs => .array (itemValues xs)
  | .object ms => ofMembers (memberValues ms)

def itemValues : List Document → List Json
  | [] => []
  | x :: xs => x.value :: itemValues xs

def memberValues : List (String × Document) → List (String × Json)
  | [] => []
  | (k, x) :: ms => (k, x.value) :: memberValues ms

end

lemma exists_cons_tokens (d : Document) : ∃ t ts, d.tokens = t :: ts ∧ t ≠ .closeBracket := by
  cases d <;> exact ⟨_, _, rfl, by simp⟩

lemma skipComma_itemTokens (xs : List Document) (rest : List Token) :
    skipComma (itemTokens xs ++ .closeBracket :: rest) =
      skipComma (itemTokens xs) ++ .closeBracket :: rest := by
  cases xs <;> rfl

lemma skipComma_memberTokens (ms : List (String × Document)) (rest : List Token) :
    skipComma (memberTokens ms ++ .closeBrace :: rest) =
      skipComma (memberTokens ms) ++ .closeBrace :: rest := by
  cases ms <;> rfl

lemma length_skipComma_le (ts : List Token) : (skipComma ts).length ≤ ts.length := by
  unfold skipComma
  split <;> simp

mutual

/-- **The tokens of a document are read as its value.** A step is counted for each token at
most. -/
theorem value?_tokens (d : Document) {n : Nat} (hn : d.tokens.length ≤ n) (rest : List Token) :
    value? n (d.tokens ++ rest) = some (d.value, rest) := by
  match n, d with
  | 0, d =>
    obtain ⟨t, ts, ht, -⟩ := exists_cons_tokens d
    simp [ht] at hn
  | n + 1, .null | n + 1, .bool _ | n + 1, .string _ | n + 1, .number _ => rfl
  | n + 1, .array xs =>
    simp only [Document.tokens, List.length_cons, List.length_append] at hn
    rw [Document.tokens, List.cons_append, List.append_assoc, List.singleton_append, value?,
      items?_itemTokens xs (by omega)]
    rfl
  | n + 1, .object ms =>
    simp only [Document.tokens, List.length_cons, List.length_append] at hn
    rw [Document.tokens, List.cons_append, List.append_assoc, List.singleton_append, value?,
      members?_memberTokens ms (by omega)]
    rfl

lemma items?_itemTokens (xs : List Document) {n : Nat}
    (hn : (skipComma (itemTokens xs)).length < n) (rest : List Token) :
    items? n (skipComma (itemTokens xs) ++ .closeBracket :: rest) =
      some (itemValues xs, rest) := by
  match n, xs with
  | n + 1, [] => rfl
  | n + 1, x :: xs =>
    obtain ⟨t, ts, ht, hclose⟩ := exists_cons_tokens x
    have hle := length_skipComma_le (itemTokens xs)
    simp only [itemTokens, skipComma, ht, List.length_cons, List.length_append] at hn
    have hx := value?_tokens x (n := n) (by simp only [ht, List.length_cons]; omega)
      (itemTokens xs ++ .closeBracket :: rest)
    have hrest := items?_itemTokens xs (n := n) (by omega) rest
    -- the first token is looked at before the item is read: it does not close the array
    rw [ht, List.cons_append] at hx
    simp only [itemTokens, itemValues, ht, List.cons_append, List.append_assoc, skipComma]
    rw [items?]
    · simp [hx, hrest, skipComma_itemTokens]
    · simpa using hclose

lemma members?_memberTokens (ms : List (String × Document)) {n : Nat}
    (hn : (skipComma (memberTokens ms)).length < n) (rest : List Token) :
    members? n (skipComma (memberTokens ms) ++ .closeBrace :: rest) =
      some (memberValues ms, rest) := by
  match n, ms with
  | n + 1, [] => rfl
  | n + 1, (k, x) :: ms =>
    have hle := length_skipComma_le (memberTokens ms)
    simp only [memberTokens, skipComma, List.length_cons, List.length_append] at hn
    have hx := value?_tokens x (n := n) (by omega) (memberTokens ms ++ .closeBrace :: rest)
    have hrest := members?_memberTokens ms (n := n) (by omega) rest
    simp only [memberTokens, memberValues, List.cons_append, List.append_assoc, skipComma]
    rw [members?]
    · simp [keyOf?, hx, hrest, skipComma_memberTokens]
    · simp

end

/-- **A text that spells a document is read as its value.** -/
theorem read_of_fileText {d : Document} {text : List Char} (h : d.FileText text) :
    read text = .value d.value := by
  obtain ⟨g, t, e, rfl, hg, ht, he⟩ := h
  have hlex : LexesTo (g ++ (t ++ e)) d.tokens := by
    have htokens := lexesTo_of_spelledBy ht (.ending he) (.ending he)
    rw [List.append_nil] at htokens
    exact .gap hg htokens
  have hne : d.tokens.isEmpty = false := by
    obtain ⟨u, us, hu, -⟩ := exists_cons_tokens d
    rw [hu]
    rfl
  have hvalue := value?_tokens d (n := 2 * d.tokens.length) (by omega) []
  rw [List.append_nil] at hvalue
  unfold read ofTokens
  rw [hlex.lex_eq]
  simp [hvalue, hne]

end FleetScript.Json
