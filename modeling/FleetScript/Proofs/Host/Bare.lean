import FleetScript.Proofs.Host.Writing

/-!
Addresses that name no protocol, `hostname[:port][?query]`. Such a text takes the default protocol,
and is then cut at the question mark and at the colon before it. Whether a text names a protocol is
decided by a search for `://` through all of it, so a query that holds these characters is taken for
the rest of an address whose scheme comes first: `parse_bare_iff` says that these are the only
queries that go wrong. `FormPairs` says what a query spells, apart from the reader.
-/

namespace FleetScript.Host

open Text

/-! ### Naming a protocol -/

/-- Whether a text names its protocol: it holds `://`, and where web addresses start to be read it
starts with a scheme and these characters. -/
def NamesProtocol (raw : String) : Prop :=
  "://".toList <:+: trimChars raw.toList ∧
    ∃ scheme rest, strip (trimChars raw.toList) = scheme ++ "://".toList ++ rest ∧
      (∃ c ∈ scheme.head?, isLetter c = true) ∧ ∀ c ∈ scheme, isSchemeChar c = true

/-- A text that holds `://` has a protocol that sessions speak only if it names it. -/
lemma namesProtocol_of_parse {raw default : String} {a : Address} {p : Protocol}
    (h : parse raw default = .ok a) (hp : a.protocol = p.scheme)
    (hmark : "://".toList <:+: trimChars raw.toList) : NamesProtocol raw := by
  unfold parse at h
  rw [read_eq, withProtocol, if_pos (occurs_iff.mpr hmark)] at h
  split at h
  · cases h
  unfold ofUrl at h
  split at h
  · cases h
  next url hurl =>
  split at h
  · cases h
  next host hhost =>
  obtain rfl := Except.ok.inj h
  obtain ⟨scheme, rest, hstrip, hhead, hchars, -⟩ :=
    exists_authority_of_read hurl (kind_of_protocol hp) hhost
  exact ⟨hmark, scheme, rest, hstrip, hhead, hchars⟩

/-! ### Queries -/

def decoded (s : List Char) : String := String.ofList (formDecodeText s)

/-- The pairs that a form coded query spells. Between ampersands stand parts: a key and its value
around the first equals sign, a key without one, whose value is empty, or nothing. -/
inductive FormPairs : List Char → List (String × String) → Prop where
  | nothing : FormPairs [] []
  | key {k : List Char} (h0 : k ≠ []) (hamp : '&' ∉ k) (heq : '=' ∉ k) :
    FormPairs k [(decoded k, "")]
  | pair {k v : List Char} (hamp : '&' ∉ k) (heq : '=' ∉ k) (hamp' : '&' ∉ v) :
    FormPairs (k ++ '=' :: v) [(decoded k, decoded v)]
  | both {a b : List Char} {ps qs : List (String × String)} (ha : FormPairs a ps)
    (hb : FormPairs b qs) : FormPairs (a ++ '&' :: b) (ps ++ qs)

lemma queryPairs_append (a b : List Char) :
    queryPairs (a ++ '&' :: b) = queryPairs a ++ queryPairs b := by
  unfold queryPairs
  rw [fields_append_cons, List.filter_append, List.map_append]

lemma queryPairs_of_part {part : List Char} (h0 : part ≠ []) (hamp : '&' ∉ part) :
    queryPairs part = [(decoded ((cut '=' part).getD (part, [])).1,
      decoded ((cut '=' part).getD (part, [])).2)] := by
  have hfull : [part].filter (!·.isEmpty) = [part] := by simpa using h0
  unfold queryPairs
  rw [fields_of_not_mem hamp, hfull]
  rfl

lemma queryPairs_of_key {k : List Char} (h0 : k ≠ []) (hamp : '&' ∉ k) (heq : '=' ∉ k) :
    queryPairs k = [(decoded k, "")] := by
  rw [queryPairs_of_part h0 hamp, cut_eq_none heq]
  rfl

lemma queryPairs_of_pair {k v : List Char} (hamp : '&' ∉ k) (heq : '=' ∉ k) (hamp' : '&' ∉ v) :
    queryPairs (k ++ '=' :: v) = [(decoded k, decoded v)] := by
  rw [queryPairs_of_part (by simp) (by simp [hamp, hamp']), cut_append heq]
  rfl

lemma formPairs_queryPairs (query : List Char) : FormPairs query (queryPairs query) := by
  induction hn : query.length using Nat.strong_induction_on generalizing query with
  | h n ih =>
  rcases not_mem_or_eq_append '&' query with hamp | ⟨a, b, rfl, -⟩
  · rcases not_mem_or_eq_append '=' query with heq | ⟨k, v, rfl, heq⟩
    · by_cases h0 : query = []
      · subst h0
        exact .nothing
      · rw [queryPairs_of_key h0 hamp heq]
        exact .key h0 hamp heq
    · simp only [List.mem_append, List.mem_cons, not_or] at hamp
      rw [queryPairs_of_pair hamp.1 heq hamp.2.2]
      exact .pair hamp.1 heq hamp.2.2
  · rw [queryPairs_append]
    rw [List.length_append, List.length_cons] at hn
    exact .both (ih a.length (by omega) a rfl) (ih b.length (by omega) b rfl)

theorem formPairs_iff {query : List Char} {pairs : List (String × String)} :
    FormPairs query pairs ↔ queryPairs query = pairs := by
  refine ⟨fun h => ?_, fun h => h ▸ formPairs_queryPairs query⟩
  induction h with
  | nothing => rfl
  | key h0 hamp heq => exact queryPairs_of_key h0 hamp heq
  | pair hamp heq hamp' => exact queryPairs_of_pair hamp heq hamp'
  | both _ _ iha ihb => rw [queryPairs_append, iha, ihb]

/-! ### Bare addresses -/

/-- An address that names no protocol: a plain hostname, the digits of a port if there is one, and a
query of visible characters if there is one. -/
structure Bare where
  hostname : String
  port : Option String := none
  query : Option String := none
  hostname_ne : hostname ≠ "" := by decide
  hostname_plain : hostname.toList.all isNameChar = true := by decide
  port_digits : ∀ ds ∈ port, ds ≠ "" ∧ ds.toList.all isDigit = true ∧
    numeral 10 ds.toList ≤ 65535 := by decide
  query_visible : ∀ q ∈ query, q.toList.all (ClearOf "#" ·) = true := by decide

namespace Bare

variable (a : Bare)

def portText : List Char := (a.port.map fun ds => ':' :: ds.toList).getD []

def place : List Char := a.hostname.toList ++ a.portText

/-- The characters of the query. -/
def queryText : List Char := (a.query.getD "").toList

def tail : List Char := (a.query.map fun q => '?' :: q.toList).getD []

/-- The address as `hostname[:port][?query]`. -/
def text : String := String.ofList (a.place ++ a.tail)

variable {a} {c : Char}

lemma toList_text : a.text.toList = a.place ++ a.tail := String.toList_ofList

/-! ### Characters -/

variable (a) in
lemma hostname_isNameChar : ∀ c ∈ a.hostname.toList, isNameChar c = true :=
  List.all_eq_true.mp a.hostname_plain

lemma hostname_ne_nil : a.hostname.toList ≠ [] := fun e =>
  a.hostname_ne (String.toList_eq_nil_iff.mp e)

variable (a) in
lemma isPortText : IsPortText a.portText (a.port.map fun ds => numeral 10 ds.toList) := by
  unfold portText
  cases hp : a.port with
  | none => exact .none
  | some ds =>
    obtain ⟨h0, hdigits, hle⟩ := a.port_digits ds hp
    exact .digits (fun e => h0 (String.toList_eq_nil_iff.mp e)) (List.all_eq_true.mp hdigits) hle

lemma clearOf_of_mem_tail (h : c ∈ a.tail) : ClearOf "#" c := by
  unfold tail at h
  cases hq : a.query with
  | none => simp [hq] at h
  | some q =>
    rw [hq] at h
    rcases List.mem_cons.mp h with rfl | h
    · decide
    · exact clearOf_of_all (a.query_visible q hq) h

lemma clearOf_of_mem_text (h : c ∈ a.text.toList) : ClearOf "" c := by
  rw [toList_text] at h
  rcases List.mem_append.mp h with h | h
  · exact (clearOf_of_mem_place a.hostname_isNameChar a.isPortText h).mono (by decide)
  · exact (clearOf_of_mem_tail h).mono (by decide)

lemma visible_of_mem_text : ∀ c ∈ a.text.toList, 0x20 < c.toNat :=
  fun _ hc => (clearOf_of_mem_text hc).1

lemma tail_cases : a.tail = [] ∧ a.queryText = [] ∨ a.tail = '?' :: a.queryText := by
  unfold tail queryText
  cases a.query with
  | none => exact .inl ⟨rfl, rfl⟩
  | some q => exact .inr rfl

/-- The characters `://` stand nowhere but in the query. -/
lemma behind_place {x y : List Char} (h : a.text.toList = x ++ ("://".toList ++ y)) :
    ∃ z, x = a.place ++ '?' :: z ∧ a.queryText = z ++ "://".toList ++ y := by
  have hslash : '/' ∉ a.place := fun hm =>
    (clearOf_of_mem_place a.hostname_isNameChar a.isPortText hm).2.2 (by decide)
  have hhead : ∀ c ∈ a.tail.head?, c = '?' := by
    rcases tail_cases (a := a) with ⟨h, -⟩ | h <;> simp [h]
  rw [toList_text] at h
  rcases List.append_eq_append_iff.mp h with ⟨z, hx, hz⟩ | ⟨z, hplace, hz⟩
  · rcases tail_cases (a := a) with ⟨htail, -⟩ | htail
    · rw [htail] at hz
      exact absurd hz (by simp)
    · rw [htail] at hz
      cases z with
      | nil => cases hz
      | cons c z =>
        obtain ⟨rfl, hquery⟩ := List.cons.inj hz
        exact ⟨z, hx, hquery.trans (List.append_assoc _ _ _).symm⟩
  · -- it would start before the question mark, and have a slash there
    match z, hz with
    | [], hz => cases hhead ':' (congrArg List.head? hz).symm
    | [_], hz => cases hhead '/' (congrArg List.head? (List.cons.inj hz).2).symm
    | _ :: d :: z, hz =>
      obtain rfl : '/' = d := (List.cons.inj (List.cons.inj hz).2).1
      exact absurd (by rw [hplace]; simp) hslash

lemma mark_infix_iff : "://".toList <:+: a.text.toList ↔ "://".toList <:+: a.queryText := by
  constructor
  · rintro ⟨x, y, h⟩
    obtain ⟨z, -, hquery⟩ := behind_place (h.symm.trans (List.append_assoc _ _ _))
    exact ⟨z, y, hquery.symm⟩
  · intro h
    have hsuffix : a.queryText <:+: a.text.toList := by
      rw [toList_text]
      rcases tail_cases (a := a) with ⟨-, hq⟩ | htail
      · rw [hq]
        exact List.nil_infix
      · exact ⟨a.place ++ ['?'], [], by simp [htail]⟩
    exact h.trans hsuffix

/-! ### Cuts -/

lemma cutUser_place : (cutUser a.place).getD ([], a.place) = ([], a.place) := by
  have hat : '@' ∉ a.place := fun hm =>
    (clearOf_of_mem_place a.hostname_isNameChar a.isPortText hm).2.2 (by decide)
  rw [cutUser_eq_none hat]
  rfl

lemma endsAuthority_of_mem_head? (h : c ∈ a.tail.head?) : endsAuthority c = true := by
  rcases tail_cases (a := a) with ⟨htail, -⟩ | htail
  · simp [htail] at h
  · rw [htail] at h
    obtain rfl := Option.some.inj h
    rfl

lemma queryOf_tail : queryOf a.tail = a.queryText := by
  have hwhole : a.tail.takeWhile (fun c => decide (c ≠ '#')) = a.tail := by
    refine List.takeWhile_eq_self_iff.mpr fun c hc => decide_eq_true ?_
    rintro rfl
    exact (clearOf_of_mem_tail hc).2.2 (by decide)
  unfold queryOf
  rw [hwhole]
  unfold tail queryText
  cases a.query <;> rfl

/-! ### Reading -/

variable (a) in
/-- The address that is meant, under a protocol. -/
def address (p : Protocol) : Address where
  protocol := p.scheme
  username := none
  password := none
  hostname := a.hostname
  port := a.port.map fun ds => numeral 10 ds.toList
  vars := Variables.ofPairs (queryPairs a.queryText)

lemma trimChars_text : trimChars a.text.toList = a.text.toList :=
  trimChars_of_clearOf fun _ => clearOf_of_mem_text

lemma readAuthority_text :
    readAuthority "" false none a.text.toList = .ok {
      scheme := ""
      host := some (.name a.hostname.toList)
      port := a.port.map fun ds => numeral 10 ds.toList
      query := queryPairs a.queryText } := by
  have htail : ∀ c ∈ a.tail.head?, endsAuthority c = true := fun c => endsAuthority_of_mem_head?
  have hplace : ∀ c ∈ a.place, endsAuthority c = false := fun c hc =>
    endsAuthority_of_clearOf
      ((clearOf_of_mem_place a.hostname_isNameChar a.isPortText hc).mono (by decide))
  have hread := readAuthority_of_cuts "" hplace htail (cutUser_place (a := a)) rfl
    (cutHost_place a.hostname_isNameChar a.isPortText) (keptHost_of_plain a.hostname_isNameChar)
    hostname_ne_nil a.isPortText.portOf_tail
  rw [toList_text, hread, queryOf_tail]
  rfl

lemma parse_text {p : Protocol} (h : ¬"://".toList <:+: a.queryText) :
    parse a.text p.scheme = .ok (a.address p) := by
  have hmark : occurs "://".toList a.text.toList = false :=
    occurs_eq_false_iff.mpr (mark_infix_iff.not.mpr h)
  have hfull : a.text.toList.isEmpty = false := by
    rw [toList_text]
    simp [place, a.hostname_ne]
  have hhost : (HostName.name a.hostname.toList).text = a.hostname := String.ofList_toList
  unfold parse
  rw [read_eq, trimChars_text, hfull, withProtocol, hmark]
  simp only [Bool.false_eq_true, if_false]
  rw [(keepsHosts_scheme p).read, stripBehind_of_visible visible_of_mem_text,
    readAuthority_text, lowerScheme_scheme]
  simp only [Except.map, ofUrl, hhost]
  rfl

lemma not_namesProtocol_text : ¬NamesProtocol a.text := by
  rintro ⟨-, scheme, rest, hstrip, -, hchars⟩
  rw [trimChars_text, strip_of_visible visible_of_mem_text, List.append_assoc] at hstrip
  obtain ⟨z, rfl, -⟩ := behind_place hstrip
  exact absurd (hchars '?' (by simp)) (by decide)

end Bare

/-- **A bare address is read with the default protocol** if its query does not hold `://`, and only
then: its hostname and port come back, and the variables are the pairs that the query spells. -/
theorem parse_bare_iff (a : Bare) (p : Protocol) :
    ∃ pairs, FormPairs a.queryText pairs ∧
      ((∃ b, parse a.text p.scheme = .ok b ∧ b.protocol = p.scheme ∧ b.username = none ∧
          b.password = none ∧ b.hostname = a.hostname ∧
          b.port = (a.port.map fun ds => numeral 10 ds.toList) ∧
          ∀ key, b.vars.get? key =
            if valuesOf key pairs = [] then none else some (valuesOf key pairs)) ↔
        ¬"://".toList <:+: a.queryText) := by
  refine ⟨queryPairs a.queryText, formPairs_queryPairs _, ?_, fun h => ?_⟩
  · rintro ⟨b, hparse, hprotocol, -⟩ hmark
    refine Bare.not_namesProtocol_text (a := a) (namesProtocol_of_parse hparse hprotocol ?_)
    rw [Bare.trimChars_text]
    exact Bare.mark_infix_iff.mpr hmark
  · exact ⟨a.address p, Bare.parse_text h, rfl, rfl, rfl, rfl, rfl, Variables.get?_ofPairs _⟩

/-- A query that holds an address makes its text one of an address without scheme. -/
theorem parse_bare_address_in_query :
    let a : Bare := { hostname := "r1", query := some "u=http://x" }
    a.text = "r1?u=http://x" ∧ FormPairs a.queryText [("u", "http://x")] ∧
      parse a.text "telnet" = .error (.invalidHost "r1?u=http://x" (.url .withoutScheme)) := by
  refine ⟨by decide +kernel, formPairs_iff.mpr ?_, ?_⟩ <;> decide +kernel

end FleetScript.Host
