import FleetScript.Host.Error
import FleetScript.Proofs.Text.Cuts
import FleetScript.Protocol

/-!
Addresses read with a default protocol. Under a scheme that is neither that of files nor a web
scheme hosts are kept as they are, so whichever of these an address without a scheme takes, all its
other parts are the same. The protocols that sessions speak are such schemes.
-/

namespace FleetScript.Host

open Text

/-! ### A text behind a scheme -/

/-- The text of `strip` behind a part that stays. -/
def stripBehind (s : List Char) : List Char :=
  ((s.reverse.dropWhile fun c => c.toNat ≤ 0x20).reverse).filter fun c =>
    c ≠ '\t' && c ≠ '\n' && c ≠ '\r'

lemma dropWhile_of_visible {a : List Char} (ha : ∀ c ∈ a, 0x20 < c.toNat) :
    a.dropWhile (fun c => decide (c.toNat ≤ 0x20)) = a := by
  cases a with
  | nil => rfl
  | cons c a => simp [Nat.not_le.mpr (ha c List.mem_cons_self)]

lemma filter_of_visible {a : List Char} (ha : ∀ c ∈ a, 0x20 < c.toNat) :
    a.filter (fun c => c ≠ '\t' && c ≠ '\n' && c ≠ '\r') = a := by
  refine List.filter_eq_self.mpr fun c hc => ?_
  have := ha c hc
  simp only [Bool.and_eq_true, decide_eq_true_eq, ne_eq]
  refine ⟨⟨?_, ?_⟩, ?_⟩ <;> rintro rfl <;> revert this <;> decide

lemma stripBehind_of_visible {a : List Char} (ha : ∀ c ∈ a, 0x20 < c.toNat) :
    stripBehind a = a := by
  unfold stripBehind
  rw [dropWhile_of_visible fun c hc => ha c (List.mem_reverse.mp hc), List.reverse_reverse,
    filter_of_visible ha]

/-- Nothing before a visible character is taken from the end of a text. -/
lemma stripBehind_append {a : List Char} (h0 : a ≠ []) (ha : ∀ c ∈ a, 0x20 < c.toNat)
    (t s : List Char) :
    stripBehind (t ++ (a ++ s)) =
      t.filter (fun c => c ≠ '\t' && c ≠ '\n' && c ≠ '\r') ++ (a ++ stripBehind s) := by
  have hstop : (a.reverse ++ t.reverse).dropWhile (fun c => decide (c.toNat ≤ 0x20)) =
      a.reverse ++ t.reverse := by
    obtain ⟨c, r, hr⟩ := List.exists_cons_of_ne_nil (List.reverse_eq_nil_iff.not.mpr h0)
    have hc : 0x20 < c.toNat := ha c (List.mem_reverse.mp (hr ▸ List.mem_cons_self))
    simp [hr, Nat.not_le.mpr hc]
  have hend : (s.reverse ++ (a.reverse ++ t.reverse)).dropWhile
      (fun c => decide (c.toNat ≤ 0x20)) =
      s.reverse.dropWhile (fun c => decide (c.toNat ≤ 0x20)) ++ (a.reverse ++ t.reverse) := by
    rw [List.dropWhile_append, hstop]
    split
    · next h => rw [List.isEmpty_iff.mp h, List.nil_append]
    · rfl
  unfold stripBehind
  rw [List.reverse_append, List.reverse_append, List.append_assoc, hend, List.reverse_append,
    List.reverse_append, List.reverse_reverse, List.reverse_reverse, List.append_assoc,
    List.filter_append, List.filter_append, filter_of_visible ha]

lemma strip_append {a : List Char} (h0 : a ≠ []) (ha : ∀ c ∈ a, 0x20 < c.toNat) (s : List Char) :
    strip (a ++ s) = a ++ stripBehind s := by
  have hstart : (a ++ s).dropWhile (fun c => decide (c.toNat ≤ 0x20)) = a ++ s := by
    cases a with
    | nil => exact absurd rfl h0
    | cons c a => simp [Nat.not_le.mpr (ha c List.mem_cons_self)]
  unfold strip
  simp only [hstart]
  exact stripBehind_append h0 ha [] s

lemma strip_of_visible {a : List Char} (ha : ∀ c ∈ a, 0x20 < c.toNat) : strip a = a := by
  cases a with
  | nil => rfl
  | cons c a =>
    have hstrip := strip_append (List.cons_ne_nil c a) ha []
    rwa [List.append_nil, stripBehind_of_visible (List.forall_mem_nil _), List.append_nil] at hstrip

lemma cutScheme_append {a : List Char} (hhead : ∃ c ∈ a.head?, isLetter c = true)
    (ha : ∀ c ∈ a, isSchemeChar c = true) (s : List Char) :
    cutScheme (a ++ ':' :: s) = some (String.ofList (lowerAscii a), s) := by
  obtain ⟨c, hc, hletter⟩ := hhead
  have hhead : (a ++ ':' :: s).head? = some c := by
    rw [List.head?_append, Option.mem_def.mp hc]
    rfl
  obtain ⟨htake, hdrop⟩ := span_append (b := ':' :: s) ha (by rintro _ ⟨⟩; decide)
  unfold cutScheme
  simp only [hhead, htake, hdrop, hletter, if_true]

lemma eq_append_of_cutScheme {s rest : List Char} {scheme : String}
    (h : cutScheme s = some (scheme, rest)) :
    ∃ a, s = a ++ ':' :: rest ∧ (∃ c ∈ a.head?, isLetter c = true) ∧
      (∀ c ∈ a, isSchemeChar c = true) ∧ scheme = String.ofList (lowerAscii a) := by
  unfold cutScheme at h
  split at h
  · next c rest' hhead hdrop =>
    split at h
    · next hletter =>
      obtain ⟨rfl, rfl⟩ := Prod.mk.inj (Option.some.inj h)
      refine ⟨s.takeWhile isSchemeChar, ?_, ⟨c, ?_, hletter⟩, fun c hc => ?_, rfl⟩
      · rw [← hdrop, List.takeWhile_append_dropWhile]
      · obtain ⟨s, rfl⟩ := List.head?_eq_some_iff.mp hhead
        rw [List.takeWhile_cons_of_pos (by simp [isSchemeChar, hletter])]
        rfl
      · exact List.mem_takeWhile_imp hc
    · cases h
  · cases h

lemma readAuthority_scheme (scheme : String) (web : Bool) (port : Option Nat) (s : List Char) :
    readAuthority scheme web port s =
      (readAuthority "" web port s).map fun url => { url with scheme } := by
  change _ = (fun url : Url => { url with scheme }) <$> readAuthority "" web port s
  unfold readAuthority
  simp only [map_bind, map_pure,
    apply_ite (Functor.map (f := Except UrlError) fun url : Url => { url with scheme })]

/-! ### Schemes that keep hosts as they are -/

def lowerScheme (scheme : String) : String := String.ofList (lowerAscii scheme.toList)

/-- A text that is read as a scheme, and as one that is neither that of files nor a web scheme. -/
structure KeepsHosts (scheme : String) : Prop where
  head : ∃ c ∈ scheme.toList.head?, isLetter c = true
  chars : ∀ c ∈ scheme.toList, isSchemeChar c = true
  kind : SchemeKind.of (lowerScheme scheme) = .other

lemma ascii_of_isSchemeChar {c : Char} (h : isSchemeChar c = true) :
    0x20 < c.toNat ∧ c.toNat < 0x7F := by
  simp only [isSchemeChar, Bool.or_eq_true, decide_eq_true_eq] at h
  rcases h with ((h | rfl) | rfl) | rfl
  · have hcode := toNat_of_isLetter_or_isDigit h
    omega
  all_goals decide

lemma KeepsHosts.read {scheme : String} (h : KeepsHosts scheme) (s : List Char) :
    Url.read (scheme.toList ++ "://".toList ++ s) =
      (readAuthority "" false none (stripBehind s)).map fun url =>
        { url with scheme := lowerScheme scheme } := by
  have hvisible : ∀ c ∈ scheme.toList ++ "://".toList, 0x20 < c.toNat := by
    refine List.forall_mem_append.mpr ⟨fun c hc => (ascii_of_isSchemeChar (h.chars c hc)).1, ?_⟩
    simp
  have hstrip : strip (scheme.toList ++ "://".toList ++ s) =
      scheme.toList ++ ':' :: '/' :: '/' :: stripBehind s := by
    rw [strip_append (by simp) hvisible, List.append_assoc]
    rfl
  have hcut : cutScheme (scheme.toList ++ ':' :: '/' :: '/' :: stripBehind s) =
      some (lowerScheme scheme, '/' :: '/' :: stripBehind s) :=
    cutScheme_append h.head h.chars _
  unfold Url.read
  simp only [hstrip, hcut, h.kind]
  exact readAuthority_scheme _ _ _ _

/-- The protocols that sessions speak have such schemes, written as they are read. -/
lemma keepsHosts_scheme (p : Protocol) : KeepsHosts p.scheme where
  head := by
    rcases p with _ | _ | _ | _
    · exact ⟨'t', rfl, rfl⟩
    all_goals exact ⟨'s', rfl, rfl⟩
  chars := by
    have hall : p.scheme.toList.all isSchemeChar = true := by rcases p with _ | _ | _ | _ <;> rfl
    exact List.all_eq_true.mp hall
  kind := by rcases p with _ | _ | _ | _ <;> decide

/-! ### Addresses under such schemes -/

def ofUrl : Except UrlError Url → Except AddressError Address
  | .error cause => .error (.url cause)
  | .ok url =>
    match url.host with
    | none => .error .missingHostname
    | some host =>
      .ok {
        protocol := url.scheme
        username := url.user
        password := url.password
        hostname := host.text
        port := url.port
        vars := Variables.ofPairs url.query }

lemma read_eq (raw protocol : String) :
    Address.read raw protocol =
      if (trimChars raw.toList).isEmpty then .error .emptyText
      else ofUrl (Url.read (withProtocol protocol (trimChars raw.toList))) := by
  unfold Address.read ofUrl
  rfl

lemma ofUrl_map (r : Except UrlError Url) (scheme : String) :
    ofUrl (r.map fun url => { url with scheme }) =
      (ofUrl r).map fun a => { a with protocol := scheme } := by
  rcases r with e | ⟨_, _, _, _ | _, _, _⟩ <;> rfl

/-- **Addresses read with schemes that keep hosts as they are** differ in the protocol alone, and
not even in that if they have a scheme of their own. -/
theorem KeepsHosts.read_address {p q : String} (hp : KeepsHosts p) (hq : KeepsHosts q)
    (raw : String) :
    Address.read raw p =
      if occurs "://".toList (trimChars raw.toList) then Address.read raw q
      else (Address.read raw q).map fun a => { a with protocol := lowerScheme p } := by
  rw [read_eq, read_eq]
  by_cases h0 : (trimChars raw.toList).isEmpty
  · rw [if_pos h0, if_pos h0]
    split <;> rfl
  rw [if_neg h0, if_neg h0]
  by_cases hs : occurs "://".toList (trimChars raw.toList)
  · rw [withProtocol, withProtocol, if_pos hs, if_pos hs, if_pos hs]
  · rw [withProtocol, withProtocol, if_neg hs, if_neg hs, if_neg hs, hp.read, hq.read, ofUrl_map,
      ofUrl_map]
    cases ofUrl (readAuthority "" false none (stripBehind (trimChars raw.toList))) <;> rfl

/-- Whichever of these schemes is the default, an address has the same host. -/
lemma KeepsHosts.hostname_of_parse {p raw : String} (hp : KeepsHosts p) {a : Address}
    (h : parse raw defaultProtocol = .ok a) :
    ∃ b, parse raw p = .ok b ∧ b.hostname = a.hostname := by
  unfold parse at h ⊢
  rw [hp.read_address (keepsHosts_scheme .telnet)]
  cases hr : Address.read raw defaultProtocol with
  | error e =>
    rw [hr] at h
    cases h
  | ok a' =>
    rw [hr] at h
    obtain rfl := Except.ok.inj h
    rw [show Protocol.telnet.scheme = defaultProtocol from rfl, hr]
    split
    · exact ⟨a', rfl, rfl⟩
    · exact ⟨_, rfl, rfl⟩

lemma hostname_of_parse {p : Protocol} {raw : String} {a : Address}
    (h : parse raw defaultProtocol = .ok a) :
    ∃ b, parse raw p.scheme = .ok b ∧ b.hostname = a.hostname :=
  (keepsHosts_scheme p).hostname_of_parse h

/-- An address with a scheme of its own is read without the default one. -/
lemma parse_of_occurs {raw : String} (h : occurs "://".toList (trimChars raw.toList) = true)
    (p q : String) : parse raw p = parse raw q := by
  unfold parse
  rw [read_eq, read_eq, withProtocol, withProtocol, if_pos h, if_pos h]

end FleetScript.Host
