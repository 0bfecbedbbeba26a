import FleetScript.Proofs.Host.Schemes
import FleetScript.Proofs.Text.Coding

/-!
The characters of hostnames. An address ends its host at a slash, and writing a host down brings
none in: percent coding writes percent signs and hexadecimal digits, and an IPv6 address is written
in hexadecimal digits and colons. So no hostname of a protocol that sessions speak holds a slash.
No hostname is empty either, under any protocol.
-/

namespace FleetScript

open Text

/-! ### Digits -/

lemma not_mem_hex {c : Char} (hc : ∀ d < 16, c ≠ Nat.digitChar d) (n : Nat) : c ∉ hex n := by
  induction n using Nat.strong_induction_on with
  | h n ih =>
    unfold hex at *
    rw [Nat.toDigits_eq_if (by decide)]
    split
    · next h => simpa using hc n h
    · next h =>
      have hfront := ih (n / 16) (by omega)
      simpa using ⟨hfront, hc (n % 16) (by omega)⟩

lemma slash_not_mem_percentByte (b : UInt8) : '/' ∉ percentByte b := by
  have hdigit : ∀ d < 16, (hexDigit d).toUpper ≠ '/' := by decide
  have hb : b.toNat < 256 := b.toNat_lt
  have h1 := (hdigit (b.toNat / 16) (by omega)).symm
  have h2 := (hdigit (b.toNat % 16) (by omega)).symm
  simpa [percentByte, byteHex] using ⟨h1, h2⟩

lemma slash_not_mem_percentEncode {keep : Char → Bool} {s : List Char} (h : '/' ∉ s) :
    '/' ∉ percentEncode keep s := by
  unfold percentEncode
  intro hm
  obtain ⟨c, hc, hm⟩ := List.mem_flatMap.mp hm
  split at hm
  · exact h (List.mem_singleton.mp hm ▸ hc)
  · obtain ⟨b, -, hb⟩ := List.mem_flatMap.mp hm
    exact slash_not_mem_percentByte b hb

lemma not_mem_joinWith {c : Char} {sep : String} {l : List String} (hsep : c ∉ sep.toList)
    (hl : ∀ s ∈ l, c ∉ s.toList) : c ∉ (joinWith sep l).toList := by
  induction l with
  | nil => exact List.not_mem_nil
  | cons s rest ih =>
    have hs := hl s List.mem_cons_self
    cases rest with
    | nil => exact hs
    | cons s' rest =>
      have hrest := ih fun x hx => hl x (List.mem_cons_of_mem _ hx)
      simp only [joinWith, String.toList_append, List.mem_append, not_or]
      exact ⟨⟨hs, hsep⟩, hrest⟩

namespace Host

/-! ### Hosts -/

lemma IPv6.not_mem_write {c : Char} (hc : ∀ d < 16, c ≠ Nat.digitChar d) (hcolon : c ≠ ':')
    (a : IPv6) : c ∉ a.write.toList := by
  have hpieces (ps : List Nat) : c ∉ (writePieces ps).toList := by
    refine not_mem_joinWith (by simpa using hcolon) fun s hs => ?_
    obtain ⟨n, -, rfl⟩ := List.mem_map.mp hs
    rw [String.toList_ofList]
    exact not_mem_hex hc n
  unfold write
  dsimp only
  split
  · exact hpieces _
  · simp [hpieces, hcolon]

lemma slash_not_mem_keptHost {s : List Char} {host : HostName} (h : keptHost s = .ok host) :
    '/' ∉ host.text.toList := by
  unfold keptHost at h
  split at h
  · unfold bracketed at h
    split at h
    · split at h
      · obtain rfl := Except.ok.inj h
        exact IPv6.not_mem_write (by decide) (by decide) _
      · cases h
    · cases h
  split at h
  · cases h
  next hany =>
  obtain rfl := Except.ok.inj h
  have hs : '/' ∉ s := fun hm => hany (List.any_eq_true.mpr ⟨'/', hm, by decide⟩)
  rw [HostName.text, String.toList_ofList]
  exact slash_not_mem_percentEncode hs

/-! ### Addresses -/

/-- Host and port: the authority behind its last at sign. -/
def placeOf (s : List Char) : List Char :=
  let authority := s.takeWhile (!endsAuthority ·)
  ((cutUser authority).getD ([], authority)).2

lemma exists_host_of_readAuthority {scheme : String} {web : Bool} {port : Option Nat}
    {s : List Char} {url : Url} {host : HostName} (h : readAuthority scheme web port s = .ok url)
    (hhost : url.host = some host) :
    ∃ text, text ≠ [] ∧ (web = false → text = (cutHost false (placeOf s)).1) ∧
      (if web then webHost text else keptHost text) = .ok host := by
  unfold readAuthority at h
  cases web
  all_goals
    simp only [Bool.false_eq_true, if_false, if_true, bind, Except.bind, pure, Except.pure, throw,
      throwThe, MonadExceptOf.throw] at h
    split at h
    · cases h
    split at h
    · cases h
    split at h
    · cases h
    next name hname =>
    split at h
    · cases h
    split at h
    · cases h
    obtain rfl := Except.ok.inj h
    dsimp only at hhost
    split at hhost
    · cases hhost
    · next hfull =>
      obtain rfl := Option.some.inj hhost
      exact ⟨_, fun hnil => hfull (List.isEmpty_iff.mpr hnil), fun hweb => by cases hweb <;> rfl,
        hname⟩

/-- The host that is read behind a scheme that keeps hosts as they are. -/
lemma keptHost_of_readAuthority {scheme : String} {port : Option Nat} {s : List Char}
    {url : Url} {host : HostName} (h : readAuthority scheme false port s = .ok url)
    (hhost : url.host = some host) :
    (cutHost false (placeOf s)).1 ≠ [] ∧ keptHost (cutHost false (placeOf s)).1 = .ok host := by
  obtain ⟨text, htext, hplace, hkept⟩ := exists_host_of_readAuthority h hhost
  obtain rfl := hplace rfl
  exact ⟨htext, hkept⟩

lemma scheme_of_readAuthority {scheme : String} {web : Bool} {port : Option Nat} {s : List Char}
    {url : Url} (h : readAuthority scheme web port s = .ok url) : url.scheme = scheme := by
  rw [readAuthority_scheme] at h
  cases hr : readAuthority "" web port s with
  | error e =>
    rw [hr] at h
    cases h
  | ok url' =>
    rw [hr] at h
    obtain rfl := Except.ok.inj h
    rfl

lemma scheme_of_readFileUrl {scheme : String} {s : List Char} {url : Url}
    (h : readFileUrl scheme s = .ok url) : url.scheme = scheme := by
  unfold readFileUrl at h
  simp only [bind, Except.bind, pure, Except.pure] at h
  split at h
  · split at h
    · split at h
      · exact Except.ok.inj h ▸ rfl
      split at h
      · cases h
      split at h <;> exact Except.ok.inj h ▸ rfl
    · exact Except.ok.inj h ▸ rfl
  · exact Except.ok.inj h ▸ rfl

/-- A host under a scheme that keeps hosts as they are stands behind that scheme and `://`. -/
lemma exists_authority_of_read {text : List Char} {url : Url} {host : HostName}
    (h : Url.read text = .ok url) (hkind : SchemeKind.of url.scheme = .other)
    (hhost : url.host = some host) :
    ∃ a s, strip text = a ++ "://".toList ++ s ∧ (∃ c ∈ a.head?, isLetter c = true) ∧
      (∀ c ∈ a, isSchemeChar c = true) ∧ readAuthority url.scheme false none s = .ok url := by
  unfold Url.read at h
  split at h
  · cases h
  next scheme rest hcut =>
  split at h
  · next hfile =>
    rw [scheme_of_readFileUrl h, hfile] at hkind
    cases hkind
  · next port hweb =>
    rw [scheme_of_readAuthority h, hweb] at hkind
    cases hkind
  · split at h
    · next s =>
      obtain ⟨a, htext, hhead, hchars, -⟩ := eq_append_of_cutScheme hcut
      refine ⟨a, s, ?_, hhead, hchars, ?_⟩
      · rw [htext, List.append_assoc]
        rfl
      · rw [scheme_of_readAuthority h]
        exact h
    · obtain rfl := Except.ok.inj h
      cases hhost

lemma kind_of_protocol {scheme : String} {p : Protocol} (h : scheme = p.scheme) :
    SchemeKind.of scheme = .other := by
  rw [h]
  rcases p with _ | _ | _ | _ <;> decide

/-- Under a protocol of sessions the host of an address stands behind a scheme and `://`, and is
kept as it is. -/
lemma exists_keptHost_of_parse {raw protocol : String} {a : Address} {p : Protocol}
    (h : parse raw protocol = .ok a) (hp : Protocol.ofScheme? a.protocol = some p) :
    ∃ scheme s host, strip (withProtocol protocol (trimChars raw.toList)) =
        scheme ++ "://".toList ++ s ∧ (∀ c ∈ scheme, isSchemeChar c = true) ∧
      (cutHost false (placeOf s)).1 ≠ [] ∧ keptHost (cutHost false (placeOf s)).1 = .ok host ∧
        a.hostname = host.text := by
  unfold parse Address.read at h
  dsimp only at h
  split at h
  · cases h
  split at h
  · cases h
  next url hurl =>
  split at h
  · cases h
  next host hhost =>
  obtain rfl := Except.ok.inj h
  obtain ⟨scheme, s, htext, -, hscheme, hs⟩ := exists_authority_of_read hurl
    (kind_of_protocol (Protocol.ofScheme?_eq_some_iff.mp hp)) hhost
  obtain ⟨h0, hkept⟩ := keptHost_of_readAuthority hs hhost
  exact ⟨scheme, s, host, htext, hscheme, h0, hkept, rfl⟩

/-- **No hostname of a protocol that sessions speak holds a slash.** -/
theorem slash_not_mem_hostname {raw protocol : String} {a : Address} {p : Protocol}
    (h : parse raw protocol = .ok a) (hp : Protocol.ofScheme? a.protocol = some p) :
    '/' ∉ a.hostname.toList := by
  obtain ⟨_, _, host, -, -, -, hkept, hname⟩ := exists_keptHost_of_parse h hp
  rw [hname]
  exact slash_not_mem_keptHost hkept

lemma slash_not_mem_qualify {hostname domain : String} (h : '/' ∉ hostname.toList)
    (hd : '/' ∉ domain.toList) : '/' ∉ (qualify hostname domain).toList := by
  unfold qualify
  dsimp only
  split
  · exact h
  · have hbare : '/' ∉ domain.toList.dropWhile (· = '.') := fun hm =>
      hd ((List.dropWhile_suffix _).subset hm)
    simp [h, hbare]

/-! ### No host is empty -/

lemma IPv4.write_ne_empty (n : Nat) : IPv4.write n ≠ "" := by
  simp [IPv4.write, joinWith]

lemma IPv6.write_ne_empty (a : IPv6) : a.write ≠ "" := by
  unfold write
  dsimp only
  split
  · obtain ⟨ps, hlen⟩ := a
    obtain _ | ⟨p, _ | ⟨q, ps⟩⟩ := ps
    · cases hlen
    · cases hlen
    · simp [writePieces, joinWith]
  · simp

lemma text_ne_empty_of_bracketed {s : List Char} {host : HostName} (h : bracketed s = .ok host) :
    host.text ≠ "" := by
  unfold bracketed at h
  split at h
  · split at h
    · obtain rfl := Except.ok.inj h
      exact IPv6.write_ne_empty _
    · cases h
  · cases h

lemma text_ne_empty_of_name {s : List Char} (h : s ≠ []) : (HostName.name s).text ≠ "" :=
  fun e => h (String.ofList_eq_empty_iff.mp e)

lemma text_ne_empty_of_keptHost {s : List Char} {host : HostName} (hs : s ≠ [])
    (h : keptHost s = .ok host) : host.text ≠ "" := by
  unfold keptHost at h
  split at h
  · exact text_ne_empty_of_bracketed h
  split at h
  · cases h
  obtain rfl := Except.ok.inj h
  exact text_ne_empty_of_name (percentEncode_ne_nil hs)

lemma text_ne_empty_of_webHost {s : List Char} {host : HostName} (h : webHost s = .ok host) :
    host.text ≠ "" := by
  unfold webHost at h
  split at h
  · exact text_ne_empty_of_bracketed h
  split at h
  · cases h
  · cases h
  next name hname _ =>
  split at h
  · split at h
    · obtain rfl := Except.ok.inj h
      exact IPv4.write_ne_empty _
    · cases h
  · obtain rfl := Except.ok.inj h
    exact text_ne_empty_of_name fun e => hname (by rw [e])

lemma text_ne_empty_of_readFileUrl {scheme : String} {s : List Char} {url : Url} {host : HostName}
    (h : readFileUrl scheme s = .ok url) (hhost : url.host = some host) : host.text ≠ "" := by
  unfold readFileUrl at h
  simp only [bind, Except.bind, pure, Except.pure] at h
  have hnone (q : List (String × String))
      (e : (.ok { scheme, query := q } : Except UrlError Url) = .ok url) : host.text ≠ "" := by
    obtain rfl := Except.ok.inj e
    cases hhost
  split at h
  · split at h
    · split at h
      · exact hnone _ h
      split at h
      · cases h
      next name hname =>
      split at h
      · exact hnone _ h
      · obtain rfl := Except.ok.inj h
        obtain rfl := Option.some.inj hhost
        exact text_ne_empty_of_webHost hname
    · exact hnone _ h
  · exact hnone _ h

lemma text_ne_empty_of_read {text : List Char} {url : Url} {host : HostName}
    (h : Url.read text = .ok url) (hhost : url.host = some host) : host.text ≠ "" := by
  have hauthority {scheme : String} {web : Bool} {port : Option Nat} {s : List Char}
      (h : readAuthority scheme web port s = .ok url) : host.text ≠ "" := by
    obtain ⟨s', hs, -, hread⟩ := exists_host_of_readAuthority h hhost
    cases web with
    | true => exact text_ne_empty_of_webHost hread
    | false => exact text_ne_empty_of_keptHost hs hread
  unfold Url.read at h
  split at h
  · cases h
  split at h
  · exact text_ne_empty_of_readFileUrl h hhost
  · exact hauthority h
  · split at h
    · exact hauthority h
    · obtain rfl := Except.ok.inj h
      cases hhost

/-- **No hostname is empty.** -/
theorem hostname_ne_empty {raw protocol : String} {a : Address} (h : parse raw protocol = .ok a) :
    a.hostname ≠ "" := by
  unfold parse Address.read at h
  dsimp only at h
  split at h
  · cases h
  split at h
  · cases h
  next url hurl =>
  split at h
  · cases h
  next host hhost =>
  obtain rfl := Except.ok.inj h
  exact text_ne_empty_of_read hurl hhost

end Host

end FleetScript
