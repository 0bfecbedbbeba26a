import FleetScript.Proofs.Host.Writing
import FleetScript.Proofs.Runner.Compile
import FleetScript.Session.Client

/-!
Hosts as arguments of clients. A client is given the name of its host as an argument of its own,
with no option before it, so a client takes a name that starts with a hyphen for an option. The
domain never decides how a name starts, and neither does percent coding; what decides is the text of
the address alone, and `hyphen_argument_iff` says how.
-/

namespace FleetScript

open Text

namespace Host

variable {s t : List Char}

/-! ### Where a host starts -/

/-- A login before a host: nothing, or a text with an at sign at its end. -/
def IsLogin (login : List Char) : Prop :=
  login = [] ∨ ∃ user, login = user ++ ['@'] ∧ ∀ c ∈ user, endsAuthority c = false

lemma IsLogin.inside {login : List Char} (h : IsLogin login) :
    ∀ c ∈ login, endsAuthority c = false := by
  rcases h with rfl | ⟨user, rfl, huser⟩
  · simp
  · refine List.forall_mem_append.mpr ⟨huser, ?_⟩
    simp [endsAuthority]

/-- Behind a login that takes in all at signs stand host and port. -/
lemma placeOf_append {login : List Char} (h : IsLogin login)
    (hat : '@' ∉ t.takeWhile (!endsAuthority ·)) :
    placeOf (login ++ t) = t.takeWhile (!endsAuthority ·) := by
  have hauthority : (login ++ t).takeWhile (!endsAuthority ·) =
      login ++ t.takeWhile (!endsAuthority ·) :=
    List.takeWhile_append_of_pos fun c hc => by simpa using h.inside c hc
  unfold placeOf
  simp only [hauthority]
  rcases h with rfl | ⟨user, rfl, -⟩
  · rw [List.nil_append, cutUser_eq_none hat]
    rfl
  · rw [List.append_assoc, List.singleton_append, cutUser_append hat]
    rfl

/-- Every text starts with a login that takes in all at signs of the authority. -/
lemma exists_login (s : List Char) :
    ∃ login t, s = login ++ t ∧ IsLogin login ∧ '@' ∉ t.takeWhile (!endsAuthority ·) := by
  -- the login ends at the last at sign of the authority, found from behind
  rcases not_mem_or_eq_append '@' (s.takeWhile (!endsAuthority ·)).reverse with
    hat | ⟨place, user, hauthority, hat⟩
  · exact ⟨[], s, rfl, .inl rfl, List.mem_reverse.not.mp hat⟩
  · have hs : s.takeWhile (!endsAuthority ·) = user.reverse ++ '@' :: place.reverse := by
      rw [← List.reverse_reverse (s.takeWhile _), hauthority]
      simp
    have hinside : ∀ c ∈ user.reverse ++ '@' :: place.reverse, (!endsAuthority c) = true :=
      fun c hc => List.mem_takeWhile_imp (p := (!endsAuthority ·)) (hs ▸ hc)
    have hplace : ∀ c ∈ place.reverse, (!endsAuthority c) = true := fun c hc =>
      hinside c (List.mem_append_right _ (List.mem_cons_of_mem _ hc))
    have htake := (span_append hplace fun c hc =>
      head?_dropWhile (fun c => !endsAuthority c) s c hc).1
    refine ⟨user.reverse ++ ['@'], place.reverse ++ s.dropWhile (!endsAuthority ·), ?_,
      .inr ⟨_, rfl, fun c hc => ?_⟩, ?_⟩
    · rw [List.append_assoc, List.singleton_append, ← List.cons_append, ← List.append_assoc, ← hs,
        List.takeWhile_append_dropWhile]
    · simpa using hinside c (List.mem_append_left _ hc)
    · rw [htake]
      exact List.mem_reverse.not.mpr hat

/-! ### How a host starts -/

/-- A text whose host starts with a hyphen: the hyphen stands behind a scheme and `://`, and behind
a login that takes in all at signs of the authority. -/
def HyphenHost (text : List Char) : Prop :=
  ∃ scheme login rest, text = scheme ++ "://".toList ++ (login ++ '-' :: rest) ∧
    (∀ c ∈ scheme, isSchemeChar c = true) ∧ IsLogin login ∧
    '@' ∉ rest.takeWhile (!endsAuthority ·)

lemma takeWhile_hyphen (rest : List Char) :
    ('-' :: rest).takeWhile (!endsAuthority ·) = '-' :: rest.takeWhile (!endsAuthority ·) :=
  List.takeWhile_cons_of_pos (by decide)

lemma head?_placeOf_iff :
    (placeOf s).head? = some '-' ↔ ∃ login rest, s = login ++ '-' :: rest ∧ IsLogin login ∧
      '@' ∉ rest.takeWhile (!endsAuthority ·) := by
  constructor
  · intro h
    obtain ⟨login, t, rfl, hlogin, hat⟩ := exists_login s
    rw [placeOf_append hlogin hat] at h
    obtain ⟨place, hplace⟩ := List.head?_eq_some_iff.mp h
    cases t with
    | nil => cases hplace
    | cons c rest =>
      -- a hyphen does not end the authority, so it is the first character of both
      obtain rfl : c = '-' := by
        rw [List.takeWhile_cons] at hplace
        split at hplace
        · exact (List.cons.inj hplace).1
        · cases hplace
      rw [takeWhile_hyphen] at hat
      exact ⟨login, rest, rfl, hlogin, fun hm => hat (List.mem_cons_of_mem _ hm)⟩
  · rintro ⟨login, rest, rfl, hlogin, hat⟩
    have hat' : '@' ∉ ('-' :: rest).takeWhile (!endsAuthority ·) := by
      rw [takeWhile_hyphen]
      simpa using hat
    rw [placeOf_append hlogin hat', takeWhile_hyphen]
    rfl

lemma eq_of_behind_scheme {a b : List Char} (ha : ∀ c ∈ a, isSchemeChar c = true)
    (hb : ∀ c ∈ b, isSchemeChar c = true)
    (h : a ++ "://".toList ++ s = b ++ "://".toList ++ t) : s = t := by
  have hcut {a : List Char} (ha : ∀ c ∈ a, isSchemeChar c = true) (s : List Char) :
      (a ++ "://".toList ++ s).dropWhile isSchemeChar = "://".toList ++ s := by
    rw [List.append_assoc]
    exact (span_append ha (by rintro _ ⟨⟩; decide)).2
  have hrest := congrArg (List.dropWhile isSchemeChar) h
  rw [hcut ha, hcut hb] at hrest
  exact List.append_cancel_left hrest

lemma hyphenHost_iff {scheme : List Char} (hscheme : ∀ c ∈ scheme, isSchemeChar c = true) :
    HyphenHost (scheme ++ "://".toList ++ s) ↔ (placeOf s).head? = some '-' := by
  rw [head?_placeOf_iff]
  constructor
  · rintro ⟨scheme', login, rest, htext, hscheme', hrest⟩
    exact ⟨login, rest, eq_of_behind_scheme hscheme hscheme' htext, hrest⟩
  · rintro ⟨login, rest, rfl, hrest⟩
    exact ⟨scheme, login, rest, rfl, hscheme, hrest⟩

/-! ### Reading and writing the host -/

lemma head?_cutHost (h : (cutHost false s).1 ≠ []) : (cutHost false s).1.head? = s.head? := by
  cases s with
  | nil => rfl
  | cons c s =>
    unfold cutHost at h ⊢
    split at h
    · exact absurd rfl h
    · next hc =>
      rw [if_neg hc]
      rfl

/-- Percent coding leaves a hyphen, and starts with none. -/
lemma head?_percentEncode {keep : Char → Bool} (hkeep : keep '-' = true) (h0 : s ≠ []) :
    (percentEncode keep s).head? = some '-' ↔ s.head? = some '-' := by
  cases s with
  | nil => exact absurd rfl h0
  | cons c s =>
    unfold percentEncode
    rw [List.flatMap_cons, List.head?_append]
    split
    · rfl
    · next hc =>
      have hne : c ≠ '-' := fun e => hc (e ▸ hkeep)
      obtain ⟨b, bs, hbytes⟩ := List.exists_cons_of_ne_nil (String.utf8EncodeChar_ne_nil (c := c))
      simp [hbytes, percentByte, hne]

lemma head?_keptHost {host : HostName} (h : keptHost s = .ok host) (h0 : s ≠ []) :
    host.text.toList.head? = some '-' ↔ s.head? = some '-' := by
  unfold keptHost at h
  split at h
  · next hbracket =>
    unfold bracketed at h
    split at h
    · split at h
      · obtain rfl := Except.ok.inj h
        have hno := IPv6.not_mem_write (c := '-') (by decide) (by decide)
        rw [hbracket]
        refine iff_of_false (fun hhead => hno _ (List.mem_of_mem_head? hhead)) (by decide)
      · cases h
    · cases h
  split at h
  · cases h
  obtain rfl := Except.ok.inj h
  rw [HostName.text, String.toList_ofList]
  exact head?_percentEncode (by decide) h0

lemma head?_qualify (hostname domain : String) :
    (qualify hostname domain).toList.head? = some '-' ↔ hostname.toList.head? = some '-' := by
  unfold qualify
  dsimp only
  split
  · rfl
  · rw [String.toList_append, String.toList_append]
    cases hostname.toList with
    | nil => simp
    | cons c rest => rfl

lemma head?_hostname {raw protocol : String} {a : Address} {p : Protocol}
    (h : parse raw protocol = .ok a) (hp : Protocol.ofScheme? a.protocol = some p) :
    a.hostname.toList.head? = some '-' ↔
      HyphenHost (strip (withProtocol protocol (trimChars raw.toList))) := by
  obtain ⟨scheme, s, host, htext, hscheme, h0, hkept, hname⟩ := exists_keptHost_of_parse h hp
  rw [htext, hyphenHost_iff hscheme, ← head?_cutHost h0, hname]
  exact head?_keptHost hkept h0

end Host

/-! ### Arguments -/

/-- The argument that names the host: telnet takes it first, and ssh last. -/
def Client.hostArgument? (spec : ConnectSpec) (auth : Option Authentication) : Option String :=
  match spec.protocol with
  | .telnet => (arguments spec auth).head?
  | .ssh _ => (arguments spec auth).getLast?

lemma Client.hostArgument?_eq (spec : ConnectSpec) (auth : Option Authentication) :
    hostArgument? spec auth = some spec.host := by
  unfold hostArgument? arguments
  cases spec.protocol with
  | telnet => rfl
  | ssh version => exact List.getLast?_concat

namespace Runner

/-- **When a client takes its host for an option.** The argument that names the host starts with a
hyphen exactly if the host does in the text of the address. -/
theorem hyphen_argument_iff {r : Runner} {disk : Disk} {ctx : RunContext} {entry : Host.Entry}
    {o : Options} {p : Plan} (h : r.compile disk ctx entry o = .ok (.plan p)) :
    ∃ argument, Client.hostArgument? p.connect p.authentication = some argument ∧
      (argument.toList.head? = some '-' ↔ Host.HyphenHost (Host.strip (Host.withProtocol
        (o.protocol.getD Host.defaultProtocol) (trimChars entry.raw.toList)))) := by
  have hcompiles := compiles r disk ctx entry o
  rw [h] at hcompiles
  cases hcompiles with
  | plan hl ha hs hp =>
    refine ⟨_, Client.hostArgument?_eq _ _, ?_⟩
    exact (Host.head?_qualify _ _).trans (Host.head?_hostname ha hp)

/-- A host that ssh takes for the option that names a local command. -/
theorem hyphen_argument_of_ssh :
    let entry : Host.Entry := { raw := "ops@-oProxyCommand=id", queryVars := ∅ }
    let r : Runner := .ofHosts [entry] "show version"
    let o : Options := { protocol := some "ssh" }
    ∃ p argument, r.compile {} oneThread entry o = .ok (.plan p) ∧
      Client.hostArgument? p.connect p.authentication = some argument ∧
      argument.toList.head? = some '-' := by
  intro entry r o
  obtain ⟨p, hp⟩ := Option.isSome_iff_exists.mp
    (by decide +kernel : (r.plan? {} oneThread entry o).isSome)
  obtain ⟨argument, hargument, hhead⟩ := hyphen_argument_iff (compile_of_plan? hp)
  have hscheme : "ssh".toList.all Host.isSchemeChar = true := by decide +kernel
  have huser : "ops".toList.all (!Host.endsAuthority ·) = true := by decide +kernel
  refine ⟨p, argument, compile_of_plan? hp, hargument, hhead.mpr ⟨"ssh".toList, "ops@".toList,
    "oProxyCommand=id".toList, ?_, List.all_eq_true.mp hscheme, .inr ⟨"ops".toList, rfl, ?_⟩, ?_⟩⟩
  · decide +kernel
  · simpa using huser
  · decide +kernel

/-- Not every host argument that a plan gives is safe from being taken for an option. -/
theorem host_read_as_option :
    ¬ ∀ (r : Runner) (disk : Disk) (ctx : RunContext) (entry : Host.Entry) (o : Options) (p : Plan),
      r.compile disk ctx entry o = .ok (.plan p) →
      ∀ argument, Client.hostArgument? p.connect p.authentication = some argument →
        argument.toList.head? ≠ some '-' := by
  intro h
  let entry : Host.Entry := { raw := "ssh://-oProxyCommand=id", queryVars := ∅ }
  let r : Runner := .ofHosts [entry] "show version"
  obtain ⟨p, hp, hargument⟩ : ∃ p ∈ r.plan? {} oneThread entry {},
      Client.hostArgument? p.connect p.authentication = some "-oProxyCommand=id" := by
    decide +kernel
  exact h r {} oneThread entry {} p (compile_of_plan? hp) _ hargument (by decide)

end Runner

end FleetScript
