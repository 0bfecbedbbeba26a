import FleetScript.Proofs.Host.IPv6
import FleetScript.Proofs.Runner.HostArguments

/-!
IPv6 addresses as hosts. A literal in brackets is the host of an address wherever it stands behind
the login and before the port (`LiteralHost`), and the session gets the shortest text of the same
address, without the brackets. That text never holds a dot, so it counts as a name to which the
domain is appended, and what a client is then given names no longer the address
(`literal_host_of_plan`).
-/

namespace FleetScript

open Text

namespace Host

variable {s t literal : List Char}

/-! ### Where a literal stands -/

/-- A text whose host is a literal in brackets: behind a scheme and `://`, and behind a login that
takes in all at signs of the authority, stand the brackets, and behind these a port or nothing of
the authority. -/
def LiteralHost (text literal : List Char) : Prop :=
  ∃ scheme login rest, text = scheme ++ "://".toList ++ (login ++ '[' :: (literal ++ ']' :: rest)) ∧
    (∀ c ∈ scheme, isSchemeChar c = true) ∧ IsLogin login ∧
    (∀ c ∈ literal, c ∉ "@]".toList ∧ endsAuthority c = false) ∧
    (∀ c ∈ rest.head?, c = ':' ∨ endsAuthority c = true) ∧
    '@' ∉ rest.takeWhile (!endsAuthority ·)

lemma cutHost_inside (hl : ']' ∉ literal) {port : List Char} (hport : ∀ c ∈ port.head?, c = ':') :
    cutHost true (literal ++ ']' :: port) = (literal ++ [']'], port) := by
  induction literal with
  | nil =>
    have hcut : cutHost false ([] ++ port) = ([], port) := cutHost_append nofun hport
    rw [List.nil_append] at hcut ⊢
    rw [cutHost]
    simp [hcut]
  | cons c literal ih =>
    have hc : c ≠ ']' := fun e => hl (e ▸ List.mem_cons_self)
    have hrest := ih fun hm => hl (List.mem_cons_of_mem c hm)
    rw [List.cons_append, cutHost]
    simp [hc, hrest]

lemma cutHost_brackets (hl : ']' ∉ literal) {port : List Char}
    (hport : ∀ c ∈ port.head?, c = ':') :
    cutHost false ('[' :: (literal ++ ']' :: port)) = ('[' :: (literal ++ [']']), port) := by
  rw [cutHost]
  simp [cutHost_inside hl hport]

lemma keptHost_brackets {host : HostName} (h : keptHost ('[' :: (literal ++ [']'])) = .ok host) :
    ∃ ip, IPv6.read? literal = some ip ∧ host = .ipv6 ip := by
  have hreverse : ('[' :: (literal ++ [']'])).reverse = ']' :: (literal.reverse ++ ['[']) := by
    simp
  unfold keptHost bracketed at h
  rw [List.head?_cons, if_pos rfl, hreverse] at h
  simp only [List.reverse_append, List.reverse_reverse, List.reverse_singleton,
    List.singleton_append, List.tail_cons] at h
  split at h
  · next ip hip => exact ⟨ip, hip, (Except.ok.inj h).symm⟩
  · cases h

/-- **A literal in brackets is read as the address that it stands for.** -/
theorem exists_address_of_literalHost {raw protocol : String} {a : Address} {p : Protocol}
    (h : parse raw protocol = .ok a) (hp : Protocol.ofScheme? a.protocol = some p)
    (hl : LiteralHost (strip (withProtocol protocol (trimChars raw.toList))) literal) :
    ∃ ip, IPv6.read? literal = some ip ∧ a.hostname = ip.write := by
  obtain ⟨scheme, s, host, htext, hscheme, -, hkept, hname⟩ := exists_keptHost_of_parse h hp
  obtain ⟨scheme', login, rest, htext', hscheme', hlogin, hliteral, hrest, hat⟩ := hl
  obtain rfl := eq_of_behind_scheme hscheme hscheme' (htext.symm.trans htext')
  have htake : ('[' :: (literal ++ ']' :: rest)).takeWhile (!endsAuthority ·) =
      '[' :: (literal ++ ']' :: rest.takeWhile (!endsAuthority ·)) := by
    rw [List.takeWhile_cons_of_pos (by decide), List.takeWhile_append_of_pos
      fun c hc => by simp [(hliteral c hc).2], List.takeWhile_cons_of_pos (by decide)]
  have hno : '@' ∉ ('[' :: (literal ++ ']' :: rest)).takeWhile (!endsAuthority ·) := by
    rw [htake]
    have hliteral' : '@' ∉ literal := fun hm => (hliteral '@' hm).1 (by decide)
    simp [hliteral', hat]
  have hport : ∀ c ∈ (rest.takeWhile (!endsAuthority ·)).head?, c = ':' := by
    cases rest with
    | nil => nofun
    | cons c rest =>
      intro d hd
      rw [List.takeWhile_cons] at hd
      split at hd
      · next hc =>
        obtain rfl := Option.some.inj hd
        exact (hrest c rfl).resolve_right (by simpa using hc)
      · cases hd
  have hbracket : ']' ∉ literal := fun hm => (hliteral ']' hm).1 (by decide)
  rw [placeOf_append hlogin hno, htake, cutHost_brackets hbracket hport] at hkept
  obtain ⟨ip, hip, rfl⟩ := keptHost_brackets hkept
  exact ⟨ip, hip, hname⟩

/-- An address is written without dots, so the domain is appended to it. -/
lemma qualify_write (ip : IPv6) (domain : String) :
    qualify ip.write domain =
      if domain.toList.dropWhile (· = '.') = [] then ip.write
      else ip.write ++ "." ++ String.ofList (domain.toList.dropWhile (· = '.')) := by
  have hdot : '.' ∉ ip.write.toList := IPv6.not_mem_write (by decide) (by decide) ip
  unfold qualify
  simp [hdot]

end Host

namespace Runner

open Host

/-- **What the session of an IPv6 address connects to.** The name of the session, the host that its
client is given and the variable of the host's name are one text. That is the text of the address
exactly if the domain is empty or made of dots; any other domain stands behind the address. -/
theorem literal_host_of_plan {r : Runner} {disk : Disk} {ctx : RunContext} {entry : Host.Entry}
    {o : Options} {p : Plan} {literal : List Char}
    (h : r.compile disk ctx entry o = .ok (.plan p))
    (hl : LiteralHost (strip (withProtocol (o.protocol.getD defaultProtocol)
      (trimChars entry.raw.toList))) literal) :
    ∃ ip, IPv6.read? literal = some ip ∧ IPv6.read? ip.write.toList = some ip ∧
      p.name = p.connect.host ∧
      Client.hostArgument? p.connect p.authentication = some p.connect.host ∧
      p.script.get? Variables.hostnameKey = some [p.connect.host] ∧
      (p.connect.host = ip.write ↔ ∀ c ∈ r.domain.toList, c = '.') ∧
      ((∃ c ∈ r.domain.toList, c ≠ '.') → p.connect.host =
        ip.write ++ "." ++ String.ofList (r.domain.toList.dropWhile (· = '.'))) := by
  have hcompiles := compiles r disk ctx entry o
  rw [h] at hcompiles
  cases hcompiles with
  | @plan loaded address script protocol hloaded ha hs hp =>
    obtain ⟨ip, hip, hname⟩ := exists_address_of_literalHost ha hp hl
    have hdots : r.domain.toList.dropWhile (· = '.') = [] ↔ ∀ c ∈ r.domain.toList, c = '.' := by
      simp [List.dropWhile_eq_nil_iff]
    have hhost : (r.planFor ctx o address protocol script).connect.host =
        qualify ip.write r.domain := congrArg (qualify · r.domain) hname
    refine ⟨ip, hip, IPv6.read?_write_of_read? hip, rfl, Client.hostArgument?_eq _ _, ?_, ?_, ?_⟩
    · show script.vars.get? _ = _
      rw [vars_of_scriptFor hs, variablesOf, Variables.get?_reserve, if_neg (by decide),
        if_neg (by decide), if_neg (by decide), Scopes.get?_merge, if_pos rfl]
      rfl
    · rw [hhost, qualify_write, ← hdots]
      split
      · next hd => simp [hd]
      · next hd =>
        refine iff_of_false (fun he => ?_) hd
        have hlength := congrArg String.length he
        have hone : ".".length = 1 := rfl
        simp only [String.length_append, hone] at hlength
        omega
    · rintro ⟨c, hc, hne⟩
      rw [hhost, qualify_write, if_neg fun hd => hne (hdots.mp hd c hc)]

/-- A literal that is not written in the shortest way, with login, port and query, and a domain with
a dot before it. -/
theorem literal_host_of_plan_long :
    let entry : Host.Entry := { raw := "ops:a%5D@[2001:DB8:0:0:1::1.2.3.4]:22?x=[", queryVars := ∅ }
    let r : Runner := { ofHosts [entry] "show $hostname" with domain := ".lab" }
    let o : Options := { protocol := some "ssh" }
    ∃ p ip, r.compile {} oneThread entry o = .ok (.plan p) ∧
      IPv6.read? "2001:DB8:0:0:1::1.2.3.4".toList = some ip ∧ p.connect.host ≠ ip.write ∧
      p.connect.host = ip.write ++ ".lab" ∧ ip.write = "2001:db8::1:0:102:304" := by
  intro entry r o
  obtain ⟨p, hp⟩ := Option.isSome_iff_exists.mp
    (by decide +kernel : (r.plan? {} oneThread entry o).isSome)
  have hscheme : "ssh".toList.all isSchemeChar = true := by decide +kernel
  have huser : "ops:a%5D".toList.all (!endsAuthority ·) = true := by decide +kernel
  have hliteral : "2001:DB8:0:0:1::1.2.3.4".toList.all
      (fun c => c ∉ "@]".toList ∧ endsAuthority c = false) = true := by decide +kernel
  have hl : LiteralHost (strip (withProtocol "ssh" (trimChars entry.raw.toList)))
      "2001:DB8:0:0:1::1.2.3.4".toList := by
    refine ⟨"ssh".toList, "ops:a%5D@".toList, ":22?x=[".toList, by decide +kernel,
      List.all_eq_true.mp hscheme, .inr ⟨"ops:a%5D".toList, rfl, by simpa using huser⟩,
      by simpa using hliteral, fun c hc => .inl (Option.some.inj hc).symm, by decide +kernel⟩
  obtain ⟨ip, hip, -, -, -, -, hiff, hdomain⟩ :=
    literal_host_of_plan (compile_of_plan? hp) hl
  have hbare : "." ++ String.ofList (r.domain.toList.dropWhile (· = '.')) = ".lab" := by
    decide +kernel
  refine ⟨p, ip, compile_of_plan? hp, hip, fun he => ?_, ?_, ?_⟩
  · exact absurd (hiff.mp he 'l' (by decide)) (by decide)
  · rw [hdomain ⟨'l', by decide, by decide⟩, String.append_assoc, hbare]
  · have hwrite : (IPv6.read? "2001:DB8:0:0:1::1.2.3.4".toList).map IPv6.write =
        some "2001:db8::1:0:102:304" := by decide +kernel
    rw [hip] at hwrite
    exact Option.some.inj hwrite

/-- A session does not connect to the address of every literal. -/
theorem domain_behind_literal :
    ¬ ∀ (r : Runner) (disk : Disk) (ctx : RunContext) (entry : Host.Entry) (o : Options) (p : Plan)
      (literal : List Char) (ip : IPv6), r.compile disk ctx entry o = .ok (.plan p) →
      LiteralHost (strip (withProtocol (o.protocol.getD defaultProtocol)
        (trimChars entry.raw.toList))) literal →
      IPv6.read? literal = some ip → p.connect.host = ip.write := by
  intro h
  let entry : Host.Entry := { raw := "ssh://[2001:db8::1]:22", queryVars := ∅ }
  let r : Runner := { ofHosts [entry] "show version" with domain := "example.com" }
  let ip : IPv6 := ⟨[0x2001, 0xdb8, 0, 0, 0, 0, 0, 1], rfl⟩
  obtain ⟨p, hp, hne⟩ : ∃ p ∈ r.plan? {} oneThread entry {}, p.connect.host ≠ ip.write := by
    decide +kernel
  have hscheme : "ssh".toList.all isSchemeChar = true := by decide +kernel
  have hliteral : "2001:db8::1".toList.all
      (fun c => c ∉ "@]".toList ∧ endsAuthority c = false) = true := by decide +kernel
  have hl : LiteralHost (strip (withProtocol defaultProtocol (trimChars entry.raw.toList)))
      "2001:db8::1".toList :=
    ⟨"ssh".toList, [], ":22".toList, by decide +kernel, List.all_eq_true.mp hscheme, .inl rfl,
      by simpa using hliteral, fun c hc => .inl (Option.some.inj hc).symm, by decide +kernel⟩
  exact hne (h r {} oneThread entry {} p _ ip (compile_of_plan? hp) hl (by decide +kernel))

end Runner

end FleetScript
