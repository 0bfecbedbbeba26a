import FleetScript.Proofs.Host.Padding
import FleetScript.Proofs.Runner.Operations

/-!
The protocol of the options. Hosts are registered, and the rows of tables stored, under the hostname
that an address has with the default protocol; compiling reads the address again, with the protocol
of the options. Under any protocol that sessions speak that is the same hostname, so a script finds
the values of its host. A name of a protocol is checked without the white space around it, but used
with it: `compile_of_validated` tells apart the names that are understood in front of an address.
-/

namespace FleetScript

open Text

/-! ### Addresses under two protocols -/

namespace Host

/-- Addresses that are alike in all but their protocols. -/
structure Address.AlikeBut (a b : Address) : Prop where
  username : a.username = b.username
  password : a.password = b.password
  hostname : a.hostname = b.hostname
  port : a.port = b.port
  vars : a.vars = b.vars

/-- A text gives the same error under two protocols that sessions speak, or addresses that are alike
in all but the protocol. -/
lemma parse_cases (raw : String) (p q : Protocol) :
    (∃ e, parse raw p.scheme = .error e ∧ parse raw q.scheme = .error e) ∨
      ∃ a b, parse raw p.scheme = .ok a ∧ parse raw q.scheme = .ok b ∧ a.AlikeBut b ∧
        ("://".toList <:+: trimChars raw.toList → a.protocol = b.protocol) := by
  unfold parse
  rw [(keepsHosts_scheme p).read_address (keepsHosts_scheme q)]
  cases Address.read raw q.scheme with
  | error e => exact .inl ⟨_, by split <;> rfl, rfl⟩
  | ok b =>
    refine .inr ?_
    split
    · exact ⟨b, b, rfl, rfl, ⟨rfl, rfl, rfl, rfl, rfl⟩, fun _ => rfl⟩
    · next hmark =>
      exact ⟨_, b, rfl, rfl, ⟨rfl, rfl, rfl, rfl, rfl⟩, fun h => absurd (occurs_iff.mpr h) hmark⟩

lemma protocol_of_parse {raw : String} {p : Protocol} {b : Address}
    (h : parse raw p.scheme = .ok b) (hmark : ¬"://".toList <:+: trimChars raw.toList) :
    b.protocol = p.scheme := by
  unfold parse at h
  have hself := (keepsHosts_scheme p).read_address (keepsHosts_scheme p) raw
  rw [if_neg (occurs_iff.not.mpr hmark), lowerScheme_scheme] at hself
  cases hr : Address.read raw p.scheme with
  | error e =>
    rw [hr] at h
    cases h
  | ok b' =>
    rw [hr] at h hself
    obtain rfl := Except.ok.inj h
    exact congrArg Address.protocol (Except.ok.inj hself)

lemma trimChars_ne_nil_of_parse {raw default : String} {a : Address}
    (h : parse raw default = .ok a) : trimChars raw.toList ≠ [] := by
  intro hnil
  unfold parse at h
  rw [read_eq, hnil] at h
  cases h

/-- The cells of a row are stored under the hostname of its address with the default protocol. -/
lemma Table.rowChanges_of_parse {row : Table.Row} {a : Address}
    (h : parse row.raw defaultProtocol = .ok a) (names : List String) :
    Table.rowChanges names row =
      names.mapIdx fun n name => .append a.hostname name (row.cells[n]?.getD "") := by
  unfold Table.rowChanges
  rw [h]

/-- Registries that grew hold hosts whose addresses can be read, if they did so before. -/
lemma Grown.parsed {g g' : Registry} (h : Grown g g')
    (hg : ∀ entry ∈ g.entries, ∃ a, parse entry.raw defaultProtocol = .ok a) :
    ∀ entry ∈ g'.entries, ∃ a, parse entry.raw defaultProtocol = .ok a := by
  obtain ⟨more, hmore, hparsed⟩ := h.entries
  rw [hmore]
  exact List.forall_mem_append.mpr ⟨hg, hparsed⟩

end Host

namespace Runner

open Host

variable {s : Settings} {r : Runner} {cs : List Change} {entry : Entry} {o : Options}

/-- Every host of a runner is one whose address could be read with the default protocol. -/
lemma History.parsed (h : History s r cs) :
    ∀ entry ∈ r.registry.entries, ∃ a, parse entry.raw defaultProtocol = .ok a := by
  induction h with
  | new => exact nofun
  | define _ _ ih | defineHost _ _ _ ih | append _ _ _ _ ih => exact ih
  | addHosts _ ask _ raws ih => exact (Grown.addHosts ask raws _).parsed ih
  | addFile _ ask _ disk path ih => exact (Grown.addFile ask disk path _).parsed ih
  | addTable _ ask _ disk path ih => exact (Grown.addTable ask disk path _).parsed ih
  | load _ hr ih =>
    rw [eq_of_loadScript hr]
    exact ih
  | loadFile _ hr ih =>
    obtain ⟨_, rfl⟩ := exists_of_loadFile hr
    exact ih

/-- A host that could be registered has an address under any protocol that sessions speak, with the
same hostname. -/
lemma exists_addressOf {a : Address} (ha : parse entry.raw defaultProtocol = .ok a) {p : Protocol}
    (ho : o.protocol.getD defaultProtocol = p.scheme) :
    ∃ b, addressOf entry o = .ok b ∧ a.AlikeBut b := by
  unfold addressOf
  rw [ho]
  rcases parse_cases entry.raw .telnet p with ⟨e, he, -⟩ | ⟨a', b, ha', hb, halike, -⟩
  · cases he.symm.trans ha
  · obtain rfl := Except.ok.inj (ha.symm.trans ha')
    exact ⟨b, hb, halike⟩

lemma ne_host_error {b : Address} (hb : addressOf entry o = .ok b) (disk : Disk) (ctx : RunContext)
    (cause : Host.Error) : r.compile disk ctx entry o ≠ .error (.host cause) := by
  have hc := compiles r disk ctx entry o
  intro herror
  rw [herror] at hc
  cases hc with
  | host _ he => cases hb.symm.trans he

lemma vars_of_plan {b : Address} (hb : addressOf entry o = .ok b) {loaded : Loaded}
    (hl : r.script = some loaded) {disk : Disk} {ctx : RunContext} {plan : Plan}
    (h : r.compile disk ctx entry o = .ok (.plan plan)) :
    plan.script.vars = r.variablesOf ctx entry o loaded b := by
  have hc := compiles r disk ctx entry o
  rw [h] at hc
  cases hc with
  | plan hl' hb' hs _ =>
    obtain rfl := Option.some.inj (hl.symm.trans hl')
    obtain rfl := Except.ok.inj (hb.symm.trans hb')
    exact vars_of_scriptFor hs

/-! ### Protocols that sessions speak -/

/-- **The protocol of the options decides nothing but the protocol** of an address, if sessions
speak it: every host that was registered can be compiled as far as its address goes, and its script
is read with the values that were stored under the hostname it was registered with. -/
theorem found_under_any_protocol :
    (∀ (raw : String) (p q : Protocol),
      (∃ e, parse raw p.scheme = .error e ∧ parse raw q.scheme = .error e) ∨
        ∃ a b, parse raw p.scheme = .ok a ∧ parse raw q.scheme = .ok b ∧ a.AlikeBut b ∧
          ("://".toList <:+: trimChars raw.toList → a.protocol = b.protocol)) ∧
    ∀ (s : Settings) (r : Runner) (cs : List Change), History s r cs →
      ∀ entry ∈ r.registry.entries, ∀ (o : Options) (p : Protocol),
        o.protocol.getD defaultProtocol = p.scheme →
        ∃ a b, parse entry.raw defaultProtocol = .ok a ∧ addressOf entry o = .ok b ∧
          a.AlikeBut b ∧
          (∀ row names, row.raw = entry.raw → Table.rowChanges names row =
            names.mapIdx fun n name => .append a.hostname name (row.cells[n]?.getD "")) ∧
          ∀ disk ctx, (∀ cause, r.compile disk ctx entry o ≠ .error (.host cause)) ∧
            ∀ loaded, r.script = some loaded →
              (∀ key, (r.variablesOf ctx entry o loaded b).get? key =
                lookup cs (reserved loaded o ctx) (qualify a.hostname r.domain) a.hostname
                  entry.queryVars key) ∧
              ∀ plan, r.compile disk ctx entry o = .ok (.plan plan) →
                plan.script.vars = r.variablesOf ctx entry o loaded b := by
  refine ⟨parse_cases, fun s r cs h entry hentry o p ho => ?_⟩
  obtain ⟨a, ha⟩ := h.parsed entry hentry
  obtain ⟨b, hb, halike⟩ := exists_addressOf ha ho
  refine ⟨a, b, ha, hb, halike, fun row names hrow => ?_, fun disk ctx => ⟨?_, fun loaded hl => ?_⟩⟩
  · exact Table.rowChanges_of_parse (by rw [hrow]; exact ha) names
  · exact ne_host_error hb disk ctx
  · refine ⟨fun key => ?_, fun plan => vars_of_plan hb hl⟩
    rw [get?_variablesOf h.reflects, halike.hostname]

/-- Two rows of a table for one host, once with a port, under ssh. -/
theorem found_under_any_protocol_in_table :
    let entry : Entry := { raw := "r1:22", queryVars := ∅ }
    let o : Options := { protocol := some "ssh2" }
    ∃ r cs b, History {} r cs ∧ entry ∈ r.registry.entries ∧
      o.protocol.getD defaultProtocol = (Protocol.ssh (some .v2)).scheme ∧
      addressOf entry o = .ok b ∧ b.protocol = "ssh2" ∧
      ∃ loaded, r.script = some loaded ∧
        (r.variablesOf oneThread entry o loaded b).get? "vlan" = some ["10", "20"] := by
  intro entry o
  let r : Runner :=
    { ofHosts [entry] "show vlan $vlan" with
      registry :=
        { entries := [entry]
          scopes := { overlays := .ofList [("r1", .ofList [("vlan", ["10", "20"])])] } } }
  have htable := History.new.addTable (s := {}) noAnswers () (({} : Disk).withFile "t"
    (toBytes "hostname\tvlan\nr1:22\t10\nr1\t20\n")) "t"
  have h := @History.load _ _ r _ htable "show vlan $vlan" (by decide +kernel)
  have hentry : entry ∈ r.registry.entries := List.mem_singleton_self _
  obtain ⟨a, b, ha, hb, -, -, hall⟩ :=
    found_under_any_protocol.2 {} r _ h entry hentry o (.ssh (some .v2)) rfl
  have hhostname : a.hostname = "r1" := by
    have hr : (parse entry.raw defaultProtocol).map (·.hostname) = .ok "r1" := by decide +kernel
    rw [ha] at hr
    exact Except.ok.inj hr
  have hprotocol : b.protocol = "ssh2" := by
    have hr : (addressOf entry o).map (·.protocol) = .ok "ssh2" := by decide +kernel
    rw [hb] at hr
    exact Except.ok.inj hr
  refine ⟨r, _, b, h, hentry, rfl, hb, hprotocol, _, rfl, ?_⟩
  rw [((hall {} oneThread).2 _ rfl).1, hhostname]
  decide +kernel

/-! ### Names of protocols -/

section Names

variable {loaded : Loaded} {disk : Disk} {ctx : RunContext} {a b : Address}

/-- A host whose script can be read compiles to what its address says of the protocol. -/
lemma compile_of_script (hl : r.script = some loaded) (hb : addressOf entry o = .ok b)
    (hhostname : a.hostname = b.hostname) (hs : ∃ script,
      scriptFor loaded o disk (r.variablesOf ctx entry o loaded a) = .ok script) :
    ∃ script, r.compile disk ctx entry o =
      match Protocol.ofScheme? b.protocol with
      | none => .ok (.unsupported b.protocol)
      | some protocol => .ok (.plan (r.planFor ctx o b protocol script)) := by
  obtain ⟨script, hscript⟩ := hs
  have hvars : r.variablesOf ctx entry o loaded a = r.variablesOf ctx entry o loaded b := by
    unfold variablesOf
    rw [hhostname]
  rw [hvars] at hscript
  have hcompile := compile_of_some r disk ctx entry o hl
  rw [hb] at hcompile
  simp only [hscript] at hcompile
  exact ⟨script, hcompile⟩

/-- An address that names no protocol, and holds `://` nevertheless, has one that sessions do not
speak. -/
lemma compile_of_mark (ha : parse entry.raw defaultProtocol = .ok a)
    (hnamed : ¬NamesProtocol entry.raw) (hmark : "://".toList <:+: trimChars entry.raw.toList)
    (hl : r.script = some loaded) (hs : ∃ script,
      scriptFor loaded o disk (r.variablesOf ctx entry o loaded a) = .ok script) :
    r.compile disk ctx entry o = .ok (.unsupported a.protocol) := by
  have hb : addressOf entry o = .ok a := by
    unfold addressOf
    rw [parse_of_occurs (occurs_iff.mpr hmark) _ defaultProtocol, ha]
  have hnone : Protocol.ofScheme? a.protocol = none := by
    refine Option.eq_none_iff_forall_ne_some.mpr fun p hp => hnamed ?_
    exact namesProtocol_of_parse ha (Protocol.ofScheme?_eq_some_iff.mp hp) hmark
  obtain ⟨script, hcompile⟩ := compile_of_script hl hb rfl hs
  rw [hcompile, hnone]

/-- A name that is read as its protocol in front of an address gives a plan with that protocol. -/
lemma compile_of_readsAs (ha : parse entry.raw defaultProtocol = .ok a) {name : String}
    {p : Protocol} (hname : Protocol.ofName? name = some p) (ho : o.protocol = some name)
    (hreads : ReadsAs name p) (hmark : ¬"://".toList <:+: trimChars entry.raw.toList)
    (hl : r.script = some loaded) (hs : ∃ script,
      scriptFor loaded o disk (r.variablesOf ctx entry o loaded a) = .ok script) :
    ∃ plan, r.compile disk ctx entry o = .ok (.plan plan) ∧ plan.connect.protocol = p := by
  have hsame := (parse_of_ofName? hname hmark (trimChars_ne_nil_of_parse ha)).1 hreads
  rcases parse_cases entry.raw .telnet p with ⟨e, he, -⟩ | ⟨a', b, ha', hb, halike, -⟩
  · cases he.symm.trans ha
  obtain rfl := Except.ok.inj (ha.symm.trans ha')
  have hb' : addressOf entry o = .ok b := by
    unfold addressOf
    rw [ho, Option.getD_some, hsame, hb]
  have hscheme : Protocol.ofScheme? b.protocol = some p := by
    rw [protocol_of_parse hb hmark]
    exact Protocol.ofScheme?_scheme p
  obtain ⟨script, hcompile⟩ := compile_of_script hl hb' halike.hostname hs
  rw [hscheme] at hcompile
  exact ⟨_, hcompile, rfl⟩

lemma compile_of_not_readsAs (ha : parse entry.raw defaultProtocol = .ok a) {name : String}
    {p : Protocol} (hname : Protocol.ofName? name = some p) (ho : o.protocol = some name)
    (hno : ¬ReadsAs name p) (hmark : ¬"://".toList <:+: trimChars entry.raw.toList)
    (hl : r.script = some loaded) :
    r.compile disk ctx entry o =
      .error (.host (.invalidHost entry.raw (.url .withoutScheme))) := by
  have herror := (parse_of_ofName? hname hmark (trimChars_ne_nil_of_parse ha)).2 hno
  rw [compile_of_some _ _ _ _ _ hl, addressOf, ho, Option.getD_some, herror]

/-- **What a name that was checked does to a host that names no protocol**: if its script can be
read, the host compiles to a plan with the protocol of the name just if the name is read as that
protocol in front of an address and the address holds no `://`. A name that is not read so makes
the host fail, and `://` in the query of an address makes the host one to be skipped. -/
theorem compile_of_validated (h : History s r cs) (hentry : entry ∈ r.registry.entries)
    (hnamed : ¬NamesProtocol entry.raw) {name : String} {p : Protocol}
    (hname : Protocol.ofName? name = some p) (ho : o.protocol = some name)
    (hl : r.script = some loaded)
    (hs : ∀ a, parse entry.raw defaultProtocol = .ok a → ∃ script,
      scriptFor loaded o disk (r.variablesOf ctx entry o loaded a) = .ok script) :
    ((∃ plan, r.compile disk ctx entry o = .ok (.plan plan) ∧ plan.connect.protocol = p) ↔
      ReadsAs name p ∧ ¬"://".toList <:+: trimChars entry.raw.toList) ∧
    (¬"://".toList <:+: trimChars entry.raw.toList → ¬ReadsAs name p →
      r.compile disk ctx entry o =
        .error (.host (.invalidHost entry.raw (.url .withoutScheme)))) ∧
    ("://".toList <:+: trimChars entry.raw.toList →
      ∃ scheme, r.compile disk ctx entry o = .ok (.unsupported scheme)) := by
  obtain ⟨a, ha⟩ := h.parsed entry hentry
  have hskipped (hmark : "://".toList <:+: trimChars entry.raw.toList) :=
    compile_of_mark ha hnamed hmark hl (hs a ha)
  have hfails (hmark : ¬"://".toList <:+: trimChars entry.raw.toList) (hno : ¬ReadsAs name p) :
      r.compile disk ctx entry o =
        .error (.host (.invalidHost entry.raw (.url .withoutScheme))) :=
    compile_of_not_readsAs ha hname ho hno hmark hl
  refine ⟨⟨?_, fun ⟨hreads, hmark⟩ => ?_⟩, hfails, fun hmark => ⟨_, hskipped hmark⟩⟩
  · rintro ⟨plan, hplan, -⟩
    refine ⟨by_contra fun hno => ?_, fun hmark => ?_⟩
    · by_cases hmark : "://".toList <:+: trimChars entry.raw.toList
      · cases hplan.symm.trans (hskipped hmark)
      · cases hplan.symm.trans (hfails hmark hno)
    · cases hplan.symm.trans (hskipped hmark)
  · exact compile_of_readsAs ha hname ho hreads hmark hl (hs a ha)

end Names

/-- A name with a tab before and a line end after it. -/
theorem compile_of_validated_tab :
    let entry : Entry := { raw := "r1", queryVars := ∅ }
    let o : Options := { protocol := some "\tssh1\n" }
    ∃ r cs, History {} r cs ∧ entry ∈ r.registry.entries ∧
      Protocol.ofName? "\tssh1\n" = some (.ssh (some .v1)) ∧
      ∃ plan, r.compile {} oneThread entry o = .ok (.plan plan) ∧
        plan.connect.protocol = .ssh (some .v1) := by
  intro entry o
  let r : Runner := .ofHosts [entry] "show version"
  have h := @History.load _ _ r _ (History.new.addHosts (s := {}) noAnswers () ["r1"])
    "show version" (by decide +kernel)
  have hentry : entry ∈ r.registry.entries := List.mem_singleton_self _
  have hname : Protocol.ofName? "\tssh1\n" = some (.ssh (some .v1)) := by decide +kernel
  have hmark : ¬"://".toList <:+: trimChars entry.raw.toList :=
    occurs_eq_false_iff.mp (by decide +kernel)
  have hs (a : Address) (ha : parse entry.raw defaultProtocol = .ok a) : ∃ script,
      scriptFor ⟨"show version", none⟩ o {}
        (r.variablesOf oneThread entry o ⟨"show version", none⟩ a) = .ok script := by
    obtain rfl : a = ⟨"telnet", none, none, "r1", none, ∅⟩ :=
      Except.ok.inj (ha.symm.trans (by decide +kernel))
    exact ⟨⟨[⟨1, "show version".toList.map .char⟩], r.variablesOf oneThread entry o
      ⟨"show version", none⟩ ⟨"telnet", none, none, "r1", none, ∅⟩⟩, by decide +kernel⟩
  have hreads : ReadsAs "\tssh1\n" (.ssh (some .v1)) :=
    ⟨['\t'], ['\n'], by decide, by simp, by simp⟩
  have hplan := (compile_of_validated h hentry (fun hn => hmark hn.1) hname rfl rfl hs).1
  exact ⟨r, _, h, hentry, hname, hplan.mpr ⟨hreads, hmark⟩⟩

/-- A name with a space after it is one of ssh, but no address is read behind it. -/
theorem compile_of_blank_behind_protocol :
    let entry : Entry := { raw := "r1", queryVars := ∅ }
    ∃ r cs, History {} r cs ∧ entry ∈ r.registry.entries ∧
      Protocol.ofName? "ssh " = some (.ssh none) ∧
      (∃ plan, r.compile {} oneThread entry { protocol := some "ssh" } = .ok (.plan plan)) ∧
      r.compile {} oneThread entry { protocol := some "ssh " } =
        .error (.host (.invalidHost "r1" (.url .withoutScheme))) := by
  intro entry
  let r : Runner := .ofHosts [entry] "show version"
  have h := @History.load _ _ r _ (History.new.addHosts (s := {}) noAnswers () ["r1"])
    "show version" (by decide +kernel)
  obtain ⟨p, hp⟩ := Option.isSome_iff_exists.mp
    (by decide +kernel : (r.plan? {} oneThread entry { protocol := some "ssh" }).isSome)
  exact ⟨r, _, h, List.mem_singleton_self _, by decide +kernel, ⟨p, compile_of_plan? hp⟩,
    by decide +kernel⟩

end Runner

end FleetScript
