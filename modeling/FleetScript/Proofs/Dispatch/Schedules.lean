import FleetScript.Proofs.Dispatch.Logs
import FleetScript.Proofs.Host.Hostnames
import FleetScript.Proofs.Runner.Compile

/-!
Dry runs of a runner under any schedule. Neither the number of threads nor the order of events
matters: the outline of the hosts depends on them in what is shown only, and sessions do not change
it, provided that they do not write to the file that the script is read from. So all dispatches
that are over have come to the same.
-/

namespace FleetScript

open DryRun

/-! ### Thread counts -/

/-- What a host compiles to, without showing lines. -/
def Compiled.quiet : Compiled → Compiled
  | .plan p => .plan p.quiet
  | .unsupported protocol => .unsupported protocol

namespace Outline

def quiet (out : Outline) : Outline := { out with plans := out.plans.map Plan.quiet }

lemma quiet_add (out : Outline) (entry : Host.Entry) (c : Except RunnerError Compiled) :
    (out.add entry c).quiet = out.quiet.add entry (c.map Compiled.quiet) := by
  rcases c with e | p | u
  · cases e <;> rfl
  · simp [add, quiet, Compiled.quiet, Except.map]
  · rfl

lemma quiet_addAll (compile : Host.Entry → Except RunnerError Compiled) (out : Outline)
    (entries : List Host.Entry) :
    (out.addAll compile entries).quiet =
      out.quiet.addAll (fun entry => (compile entry).map Compiled.quiet) entries := by
  induction entries generalizing out with
  | nil => rfl
  | cons entry entries ih =>
    rw [addAll, addAll, apply_ite quiet, ih, quiet_add]
    rfl

lemma exists_of_mem_addAll {compile : Host.Entry → Except RunnerError Compiled} {out : Outline}
    {entries : List Host.Entry} {p : Plan} (hp : p ∈ (out.addAll compile entries).plans) :
    p ∈ out.plans ∨ ∃ entry, compile entry = .ok (.plan p) := by
  induction entries generalizing out with
  | nil => exact .inl hp
  | cons entry entries ih =>
    rw [addAll] at hp
    split at hp
    · exact .inl hp
    · rcases ih hp with hp | hp
      · rw [add_eq] at hp
        rcases List.mem_append.mp hp with hp | hp
        · exact .inl hp
        · refine .inr ⟨entry, ?_⟩
          unfold planOf at hp
          split at hp
          · next hc => rw [hc, List.mem_singleton.mp hp]
          · cases hp
      · exact .inr hp

end Outline

namespace Runner

variable {r : Runner} {o : Options} {name : String} {threads n m : Nat} {disk : Disk}

/-- The number of threads decides what is shown, and nothing else. -/
lemma quiet_compiled (r : Runner) (o : Options) (name : String) (n m : Nat) (disk : Disk)
    (entry : Host.Entry) : (r.compiled o name n disk entry).map Compiled.quiet =
      (r.compiled o name m disk entry).map Compiled.quiet := by
  unfold compiled
  cases hl : r.script with
  | none => rw [compile_of_none _ _ _ _ _ hl, compile_of_none _ _ _ _ _ hl]
  | some loaded =>
    rw [compile_of_some _ _ _ _ _ hl, compile_of_some _ _ _ _ _ hl]
    cases addressOf entry o with
    | error e => rfl
    | ok address =>
      have hvars : r.variablesOf { maxThreads := max n 1, name } entry o loaded address =
          r.variablesOf { maxThreads := max m 1, name } entry o loaded address := rfl
      simp only [hvars]
      cases scriptFor loaded o disk _ with
      | error e => rfl
      | ok script => cases Protocol.ofScheme? address.protocol <;> rfl

lemma quiet_outline (r : Runner) (o : Options) (name : String) (n m : Nat) (disk : Disk) :
    (r.outline o name n disk).quiet = (r.outline o name m disk).quiet := by
  unfold outline
  rw [Outline.quiet_addAll, Outline.quiet_addAll]
  congr 1
  funext entry
  exact quiet_compiled r o name n m disk entry

lemma map_quiet_plans (r : Runner) (o : Options) (name : String) (n m : Nat) (disk : Disk) :
    (r.outline o name n disk).plans.map Plan.quiet =
      (r.outline o name m disk).plans.map Plan.quiet :=
  congrArg Outline.plans (quiet_outline r o name n m disk)

lemma result_outline (r : Runner) (o : Options) (name : String) (n m : Nat) (disk : Disk) :
    (r.outline o name n disk).result = (r.outline o name m disk).result := by
  show (r.outline o name n disk).quiet.result = (r.outline o name m disk).quiet.result
  rw [quiet_outline r o name n m disk]

/-! ### Plans -/

/-- A list whose values are distinct and all the same has one entry at most. -/
lemma length_le_one_of_nodup_map {α β : Type} {f : α → β} {l : List α} (h : (l.map f).Nodup)
    (heq : ∀ x ∈ l, ∀ y ∈ l, f x = f y) : l.length ≤ 1 := by
  rcases l with _ | ⟨x, _ | ⟨y, rest⟩⟩
  · exact Nat.zero_le 1
  · exact Nat.le_refl 1
  · have hxy := heq x List.mem_cons_self y (List.mem_cons_of_mem x List.mem_cons_self)
    simp [hxy] at h

/-- What is known of a plan that a host compiles to: it belongs to an address of a protocol that
sessions speak, and its script was read. -/
lemma exists_of_compiled {entry : Host.Entry} {p : Plan}
    (h : r.compiled o name threads disk entry = .ok (.plan p)) :
    ∃ loaded address vars protocol, addressOf entry o = .ok address ∧
      Protocol.ofScheme? address.protocol = some protocol ∧
      scriptFor loaded o disk vars = .ok p.script ∧ p.name = qualify address.hostname r.domain ∧
      p.log = r.logdir.map fun dir => LogFiles.inFolder dir p.name r.overwriteLogs := by
  have hc := compiles r disk { maxThreads := max threads 1, name } entry o
  unfold compiled at h
  rw [h] at hc
  cases hc with
  | plan _ ha hs hp => exact ⟨_, _, _, _, ha, hp, hs, rfl, rfl⟩

lemma exists_of_mem_outline {p : Plan} (hp : p ∈ (r.outline o name threads disk).plans) :
    ∃ entry, r.compiled o name threads disk entry = .ok (.plan p) :=
  (Outline.exists_of_mem_addAll hp).resolve_left List.not_mem_nil

lemma hasCommands_of_mem_outline {p : Plan} (hp : p ∈ (r.outline o name threads disk).plans) :
    p.HasCommands := by
  obtain ⟨entry, hc⟩ := exists_of_mem_outline hp
  obtain ⟨_, _, _, _, -, -, hs, -⟩ := exists_of_compiled hc
  obtain ⟨text, hread⟩ := exists_read_of_scriptFor hs
  exact ⟨_, Script.commands_of_read hread⟩

lemma slash_not_mem_name (hd : '/' ∉ r.domain.toList) {p : Plan}
    (hp : p ∈ (r.outline o name threads disk).plans) : '/' ∉ p.name.toList := by
  obtain ⟨entry, hc⟩ := exists_of_mem_outline hp
  obtain ⟨_, address, _, protocol, ha, hprotocol, -, hname, -⟩ := exists_of_compiled hc
  rw [hname]
  exact Host.slash_not_mem_qualify (Host.slash_not_mem_hostname ha hprotocol) hd

/-- Hosts of different names log to different files, unless the domain leads elsewhere. -/
lemma name_eq_of_place? (hd : '/' ∉ r.domain.toList) {p q : Plan} {place : String}
    (hp : p ∈ (r.outline o name threads disk).plans)
    (hq : q ∈ (r.outline o name threads disk).plans)
    (hplace : p.place? disk = some place) (hplace' : q.place? disk = some place) :
    p.name = q.name := by
  -- the log file of a plan is named after its host, without a slash
  have hlog {p : Plan} (hp : p ∈ (r.outline o name threads disk).plans) :
      p.log = r.logdir.map fun dir => LogFiles.inFolder dir p.name r.overwriteLogs := by
    obtain ⟨entry, hc⟩ := exists_of_mem_outline hp
    obtain ⟨_, _, _, _, -, -, -, -, hl⟩ := exists_of_compiled hc
    exact hl
  have hfile {p : Plan} (hp : p ∈ (r.outline o name threads disk).plans) :
      '/' ∉ (p.name ++ ".log").toList := by
    simp [slash_not_mem_name hd hp]
  unfold Plan.place? at hplace hplace'
  rw [hlog hp] at hplace
  rw [hlog hq] at hplace'
  cases hdir : r.logdir with
  | none =>
    rw [hdir] at hplace
    cases hplace
  | some dir =>
    rw [hdir] at hplace hplace'
    exact String.append_left_inj _ |>.mp
      (Disk.name_eq_of_target? (hfile hp) (hfile hq) (by simp) (by simp) hplace hplace')

lemma length_filter_place_le_one (hd : '/' ∉ r.domain.toList)
    (hnd : ((r.outline o name threads disk).plans.map Plan.name).Nodup) (place : String) :
    ((r.outline o name threads disk).plans.filter (·.place? disk = some place)).length ≤ 1 := by
  refine length_le_one_of_nodup_map (hnd.sublist (List.filter_sublist.map _)) fun p hp q hq => ?_
  simp only [List.mem_filter, decide_eq_true_eq] at hp hq
  exact name_eq_of_place? hd hp.1 hq.1 hp.2 hq.2

/-! ### The script stays as it is -/

/-- The file that the script of a run is read from is none that the run logs to. -/
def LogsApart (r : Runner) (o : Options) (name : String) (threads : Nat) (disk : Disk) : Prop :=
  ∀ path, o.filename = some path → ∀ place, disk.resolve path = .ok place →
    ∀ p ∈ (r.outline o name threads disk).plans, p.place? disk ≠ some place

/-- Compiling depends on the disk through the file of the options alone. -/
lemma compile_congr {disk' : Disk} (ctx : RunContext) (entry : Host.Entry)
    (h : ∀ path, o.filename = some path → disk'.readText path = disk.readText path) :
    r.compile disk' ctx entry o = r.compile disk ctx entry o := by
  have hscript (loaded : Loaded) (vars : Variables) :
      scriptFor loaded o disk' vars = scriptFor loaded o disk vars := by
    unfold scriptFor
    split
    · next hpath =>
      unfold Script.readFrom
      rw [h _ hpath]
    · rfl
    · rfl
  cases hl : r.script with
  | none => rw [compile_of_none _ _ _ _ _ hl, compile_of_none _ _ _ _ _ hl]
  | some loaded =>
    rw [compile_of_some _ _ _ _ _ hl, compile_of_some _ _ _ _ _ hl]
    simp only [hscript]

lemma exists_readText_of_scriptFor {loaded : Loaded} {vars : Variables} {script : Script}
    {path : String} (hpath : o.filename = some path)
    (h : scriptFor loaded o disk vars = .ok script) : ∃ text, disk.readText path = .ok text := by
  unfold scriptFor Script.readFrom at h
  rw [hpath] at h
  cases hread : disk.readText path with
  | ok text => exact ⟨text, rfl⟩
  | error e =>
    simp only [hread] at h
    cases h

/-- **Dry runs do not change what hosts compile to.** If the file of the options cannot be read, no
session runs at all; else its place is the same all along. -/
theorem stable_of_apart (h : r.LogsApart o name threads disk) :
    Dispatch.Stable r o name transport threads disk := by
  intro ps hps entry
  refine compile_congr _ entry fun path hpath => ?_
  have hcommands : ∀ p ∈ ps, p.HasCommands := fun p hp => hasCommands_of_mem_outline (hps hp)
  cases hfirst : ps with
  | nil => rfl
  | cons p rest =>
    rw [← hfirst]
    obtain ⟨_, hc⟩ := exists_of_mem_outline (hps (hfirst ▸ List.mem_cons_self : p ∈ ps))
    obtain ⟨_, _, _, _, -, -, hs, -⟩ := exists_of_compiled hc
    obtain ⟨text, htext⟩ := exists_readText_of_scriptFor hpath hs
    obtain ⟨place, hplace⟩ := Disk.exists_resolve_of_readText htext
    refine (Disk.readText_congr (Plan.alike_foldl hcommands disk) hplace ?_).symm
    exact (Plan.node?_foldl_of_forall hcommands fun q hq =>
      h path hpath place hplace q (hps hq)).symm

/-- Logs and the script are apart for all numbers of threads if they are for one. -/
lemma LogsApart.congr (h : r.LogsApart o name n disk) (m : Nat) : r.LogsApart o name m disk := by
  intro path hpath place hplace p hp
  have hquiet : p.quiet ∈ (r.outline o name n disk).plans.map Plan.quiet := by
    rw [map_quiet_plans r o name n m disk]
    exact List.mem_map_of_mem hp
  obtain ⟨q, hq, heq⟩ := List.mem_map.mp hquiet
  have hsame : q.quiet.place? disk = p.quiet.place? disk := congrArg (Plan.place? disk) heq
  exact fun hp' => h path hpath place hplace q hq (hsame.trans hp')

end Runner

namespace Dispatch

variable {r : Runner} {o : Options} {name : String} {n m : Nat} {disk : Disk}
  {d d' : Dispatch DryRun.State}

/-- **Dry runs agree under any schedule.** Every dry run can go on until it is over, and every
schedule comes to that end: it has eleven events for each host and one more at most, and is over if
nothing can happen after it. Those that are over have the same result, and the same reports and
lines up to order, whatever the numbers of threads and the order of events. A file that one host at
most logs to is the same; so are all files if the names of hosts are distinct and the domain brings
no folders into them. -/
theorem agree_of_over (h : r.LogsApart o name n disk) :
    (∀ threads d, Reaches r o name transport (start r threads disk) d →
      ∃ d', Reaches r o name transport d d' ∧ Over d') ∧
    (∀ threads (es : List Event) d,
      es.foldlM (step? r o name transport) (start r threads disk) = some d →
        es.length ≤ 11 * r.registry.entries.length + 1 ∧
          ((∀ e, step? r o name transport d e = none) → Over d)) ∧
    ∀ d d', Reaches r o name transport (start r n disk) d → Over d →
      Reaches r o name transport (start r m disk) d' → Over d' →
      d.result = d'.result ∧ d.reports.Perm d'.reports ∧
      (d.sessions.map (·.lines)).Perm (d'.sessions.map (·.lines)) ∧
      (∀ place, ((r.outline o name n disk).plans.filter (·.place? disk = some place)).length ≤ 1 →
        d.disk.node? place = d'.disk.node? place) ∧
      ((d.reports.map (·.host)).Nodup → '/' ∉ r.domain.toList →
        ∀ place, d.disk.node? place = d'.disk.node? place) := by
  refine ⟨fun threads d hr => exists_over (ready_of_reaches hr), fun threads es d hes => ?_,
    fun d d' hr ho hr' ho' => ?_⟩
  · have hlength := length_add_left_le (ready_start r threads disk) hes
    rw [left_start] at hlength
    exact ⟨by omega, over_of_stuck (ready_of_reaches (reaches_of_foldlM hes))⟩
  -- both come to the outline, each with its plans in an order of its own
  obtain ⟨hresult, hreports, order, hperm, hsessions, hdisk⟩ :=
    exists_order_of_over (Runner.stable_of_apart h) hr ho
  obtain ⟨hresult', hreports', order', hperm', hsessions', hdisk'⟩ :=
    exists_order_of_over (Runner.stable_of_apart (h.congr m)) hr' ho'
  have hplans := Runner.map_quiet_plans r o name n m disk
  have hall : ∀ p ∈ order, p.HasCommands := fun p hp =>
    Runner.hasCommands_of_mem_outline (hperm.subset hp)
  have hall' : ∀ p ∈ order', p.HasCommands := fun p hp =>
    Runner.hasCommands_of_mem_outline (hperm'.subset hp)
  -- what is shown apart, both have run the same sessions
  have horder : (order.map Plan.quiet).Perm (order'.map Plan.quiet) :=
    (hperm.map _).trans ((List.Perm.of_eq hplans).trans (hperm'.map _).symm)
  have hplaces (place : String)
      (hone : ((r.outline o name n disk).plans.filter (·.place? disk = some place)).length ≤ 1) :
      d.disk.node? place = d'.disk.node? place := by
    rw [hdisk, hdisk']
    refine Plan.node?_foldl_of_perm hall hall' horder ?_
    rw [(hperm.filter _).length_eq]
    exact hone
  refine ⟨?_, ?_, ?_, hplaces, fun hnd hd place => hplaces place ?_⟩
  · rw [hresult, hresult', Runner.result_outline r o name n m disk]
  · refine hreports.trans (.trans (.of_eq ?_) hreports'.symm)
    rw [← Plan.map_report_quiet fun p hp => Runner.hasCommands_of_mem_outline hp, hplans,
      Plan.map_report_quiet fun p hp => Runner.hasCommands_of_mem_outline hp]
  · rw [hsessions, hsessions', Plan.map_lines_state hall, Plan.map_lines_state hall']
    exact horder.map _
  · refine Runner.length_filter_place_le_one hd ?_ place
    have hhosts := (hreports.map (·.host)).nodup_iff.mp hnd
    rwa [List.map_map] at hhosts

/-! ### Two hosts -/

/-- Two hosts are dispatched, and then one session is run after the other. -/
def oneByOne (a b : Nat) : List Event :=
  handleEvents 2 ++ taskEvents a ++ taskEvents b ++ [.collect, .collect]

/-- With one thread the hosts are run in their order, and with two the second one is faster. -/
theorem agree_of_over_two_hosts :
    let r : Runner :=
      { Runner.ofHosts [⟨"r1", ∅⟩, ⟨"r2", ∅⟩] "exit" with
        domain := "example.net"
        logdir := some "logs"
        overwriteLogs := true }
    let o : Options := { filename := some "s.tr" }
    let disk := (({} : Disk).withFolder "logs").withFile "s.tr" (Text.toBytes "show version\n")
    r.LogsApart o "tool" 1 disk ∧ ∃ d d' : Dispatch DryRun.State,
      (Reaches r o "tool" transport (start r 1 disk) d ∧ Over d) ∧
      (Reaches r o "tool" transport (start r 2 disk) d' ∧ Over d') ∧
      d.reports.map (·.host) = ["r1.example.net", "r2.example.net"] ∧
      d'.reports.map (·.host) = ["r2.example.net", "r1.example.net"] ∧
      d.result = d'.result ∧ d.reports.Perm d'.reports ∧
      (d.sessions.map (·.lines)).Perm (d'.sessions.map (·.lines)) ∧
      ∀ place, d.disk.node? place = d'.disk.node? place := by
  intro r o disk
  have hapart : r.LogsApart o "tool" 1 disk := by
    rintro _ ⟨⟩ place hplace
    obtain rfl := Except.ok.inj
      ((by decide +kernel : disk.resolve "s.tr" = .ok "s.tr").symm.trans hplace)
    decide +kernel
  obtain ⟨d, hd, hover, hhosts⟩ :
      ∃ d ∈ dryRun r o 1 disk (oneByOne 0 1), Over d ∧
        d.reports.map (·.host) = ["r1.example.net", "r2.example.net"] := by
    decide +kernel
  obtain ⟨d', hd', hover', hhosts'⟩ :
      ∃ d ∈ dryRun r o 2 disk (oneByOne 1 0), Over d ∧
        d.reports.map (·.host) = ["r2.example.net", "r1.example.net"] := by
    decide +kernel
  have hr := reaches_of_dryRun hd
  have hr' := reaches_of_dryRun hd'
  obtain ⟨hresult, hreports, hlines, -, hdisk⟩ :=
    (agree_of_over hapart).2.2 d d' hr hover hr' hover'
  exact ⟨hapart, d, d', ⟨hr, hover⟩, ⟨hr', hover'⟩, hhosts, hhosts', hresult, hreports, hlines,
    hdisk (by rw [hhosts]; decide) (by decide)⟩

/-- With a slash in the domain two hosts can log to one file, and it keeps the lines of the session
that came last: that of the second host with one thread, and that of the first host with two
threads if it is the slower one. -/
theorem differ_of_slash_in_domain :
    let r : Runner :=
      { Runner.ofHosts [⟨"r1", ∅⟩, ⟨"r2", ∅⟩] "show version" with
        domain := "x/../shared"
        logdir := some "logs"
        overwriteLogs := true }
    let disk := (({} : Disk).withFolder "logs/r1.x").withFolder "logs/r2.x"
    let log (host : String) := DryRun.transcript
      ["connect telnet://" ++ host, "authenticate <none> with password", "> show version", "close"]
    ∃ d d' : Dispatch DryRun.State,
      (Reaches r {} "tool" transport (start r 1 disk) d ∧ Over d) ∧
      (Reaches r {} "tool" transport (start r 2 disk) d' ∧ Over d') ∧
      (d.reports.map (·.host)).Nodup ∧ d.reports.Perm d'.reports ∧
      d.disk.readText "logs/shared.log" = .ok (log "r2.x/../shared") ∧
      d'.disk.readText "logs/shared.log" = .ok (log "r1.x/../shared") ∧
      d.disk.readText "logs/shared.log" ≠ d'.disk.readText "logs/shared.log" := by
  intro r disk log
  obtain ⟨d, hd, hover, hreports, hlog⟩ :
      ∃ d ∈ dryRun r {} 1 disk (oneByOne 0 1), Over d ∧
        d.reports = [⟨"r1.x/../shared", 1, none⟩, ⟨"r2.x/../shared", 1, none⟩] ∧
        d.disk.readText "logs/shared.log" = .ok (log "r2.x/../shared") := by
    decide +kernel
  obtain ⟨d', hd', hover', hreports', hlog'⟩ :
      ∃ d ∈ dryRun r {} 2 disk (oneByOne 1 0), Over d ∧
        d.reports = [⟨"r2.x/../shared", 1, none⟩, ⟨"r1.x/../shared", 1, none⟩] ∧
        d.disk.readText "logs/shared.log" = .ok (log "r1.x/../shared") := by
    decide +kernel
  refine ⟨d, d', ⟨reaches_of_dryRun hd, hover⟩, ⟨reaches_of_dryRun hd', hover'⟩, ?_, ?_, hlog,
    hlog', ?_⟩
  · rw [hreports]
    decide
  · rw [hreports, hreports']
    exact .swap _ _ _
  · rw [hlog, hlog']
    decide +kernel

end Dispatch

end FleetScript
