import FleetScript.Proofs.Session.Logs

/-!
Logs that are appended to. Sessions run one after another, each with the log files of its host in
one folder. What a session adds to a place depends on the folders of the disk alone, which no
session changes, so a place holds in the end what it held and then what the sessions have added in
their order (`node?_foldl`). The log files of different hosts, and the two of one host, are
different files; so each log is its old content and what the sessions of its host have added
(`appended`).
-/

namespace FleetScript

open Text

namespace LogFiles

/-! ### Names of log files -/

/-- What the name of a log file has behind the host. -/
def ending : LogKind → String
  | .output => ".log"
  | .errors => ".log.error"

lemma path_inFolder (folder host : String) (overwrite : Bool) (kind : LogKind) :
    (inFolder folder host overwrite).path kind = Path.join folder (host ++ ending kind) := by
  cases kind <;> rfl

lemma slash_not_mem_name {host : String} (h : '/' ∉ host.toList) (kind : LogKind) :
    '/' ∉ (host ++ ending kind).toList := by
  rw [String.toList_append, List.mem_append, not_or]
  exact ⟨h, by cases kind <;> decide⟩

lemma name_ne_empty (host : String) (kind : LogKind) : host ++ ending kind ≠ "" := by
  intro h
  have hlength := congrArg (fun s => s.toList.length) h
  cases kind <;> simp [ending] at hlength

/-- The name of a log file says its host and what it is for. -/
lemma name_inj {host host' : String} {kind kind' : LogKind}
    (h : host ++ ending kind = host' ++ ending kind') : host = host' ∧ kind = kind' := by
  have hlast (s : String) (k : LogKind) : (s ++ ending k).toList.getLast? =
      some (match k with | .output => 'g' | .errors => 'r') := by
    cases k <;> simp [ending]
  have hkind : kind = kind' := by
    have hends := congrArg (fun s => s.toList.getLast?) h
    simp only [hlast] at hends
    cases kind <;> cases kind' <;> first | rfl | simp at hends
  subst hkind
  exact ⟨String.append_left_inj _ |>.mp h, rfl⟩

lemma eq_of_target? {disk : Disk} {folder host host' place : String} {overwrite overwrite' : Bool}
    {kind kind' : LogKind} (hhost : '/' ∉ host.toList) (hhost' : '/' ∉ host'.toList)
    (h : disk.target? ((inFolder folder host overwrite).path kind) = some place)
    (h' : disk.target? ((inFolder folder host' overwrite').path kind') = some place) :
    host = host' ∧ kind = kind' := by
  rw [path_inFolder] at h h'
  exact name_inj (Disk.name_eq_of_target? (slash_not_mem_name hhost kind)
    (slash_not_mem_name hhost' kind') (name_ne_empty _ _) (name_ne_empty _ _) h h')

end LogFiles

/-! ### Sessions one after another -/

namespace Session

/-- A session: what is done, the transport it runs over, and the host that its log files are named
for. -/
structure Visit where
  {σ : Type}
  transport : Transport σ
  sequence : Sequence
  host : String

namespace Visit

variable (folder : String) (v : Visit)

/-- The log files of a session, which are appended to. -/
def log : LogFiles := LogFiles.inFolder folder v.host false

def logged : Sequence := { v.sequence with log := some (v.log folder) }

/-- What comes of the session when it logs to its files. -/
def outcome (disk : Disk) : Outcome v.σ := run v.transport (v.logged folder) disk

def after (disk : Disk) (v : Visit) : Disk := (v.outcome folder disk).disk

def unlogged : Outcome v.σ := run v.transport { v.sequence with log := none } {}

/-- What a session adds to a log file: its output to the log, and if it fails its error to the error
log, with a newline. -/
def addition (v : Visit) : LogKind → Bytes
  | .output => toBytes v.unlogged.output
  | .errors => (v.unlogged.report.error.map fun message => toBytes (message ++ "\n")).getD []

def texts : List (LogKind × String) :=
  logTexts v.unlogged.output v.unlogged.report.error

/-- What the session makes of what stands at a place. -/
def change (place : String) (disk : Disk) (v : Visit) (old : Option Node) : Option Node :=
  (textsAt disk (v.log folder) place v.texts).foldl (Disk.stored .append) old

variable {folder v} {disk disk' : Disk} {place : String} {vs : List Visit}

lemma change_congr (h : Disk.Alike disk disk') :
    change folder place disk = change folder place disk' := by
  funext v old
  unfold change
  rw [textsAt_congr h]

lemma node?_after :
    (v.after folder disk).node? place = v.change folder place disk (disk.node? place) :=
  node?_run (q := v.logged folder) (l := v.log folder) rfl

lemma alike_after : Disk.Alike disk (v.after folder disk) :=
  alike_run (q := v.logged folder) (l := v.log folder) rfl

/-- A place holds in the end what all texts that lead there have made of it. -/
lemma node?_foldl :
    (vs.foldl (after folder) disk).node? place =
      (vs.flatMap fun v => textsAt disk (v.log folder) place v.texts).foldl
        (Disk.stored .append) (disk.node? place) := by
  rw [List.foldl_flatMap]
  exact Disk.node?_foldl (change folder place) (fun _ _ _ => alike_after)
    (fun _ _ _ => node?_after) (fun _ _ h => change_congr h) disk

end Visit

lemma foldl_stored_append (texts : List String) (old : Option Node) :
    texts.foldl (Disk.stored .append) old =
      if texts = [] then old else some (.file (Disk.content old ++ texts.flatMap toBytes)) := by
  induction texts generalizing old with
  | nil => rfl
  | cons text rest ih =>
    rw [List.foldl_cons, ih, if_neg (List.cons_ne_nil text rest), List.flatMap_cons]
    by_cases h : rest = []
    · rw [if_pos h, h, List.flatMap_nil, List.append_nil]
      rfl
    · rw [if_neg h, ← List.append_assoc]
      rfl

lemma content_foldl_stored_append (texts : List String) (old : Option Node) :
    Disk.content (texts.foldl (Disk.stored .append) old) =
      Disk.content old ++ texts.flatMap toBytes := by
  rw [foldl_stored_append]
  split
  · next h => rw [h, List.flatMap_nil, List.append_nil]
  · rfl

namespace Visit

variable {folder host : String} {v : Visit} {disk : Disk} {place : String} {vs : List Visit}
  {kind : LogKind}

lemma flatMap_written (kind : LogKind) (v : Visit) :
    (written kind v.texts).flatMap toBytes = v.addition kind := by
  unfold texts addition
  cases kind with
  | output =>
    rw [written_output_logTexts]
    split
    · next h => rw [h.2]; rfl
    · exact List.flatMap_singleton _ _
  | errors =>
    rw [written_errors_logTexts]
    cases v.unlogged.report.error with
    | none => rfl
    | some message => exact List.flatMap_singleton _ _

/-- To the log of a host its own sessions add, and no others. -/
lemma flatMap_textsAt (hv : '/' ∉ v.host.toList) (hhost : '/' ∉ host.toList)
    (h : disk.target? ((LogFiles.inFolder folder host false).path kind) = some place) :
    (textsAt disk (v.log folder) place v.texts).flatMap toBytes =
      if v.host = host then v.addition kind else [] := by
  -- only the host itself, with a log of the same kind, leads to the place
  have hleads {k : LogKind} (hk : disk.target? ((v.log folder).path k) = some place) :
      v.host = host ∧ k = kind := LogFiles.eq_of_target? hv hhost hk h
  split
  · next heq =>
    subst heq
    have htexts : textsAt disk (v.log folder) place v.texts = written kind v.texts :=
      textsAt_eq kind h fun k hk hplace => hk (hleads hplace).2
    rw [htexts]
    exact flatMap_written kind v
  · next hne =>
    have hnone : textsAt disk (v.log folder) place v.texts = [] := by
      unfold textsAt
      rw [List.filter_eq_nil_iff.mpr]
      · rfl
      · intro x _ hx
        exact hne (hleads (of_decide_eq_true hx)).1
    rw [hnone, List.flatMap_nil]

/-- The log of a host holds in the end what it held and what the sessions of the host have added. -/
lemma content_foldl (hvs : ∀ v ∈ vs, '/' ∉ v.host.toList) (hhost : '/' ∉ host.toList)
    (h : disk.target? ((LogFiles.inFolder folder host false).path kind) = some place) :
    Disk.content ((vs.foldl (after folder) disk).node? place) =
      Disk.content (disk.node? place) ++
        (vs.filter (·.host = host)).flatMap (·.addition kind) := by
  rw [node?_foldl, content_foldl_stored_append, List.flatMap_assoc]
  congr 1
  induction vs with
  | nil => rfl
  | cons v vs ih =>
    obtain ⟨hv, hvs⟩ := List.forall_mem_cons.mp hvs
    rw [List.flatMap_cons, ih hvs, flatMap_textsAt hv hhost h, List.filter_cons]
    by_cases heq : v.host = host <;> simp [heq]

lemma node?_foldl_of_forall
    (h : ∀ v ∈ vs, ∀ kind, disk.target? ((v.log folder).path kind) ≠ some place) :
    (vs.foldl (after folder) disk).node? place = disk.node? place := by
  have hnone : (vs.flatMap fun v => textsAt disk (v.log folder) place v.texts) = [] := by
    refine List.flatMap_eq_nil_iff.mpr fun v hv => ?_
    unfold textsAt
    rw [List.filter_eq_nil_iff.mpr]
    · rfl
    · intro x _ hx
      exact h v hv x.1 (of_decide_eq_true hx)
  rw [node?_foldl, hnone]
  rfl

/-- **Logs that are appended to lose nothing.** Of sessions one after another, no file loses a byte;
the log of a host grows by the outputs of its sessions and its error log by their errors, in their
order; no other place changes; and whatever comes of writing the logs, a session reports what it
would have reported without them. -/
theorem appended (folder : String) (disk : Disk) (hvs : ∀ v ∈ vs, '/' ∉ v.host.toList) :
    (∀ place bytes, disk.node? place = some (.file bytes) →
      ∃ more, (vs.foldl (after folder) disk).node? place = some (.file (bytes ++ more))) ∧
    (∀ host kind place, '/' ∉ host.toList →
      disk.target? ((LogFiles.inFolder folder host false).path kind) = some place →
        Disk.content ((vs.foldl (after folder) disk).node? place) =
          Disk.content (disk.node? place) ++
            (vs.filter (·.host = host)).flatMap (·.addition kind)) ∧
    (∀ place, (∀ v ∈ vs, ∀ kind, disk.target? ((v.log folder).path kind) ≠ some place) →
      (vs.foldl (after folder) disk).node? place = disk.node? place) ∧
    ∀ (v : Visit) (disk' : Disk), (v.outcome folder disk').report =
      (run v.transport { v.sequence with log := none } disk').report := by
  refine ⟨fun place bytes hplace => ?_, fun host kind place hhost h => content_foldl hvs hhost h,
    fun place h => node?_foldl_of_forall h, fun v disk' => report_run _ disk' disk'⟩
  rw [node?_foldl, foldl_stored_append, hplace]
  split
  · exact ⟨[], by rw [List.append_nil]⟩
  · exact ⟨_, rfl⟩

/-- A dry run on a host whose log exists, a session on another host that cannot connect, and one on
the first host that gets no answer to its command. -/
theorem appended_three :
    let show' (host : String) : Sequence :=
      { name := host
        connect := { protocol := .telnet, host }
        authentication := none
        commands := .ok ["show"] }
    let unconnected : Transport Unit :=
      { opened := ()
        answer := fun _ _ => { result := .error (.connectionFailed "r2" "down"), state := () } }
    let vs : List Visit :=
      [⟨DryRun.transport, show' "r1", "r1"⟩, ⟨unconnected, show' "r2", "r2"⟩,
        ⟨unanswered, show' "r1", "r1"⟩]
    let disk := (({} : Disk).withFolder "logs").withFile "logs/r1.log" (toBytes "old\n")
    let last := vs.foldl (after "logs") disk
    (∀ v ∈ vs, '/' ∉ v.host.toList) ∧
      Disk.content (last.node? "logs/r1.log") =
        toBytes "old\nconnect telnet://r1\n> show\nclose\nlogin:" ∧
      Disk.content (last.node? "logs/r1.log.error") = toBytes "Not connected\n" ∧
      Disk.content (last.node? "logs/r2.log.error") =
        toBytes "Connection to r2 failed: down\n" := by
  intro show' unconnected vs disk last
  have hvs : ∀ v ∈ vs, '/' ∉ v.host.toList := by simp [vs]
  obtain ⟨-, hlogs, -⟩ := appended "logs" disk hvs
  refine ⟨hvs, ?_, ?_, ?_⟩
  · refine (hlogs "r1" .output "logs/r1.log" (by decide) (by decide +kernel)).trans ?_
    decide +kernel
  · refine (hlogs "r1" .errors "logs/r1.log.error" (by decide) (by decide +kernel)).trans ?_
    decide +kernel
  · refine (hlogs "r2" .errors "logs/r2.log.error" (by decide) (by decide +kernel)).trans ?_
    decide +kernel

end Visit

end Session

end FleetScript
