import FleetScript.Proofs.Dispatch.Course
import FleetScript.Proofs.Script.Rendering
import FleetScript.Proofs.Session.DryRun
import FleetScript.Proofs.Session.Logs

/-!
What dry runs leave on the disk. The session of a plan writes to one file, at a place that other
sessions do not move. So a file holds in the end what the sessions that lead to it have written,
in their order; and a file that one session at most leads to is the same whatever the order.
-/

namespace FleetScript

open DryRun

namespace Plan

variable {disk disk' : Disk} {p : Plan} {ps qs : List Plan} {place : String}

/-! ### One session -/

def HasCommands (p : Plan) : Prop := ∃ commands, p.script.commands = .ok commands

lemma HasCommands.sequence (h : p.HasCommands) :
    ∃ commands, p.sequence.commands = .ok commands := by
  obtain ⟨commands, h⟩ := h
  refine ⟨commands, ?_⟩
  show p.script.commands.mapError _ = _
  rw [h]
  rfl

/-- The place of the file that the session of a plan logs to, if it can be written. -/
def place? (disk : Disk) (p : Plan) : Option String := p.log.bind fun l => disk.target? l.output

lemma place?_congr (h : Disk.Alike disk disk') (p : Plan) : p.place? disk = p.place? disk' := by
  unfold place?
  simp only [Disk.target?_congr h]

lemma no_folder_of_place? (h : p.place? disk = some place) : disk.node? place ≠ some .folder := by
  obtain ⟨l, -, hl⟩ := Option.bind_eq_some_iff.mp h
  exact Disk.no_folder_of_target? hl

/-- The log file of a plan after a dry run, given what stood at its place before. -/
def logged (p : Plan) (old : Option Node) : Option Node :=
  match p.log with
  | none => old
  | some l => some (.file (Disk.written (Disk.content old)
    (if l.overwrite then .replace else .append)
    (Text.toBytes (DryRun.transcript (linesOf p.sequence)))))

/-- A dry run puts its log file at its place, or leaves the disk as it is. -/
lemma after_eq (hp : p.HasCommands) (disk : Disk) :
    p.after transport disk = disk ∧ p.place? disk = none ∨
      ∃ place n, p.after transport disk = disk.put place (.file n) ∧
        p.place? disk = some place ∧ p.logged (disk.node? place) = some (.file n) := by
  obtain ⟨commands, hcommands⟩ := hp.sequence
  have hdisk : p.after transport disk = match p.log with
      | none => disk
      | some l => (Session.writeLog l.output l.overwrite
          (DryRun.transcript (linesOf p.sequence)) disk).1 := (run_eq hcommands disk).2.2
  unfold place? logged
  rw [hdisk]
  cases p.log with
  | none => exact .inl ⟨rfl, rfl⟩
  | some l =>
    simp only [Session.writeLog_eq, Option.bind_some]
    cases ht : disk.target? l.output with
    | none => exact .inl ⟨rfl, rfl⟩
    | some place => exact .inr ⟨place, _, rfl, rfl, rfl⟩

/-- **A dry run changes its log file alone.** -/
theorem node?_after (hp : p.HasCommands) (disk : Disk) (place : String) :
    (p.after transport disk).node? place =
      if p.place? disk = some place then p.logged (disk.node? place) else disk.node? place := by
  rcases after_eq hp disk with ⟨h, hnone⟩ | ⟨q, n, h, hsome, hlogged⟩
  · rw [h, hnone]
    rfl
  · rw [h, hsome, Disk.node?_put _ (Disk.isEmpty_of_no_folder (no_folder_of_place? hsome))]
    by_cases hq : place = q
    · rw [if_pos hq, if_pos (congrArg some hq.symm), hq, hlogged]
    · rw [if_neg hq, if_neg fun e => hq (Option.some.inj e).symm]

lemma alike_after (hp : p.HasCommands) (disk : Disk) :
    Disk.Alike disk (p.after transport disk) := by
  rcases after_eq hp disk with ⟨h, -⟩ | ⟨q, n, h, hsome, -⟩
  · rw [h]
    exact .refl disk
  · rw [h]
    exact Disk.alike_put (no_folder_of_place? hsome) n

/-! ### Sessions one after another -/

lemma alike_foldl (hps : ∀ p ∈ ps, p.HasCommands) (disk : Disk) :
    Disk.Alike disk (ps.foldl (Plan.after transport) disk) := by
  induction ps generalizing disk with
  | nil => exact .refl disk
  | cons p ps ih =>
    exact (alike_after (hps p List.mem_cons_self) disk).trans
      (ih (fun q hq => hps q (List.mem_cons_of_mem p hq)) _)

theorem node?_foldl (hps : ∀ p ∈ ps, p.HasCommands) (disk : Disk) (place : String) :
    (ps.foldl (Plan.after transport) disk).node? place =
      (ps.filter (·.place? disk = some place)).foldl (fun old q => q.logged old)
        (disk.node? place) := by
  rw [List.foldl_filter]
  simp only [decide_eq_true_eq]
  refine Disk.node?_foldl
    (fun disk p old => if p.place? disk = some place then p.logged old else old)
    (fun p hp => alike_after (hps p hp)) (fun p hp disk => node?_after (hps p hp) disk place)
    ?_ disk
  intro disk disk' h
  funext p old
  rw [place?_congr h]

lemma node?_foldl_of_forall (hps : ∀ p ∈ ps, p.HasCommands)
    (h : ∀ p ∈ ps, p.place? disk ≠ some place) :
    (ps.foldl (Plan.after transport) disk).node? place = disk.node? place := by
  rw [node?_foldl hps, List.filter_eq_nil_iff.mpr fun p hp => by simpa using h p hp]
  rfl

/-! ### Lines that are shown -/

/-- The plan of the same session without showing its lines. -/
def quiet (p : Plan) : Plan := { p with connect := { p.connect with echo := false } }

lemma linesOf_quiet (p : Plan) : linesOf p.quiet.sequence = linesOf p.sequence := by
  unfold linesOf Session.calls Session.opening
  rw [List.map_append, List.map_append]
  rfl

lemma logged_quiet (p : Plan) : p.quiet.logged = p.logged := by
  funext old
  unfold logged
  rw [linesOf_quiet]
  rfl

lemma report_quiet (hp : p.HasCommands) : p.quiet.report transport = p.report transport := by
  obtain ⟨commands, hcommands⟩ := hp.sequence
  exact (run_eq (q := p.quiet.sequence) hcommands {}).1.trans (run_eq hcommands {}).1.symm

lemma lines_state (hp : p.HasCommands) : (p.state transport).lines = linesOf p.sequence := by
  obtain ⟨commands, hcommands⟩ := hp.sequence
  exact (run_eq hcommands {}).2.1

lemma map_report_quiet (hps : ∀ p ∈ ps, p.HasCommands) :
    (ps.map quiet).map (Plan.report transport) = ps.map (Plan.report transport) := by
  rw [List.map_map]
  exact List.map_congr_left fun p hp => report_quiet (hps p hp)

lemma map_lines_state (hps : ∀ p ∈ ps, p.HasCommands) :
    (ps.map (Plan.state transport)).map (·.lines) =
      (ps.map quiet).map fun p => linesOf p.sequence := by
  rw [List.map_map, List.map_map]
  exact List.map_congr_left fun p hp => (lines_state (hps p hp)).trans (linesOf_quiet p).symm

lemma node?_foldl_quiet (hps : ∀ p ∈ ps, p.HasCommands) (disk : Disk) (place : String) :
    (ps.foldl (Plan.after transport) disk).node? place =
      ((ps.map quiet).filter (·.place? disk = some place)).foldl (fun old q => q.logged old)
        (disk.node? place) := by
  rw [node?_foldl hps, List.filter_map, List.foldl_map]
  simp only [logged_quiet]
  rfl

/-- **The order of sessions does not matter** to what a place holds that one of them at most
leads to, and neither does showing their lines. -/
theorem node?_foldl_of_perm (hps : ∀ p ∈ ps, p.HasCommands) (hqs : ∀ q ∈ qs, q.HasCommands)
    (h : (ps.map quiet).Perm (qs.map quiet))
    (hone : (ps.filter (·.place? disk = some place)).length ≤ 1) :
    (ps.foldl (Plan.after transport) disk).node? place =
      (qs.foldl (Plan.after transport) disk).node? place := by
  have hfilter := h.filter fun p => decide (p.place? disk = some place)
  have hone : ((ps.map quiet).filter (·.place? disk = some place)).length ≤ 1 := by
    rw [List.filter_map, List.length_map]
    exact hone
  rw [node?_foldl_quiet hps, node?_foldl_quiet hqs]
  congr 1
  rcases hl : (ps.map quiet).filter fun p => decide (p.place? disk = some place) with
    _ | ⟨p, _ | ⟨q, rest⟩⟩
  · rw [hl] at hfilter
    exact hl.trans hfilter.nil_eq
  · rw [hl] at hfilter
    exact hl.trans hfilter.singleton_eq
  · simp [hl] at hone

end Plan

end FleetScript
