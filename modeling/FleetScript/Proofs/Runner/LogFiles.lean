import FleetScript.Proofs.Host.Hostnames
import FleetScript.Proofs.Runner.Compile
import FleetScript.Proofs.Session.Appending

/-!
Where the logs of plans lie. A host's name holds no slash, and if the domain brings none into it
either, its log files lie in the log folder itself, under names that say the host and the kind of
log. So hosts of different names have different log files, whatever the addresses they are read
from.
-/

namespace FleetScript

open Session

namespace LogFiles

lemma liesIn_inFolder {host : String} (h : '/' ∉ host.toList) (folder : String) (overwrite : Bool)
    (kind : LogKind) :
    Path.LiesIn folder (host ++ ending kind) ((inFolder folder host overwrite).path kind) := by
  have hlength : 4 ≤ (host ++ ending kind).toList.length := by
    cases kind <;> simp [ending]
  rw [path_inFolder]
  refine Path.liesIn_join (slash_not_mem_name h kind) (name_ne_empty host kind) ?_ ?_
  · intro e
    rw [e] at hlength
    revert hlength
    decide
  · intro e
    rw [e] at hlength
    revert hlength
    decide

/-- Log files with the same parts are the same log file of the same host. -/
lemma eq_of_parts {folder host host' : String} {overwrite overwrite' : Bool}
    (hhost : '/' ∉ host.toList) (hhost' : '/' ∉ host'.toList) (kind kind' : LogKind)
    (h : Path.parts ((inFolder folder host overwrite).path kind) =
      Path.parts ((inFolder folder host' overwrite').path kind')) : host = host' ∧ kind = kind' :=
  name_inj ((liesIn_inFolder hhost folder overwrite kind).name_inj
    (liesIn_inFolder hhost' folder overwrite' kind') h)

/-- The log files of two hosts are four. -/
lemma nodup_parts {folder host host' : String} {overwrite overwrite' : Bool}
    (hhost : '/' ∉ host.toList) (hhost' : '/' ∉ host'.toList) (hne : host ≠ host') :
    let l := inFolder folder host overwrite
    let l' := inFolder folder host' overwrite'
    ([l.output, l.errors, l'.output, l'.errors].map Path.parts).Nodup := by
  intro l l'
  have hown : Path.parts l.output ≠ Path.parts l.errors := fun e =>
    LogKind.noConfusion (eq_of_parts hhost hhost .output .errors e).2
  have hown' : Path.parts l'.output ≠ Path.parts l'.errors := fun e =>
    LogKind.noConfusion (eq_of_parts hhost' hhost' .output .errors e).2
  have hother (kind kind' : LogKind) : Path.parts (l.path kind) ≠ Path.parts (l'.path kind') :=
    fun e => hne (eq_of_parts hhost hhost' kind kind' e).1
  simp only [List.map_cons, List.map_nil, List.nodup_cons, List.mem_cons, List.not_mem_nil,
    or_false, not_or, List.nodup_nil, not_false_eq_true, and_true]
  exact ⟨⟨hown, hother .output .output, hother .output .errors⟩,
    ⟨hother .errors .output, hother .errors .errors⟩, hown'⟩

end LogFiles

namespace Runner

variable {r : Runner} {disk : Disk} {ctx : RunContext} {entry : Host.Entry} {o : Options}
  {p : Plan} {folder : String}

/-- The name of a plan is the name of its host within the domain, which takes no slash from the
address, and its log files are named for it. -/
lemma exists_name_of_plan (h : r.compile disk ctx entry o = .ok (.plan p))
    (hd : '/' ∉ r.domain.toList) :
    (∃ address, addressOf entry o = .ok address ∧ p.name = qualify address.hostname r.domain) ∧
      '/' ∉ p.name.toList ∧
      p.log = r.logdir.map fun folder => LogFiles.inFolder folder p.name r.overwriteLogs := by
  have hcompiles := compiles r disk ctx entry o
  rw [h] at hcompiles
  cases hcompiles with
  | plan _ ha _ hp =>
    have hslash := Host.slash_not_mem_qualify (Host.slash_not_mem_hostname ha hp) hd
    exact ⟨⟨_, ha, rfl⟩, hslash, rfl⟩

/-- **The log files of a plan lie in the log folder, and are its host's alone.** Whatever the text
of the address, both log files are named for the host and lie in the log folder itself: their paths
are the folder's and one name, and on any disk they are written in the folder that its path leads
to. The four log files of two plans whose hosts differ in name have different paths, and are written
at different places. -/
theorem logs_in_folder (h : r.compile disk ctx entry o = .ok (.plan p))
    (hfolder : r.logdir = some folder) (hd : '/' ∉ r.domain.toList) :
    (∃ address, addressOf entry o = .ok address ∧ p.name = qualify address.hostname r.domain) ∧
    ∃ l, p.log = some l ∧
      (∀ kind, Path.LiesIn folder (p.name ++ LogFiles.ending kind) (l.path kind) ∧
        ∀ (disk : Disk) place, disk.target? (l.path kind) = some place →
          ∃ q, disk.walk (disk.start folder) (Text.fields '/' folder.toList) = .ok q ∧
            disk.node? q = some .folder ∧
            place = Disk.within q (p.name ++ LogFiles.ending kind)) ∧
      ∀ (r' : Runner) disk' ctx' entry' o' p', r'.compile disk' ctx' entry' o' = .ok (.plan p') →
        r'.logdir = some folder → '/' ∉ r'.domain.toList → p'.name ≠ p.name →
        ∃ l', p'.log = some l' ∧
          ([l.output, l.errors, l'.output, l'.errors].map Path.parts).Nodup ∧
          ∀ (disk : Disk) place kind kind', disk.target? (l.path kind) = some place →
            disk.target? (l'.path kind') ≠ some place := by
  obtain ⟨haddress, hslash, hlog⟩ := exists_name_of_plan h hd
  rw [hfolder] at hlog
  refine ⟨haddress, _, hlog, fun kind => ⟨?_, fun disk place hplace => ?_⟩, ?_⟩
  · exact LogFiles.liesIn_inFolder hslash folder _ kind
  · rw [LogFiles.path_inFolder] at hplace
    exact Disk.within_of_target? (LogFiles.slash_not_mem_name hslash kind)
      (LogFiles.name_ne_empty _ _) hplace
  · intro r' disk' ctx' entry' o' p' h' hfolder' hd' hne
    obtain ⟨-, hslash', hlog'⟩ := exists_name_of_plan h' hd'
    rw [hfolder'] at hlog'
    refine ⟨_, hlog', LogFiles.nodup_parts hslash hslash' hne.symm, ?_⟩
    intro disk place kind kind' hplace hplace'
    exact hne (LogFiles.eq_of_target? hslash hslash' hplace hplace').1.symm

/-- A host that spells a way out of the folder in percent coding, and one whose name ends like a log
file. -/
theorem logs_in_folder_of_dots :
    let first : Host.Entry := ⟨"ssh://..%2F..%2Fetc", ∅⟩
    let second : Host.Entry := ⟨"..%2F..%2Fetc.log", ∅⟩
    let r : Runner :=
      { ofHosts [first, second] "show version" with
        domain := "example.net"
        logdir := some "logs/." }
    ∃ p p' l l', r.compile {} oneThread first {} = .ok (.plan p) ∧
      r.compile {} oneThread second {} = .ok (.plan p') ∧ p.log = some l ∧
      p'.log = some l' ∧ Path.LiesIn "logs/." (p.name ++ ".log") l.output ∧
      ([l.output, l.errors, l'.output, l'.errors].map Path.parts).Nodup := by
  intro first second r
  obtain ⟨p, hp, hname⟩ : ∃ p ∈ r.plan? {} oneThread first {},
      p.name = "..%2F..%2Fetc" := by
    decide +kernel
  obtain ⟨p', hp', hname'⟩ : ∃ p ∈ r.plan? {} oneThread second {},
      p.name = "..%2F..%2Fetc.log" := by
    decide +kernel
  have hp := compile_of_plan? hp
  have hp' := compile_of_plan? hp'
  have hd : '/' ∉ r.domain.toList := by decide
  obtain ⟨-, l, hl, hlies, hothers⟩ := logs_in_folder hp rfl hd
  obtain ⟨l', hl', hnodup, -⟩ := hothers r {} oneThread second {} p' hp' rfl hd (by
    rw [hname, hname']
    decide)
  exact ⟨p, p', l, l', hp, hp', hl, hl', (hlies .output).1, hnodup⟩

end Runner

end FleetScript
