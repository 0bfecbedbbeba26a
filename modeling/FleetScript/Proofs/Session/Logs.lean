import FleetScript.Proofs.Disk.Places
import FleetScript.Proofs.Session.Course
import FleetScript.Session.DryRun

/-!
What a session leaves in its log files. Writing a log changes what stands at one place, which the
path and the folders of the disk alone decide. So after a session a place holds what the texts that
lead there have made of it (`node?_run`), and neither the report nor the texts depend on what the
files held before; `run_course` puts this together with the calls that the session made. With
overwriting a file that is written to forgets what it held, but a session writes its error log only
if it fails, and its output only if it succeeds or has some: `independent_iff` says when none of the
two files shows an earlier session.
-/

namespace FleetScript

/-! ### Writing to files -/

namespace Disk

/-- Disks that differ at most in what files at some places hold. -/
structure AlikeBut (s : String → Prop) (d d' : Disk) : Prop extends Alike d d' where
  node : ∀ place, ¬ s place → d.node? place = d'.node? place

lemma AlikeBut.mono {s s' : String → Prop} {d d' : Disk} (h : AlikeBut s d d')
    (hs : ∀ place, s place → s' place) : AlikeBut s' d d' where
  toAlike := h.toAlike
  node place hp := h.node place fun hplace => hp (hs place hplace)

lemma alikeBut_put {d : Disk} {place : String} (h : d.node? place ≠ some .folder)
    (content : Text.Bytes) : AlikeBut (· = place) d (d.put place (.file content)) where
  toAlike := alike_put h content
  node q hq := by rw [node?_put d (isEmpty_of_no_folder h), if_neg hq]

lemma exists_alikeBut_ne {d : Disk} {place : String} (h : d.node? place ≠ some .folder) :
    ∃ d', AlikeBut (· = place) d d' ∧ d'.node? place ≠ d.node? place := by
  refine ⟨_, alikeBut_put h (content (d.node? place) ++ [0]), ?_⟩
  rw [node?_put d (isEmpty_of_no_folder h), if_pos rfl]
  rcases d.node? place with _ | ⟨bytes⟩ | _ <;> simp [content]

/-- What writing a text makes of what stands at a place. -/
def stored (mode : WriteMode) (old : Option Node) (text : String) : Option Node :=
  some (.file (written (content old) mode (Text.toBytes text)))

end Disk

/-- How the log files are written to. -/
def LogFiles.mode (l : LogFiles) : Disk.WriteMode := if l.overwrite then .replace else .append

/-- What stays in a log file that is written to. -/
def LogFiles.kept (l : LogFiles) (old : Option Node) : Text.Bytes :=
  if l.overwrite then [] else Disk.content old

lemma LogFiles.stored_mode (l : LogFiles) (old : Option Node) (text : String) :
    Disk.stored l.mode old text = some (.file (l.kept old ++ Text.toBytes text)) := by
  unfold LogFiles.mode LogFiles.kept
  cases l.overwrite <;> rfl

namespace Session

section Writing

variable {disk : Disk} {l : LogFiles} {place path text : String} {overwrite : Bool}
  {texts : List (LogKind × String)}

/-- Writing a log puts the file at the target of its path, or leaves the disk as it is. -/
lemma writeLog_eq (path : String) (overwrite : Bool) (text : String) (disk : Disk) :
    (writeLog path overwrite text disk).1 =
      ((disk.target? path).map fun place => disk.put place (.file (Disk.written
        (Disk.content (disk.node? place)) (if overwrite then .replace else .append)
        (Text.toBytes text)))).getD disk := by
  rw [← Disk.write_eq]
  unfold writeLog
  cases disk.write path (if overwrite then .replace else .append) (Text.toBytes text) <;> rfl

lemma alike_writeLog : Disk.Alike disk (writeLog path overwrite text disk).1 := by
  rw [writeLog_eq]
  cases h : disk.target? path with
  | none => exact .refl disk
  | some place => exact Disk.alike_put (Disk.no_folder_of_target? h) _

lemma node?_writeLog :
    (writeLog path overwrite text disk).1.node? place =
      if disk.target? path = some place then
        Disk.stored (if overwrite then .replace else .append) (disk.node? place) text
      else disk.node? place := by
  rw [writeLog_eq]
  cases h : disk.target? path with
  | none => rfl
  | some q =>
    have hput := Disk.node?_put disk (Disk.isEmpty_of_no_folder (Disk.no_folder_of_target? h))
    rw [Option.map_some, Option.getD_some, hput]
    by_cases hq : place = q
    · subst hq
      rw [if_pos rfl, if_pos rfl]
      rfl
    · rw [if_neg hq, if_neg fun e => hq (Option.some.inj e).symm]

def written (kind : LogKind) (texts : List (LogKind × String)) : List String :=
  texts.filterMap fun x => if x.1 = kind then some x.2 else none

/-- The texts that lead to a place. -/
def textsAt (disk : Disk) (l : LogFiles) (place : String) (texts : List (LogKind × String)) :
    List String :=
  (texts.filter fun x => disk.target? (l.path x.1) = some place).map (·.2)

lemma textsAt_congr {disk' : Disk} (h : Disk.Alike disk disk') :
    textsAt disk l place texts = textsAt disk' l place texts := by
  unfold textsAt
  simp only [Disk.target?_congr h]

lemma writeLogs_cons (x : LogKind × String) (rest : List (LogKind × String)) :
    (writeLogs l (x :: rest) disk).1 =
      (writeLogs l rest (writeLog (l.path x.1) l.overwrite x.2 disk).1).1 := rfl

lemma alike_writeLogs : Disk.Alike disk (writeLogs l texts disk).1 := by
  induction texts generalizing disk with
  | nil => exact .refl disk
  | cons x rest ih =>
    rw [writeLogs_cons]
    exact alike_writeLog.trans ih

lemma node?_writeLogs :
    (writeLogs l texts disk).1.node? place =
      (textsAt disk l place texts).foldl (Disk.stored l.mode) (disk.node? place) := by
  induction texts generalizing disk with
  | nil => rfl
  | cons x rest ih =>
    have htexts : textsAt (writeLog (l.path x.1) l.overwrite x.2 disk).1 l place rest =
        textsAt disk l place rest := (textsAt_congr alike_writeLog).symm
    rw [writeLogs_cons, ih, htexts, node?_writeLog]
    unfold textsAt
    rw [List.filter_cons]
    by_cases h : disk.target? (l.path x.1) = some place
    · simp only [h, if_true, decide_true, List.map_cons, List.foldl_cons]
      rfl
    · simp only [h, if_false, decide_false, Bool.false_eq_true]

/-- The texts of one kind lead to their file, and no others if the other file is another one. -/
lemma textsAt_eq (kind : LogKind) (h : disk.target? (l.path kind) = some place)
    (hother : ∀ k ≠ kind, disk.target? (l.path k) ≠ some place) :
    textsAt disk l place texts = written kind texts := by
  have hlead (x : LogKind × String) :
      disk.target? (l.path x.1) = some place ↔ x.1 = kind := by
    refine ⟨fun hx => ?_, fun hx => hx ▸ h⟩
    by_contra hne
    exact hother x.1 hne hx
  unfold textsAt written
  simp only [hlead]
  induction texts with
  | nil => rfl
  | cons x rest ih => by_cases hx : x.1 = kind <;> simp [hx, ih]

end Writing

/-! ### Sessions -/

/-- The call that was made with its answer, if one was made. -/
def Deed.exchange? {σ : Type} : Deed σ → Option (Exchange σ)
  | opened => none
  | made x => some x

/-- The output of a session: what closing its transport gave. -/
def Outcome.output {σ : Type} (o : Outcome σ) : String :=
  transcript (o.deeds.filterMap Deed.exchange?)

lemma written_output_logTexts (output : String) (error : Option String) :
    written .output (logTexts output error) =
      if error.isSome ∧ output = "" then [] else [output] := by
  cases error with
  | none => rfl
  | some message => by_cases h : output = "" <;> simp [logTexts, written, h]

lemma written_errors_logTexts (output : String) (error : Option String) :
    written .errors (logTexts output error) = (error.map (· ++ "\n")).toList := by
  cases error with
  | none => rfl
  | some message => by_cases h : output = "" <;> simp [logTexts, written, h]

/-- The texts of a session that lead to its log file, if the error log is another one. -/
lemma textsAt_output {disk : Disk} {l : LogFiles} {place : String}
    (h : disk.target? l.output = some place) (hother : disk.target? l.errors ≠ some place)
    (output : String) (error : Option String) :
    textsAt disk l place (logTexts output error) =
      if error.isSome ∧ output = "" then [] else [output] := by
  rw [textsAt_eq .output h, written_output_logTexts]
  rintro (_ | _) hk
  · exact absurd rfl hk
  · exact hother

/-- The texts of a session that lead to its error log, if the log file is another one. -/
lemma textsAt_errors {disk : Disk} {l : LogFiles} {place : String}
    (h : disk.target? l.errors = some place) (hother : disk.target? l.output ≠ some place)
    (output : String) (error : Option String) :
    textsAt disk l place (logTexts output error) = (error.map (· ++ "\n")).toList := by
  rw [textsAt_eq .errors h, written_errors_logTexts]
  rintro (_ | _) hk
  · exact hother
  · exact absurd rfl hk

section Run

variable {σ : Type} {t : Transport σ} {q : Sequence} {l : LogFiles} {disk : Disk} {place : String}

lemma Agrees.output_eq {p : Progress σ} {xs : List (Exchange σ)} (h : Agrees t p xs) :
    transcript (p.deeds.filterMap Deed.exchange?) = p.output := by
  have hmade : (xs.map Deed.made).filterMap Deed.exchange? = xs := by
    rw [List.filterMap_map]
    exact List.filterMap_some
  rw [h.output, h.deeds, List.filterMap_cons_none rfl, hmade]

lemma output_run_eq_ended :
    (run t q disk).output = (ended t (perform t (steps q) {})).output := by
  obtain ⟨xs, ha, -⟩ := course_of_perform t q
  exact ha.output_eq

lemma disk_run (hq : q.log = some l) :
    (run t q disk).disk =
      (writeLogs l (logTexts (run t q disk).output (run t q disk).report.error) disk).1 := by
  rw [output_run_eq_ended]
  unfold run
  simp only [hq]
  rfl

/-- **What stands at a place after a session**: what the texts that lead there have made of it. -/
theorem node?_run (hq : q.log = some l) :
    (run t q disk).disk.node? place =
      (textsAt disk l place (logTexts (run t q disk).output (run t q disk).report.error)).foldl
        (Disk.stored l.mode) (disk.node? place) := by
  rw [disk_run hq]
  exact node?_writeLogs

lemma alike_run (hq : q.log = some l) : Disk.Alike disk (run t q disk).disk := by
  rw [disk_run hq]
  exact alike_writeLogs

/-- The log file after a session: its output is logged, unless it failed without any. -/
lemma node?_run_output (hq : q.log = some l) (h : disk.target? l.output = some place)
    (hother : disk.target? l.errors ≠ some place) :
    (run t q disk).disk.node? place =
      if (run t q disk).report.error.isSome ∧ (run t q disk).output = "" then disk.node? place
      else Disk.stored l.mode (disk.node? place) (run t q disk).output := by
  rw [node?_run hq, textsAt_output h hother]
  split <;> rfl

lemma node?_run_of_success (hq : q.log = some l) (h : disk.target? l.output = some place)
    (hnone : (run t q disk).report.error = none) :
    (run t q disk).disk.node? place =
      Disk.stored l.mode (disk.node? place) (run t q disk).output := by
  rw [node?_run hq, hnone]
  simp [logTexts, textsAt, LogFiles.path, h]

lemma node?_run_errors (hq : q.log = some l) (h : disk.target? l.errors = some place)
    (hother : disk.target? l.output ≠ some place) :
    (run t q disk).disk.node? place =
      match (run t q disk).report.error with
      | none => disk.node? place
      | some message => Disk.stored l.mode (disk.node? place) (message ++ "\n") := by
  rw [node?_run hq, textsAt_errors h hother]
  cases (run t q disk).report.error <;> rfl

/-- The report of a session depends neither on its log files nor on the disk. -/
lemma report_run (log : Option LogFiles) (disk disk' : Disk) :
    (run t { q with log } disk').report = (run t q disk).report := rfl

lemma node?_run_elsewhere (hq : q.log = some l) (ho : disk.target? l.output ≠ some place)
    (he : disk.target? l.errors ≠ some place) :
    (run t q disk).disk.node? place = disk.node? place := by
  have htexts : textsAt disk l place
      (logTexts (run t q disk).output (run t q disk).report.error) = [] := by
    unfold textsAt
    rw [List.map_eq_nil_iff, List.filter_eq_nil_iff]
    rintro ⟨_ | _, text⟩ -
    · exact fun h => ho (of_decide_eq_true h)
    · exact fun h => he (of_decide_eq_true h)
  rw [node?_run hq, htexts]
  rfl

/-- A place that both paths lead to gets the output and then the error. -/
lemma node?_run_both {message : String} (hq : q.log = some l)
    (ho : disk.target? l.output = some place) (he : disk.target? l.errors = some place)
    (herror : (run t q disk).report.error = some message) :
    (run t q disk).disk.node? place = some (.file
      (if l.overwrite then Text.toBytes (message ++ "\n")
      else Disk.content (disk.node? place) ++ Text.toBytes (run t q disk).output ++
        Text.toBytes (message ++ "\n"))) := by
  -- as both paths lead there, no text is left out
  have hall (texts : List (LogKind × String)) : textsAt disk l place texts = texts.map (·.2) := by
    unfold textsAt
    rw [List.filter_eq_self.mpr]
    rintro ⟨_ | _, text⟩ -
    · exact decide_eq_true ho
    · exact decide_eq_true he
  -- without overwriting the output stands behind what was there, also if it is empty
  have hkept (old : Option Node) (hover : l.overwrite = false) :
      Disk.content (((if (run t q disk).output.isEmpty then []
        else [(LogKind.output, (run t q disk).output)]).map (·.2)).foldl
          (Disk.stored l.mode) old) =
        Disk.content old ++ Text.toBytes (run t q disk).output := by
    split
    · next hempty =>
      rw [String.isEmpty_iff.mp hempty]
      exact (List.append_nil _).symm
    · rw [List.map_singleton, List.foldl_cons, List.foldl_nil, l.stored_mode]
      unfold LogFiles.kept
      rw [hover]
      rfl
  rw [node?_run hq, herror, hall]
  unfold logTexts
  rw [List.map_append, List.foldl_append, List.map_singleton, List.foldl_cons, List.foldl_nil,
    l.stored_mode]
  unfold LogFiles.kept
  cases hover : l.overwrite with
  | true => rfl
  | false => simp only [Bool.false_eq_true, if_false, hkept _ hover]

/-! ### Courses with their logs -/

/-- What a session with an output and an error leaves of a disk. The output goes to the log file,
but for a session that failed without any, and the error to the error log, as a line; each stands
behind what the file held, or in its place. If both paths lead to one file, it gets both. No other
place changes. -/
structure Logged (q : Sequence) (output : String) (error : Option String) (disk disk' : Disk) :
    Prop where
  unlogged : q.log = none → disk' = disk
  outputFile : ∀ l place, q.log = some l → disk.target? l.output = some place →
    disk.target? l.errors ≠ some place →
      disk'.node? place = if error.isSome ∧ output = "" then disk.node? place
        else some (.file (l.kept (disk.node? place) ++ Text.toBytes output))
  errorFile : ∀ l place, q.log = some l → disk.target? l.errors = some place →
    disk.target? l.output ≠ some place →
      disk'.node? place = error.elim (disk.node? place) fun message =>
        some (.file (l.kept (disk.node? place) ++ Text.toBytes (message ++ "\n")))
  oneFile : ∀ l place, q.log = some l → disk.target? l.output = some place →
    disk.target? l.errors = some place →
      disk'.node? place =
        error.elim (some (.file (l.kept (disk.node? place) ++ Text.toBytes output)))
          fun message => some (.file
            (if l.overwrite then Text.toBytes (message ++ "\n")
            else Disk.content (disk.node? place) ++ Text.toBytes output ++
              Text.toBytes (message ++ "\n")))
  elsewhere : ∀ place, (∀ l, q.log = some l → disk.target? l.output ≠ some place ∧
    disk.target? l.errors ≠ some place) → disk'.node? place = disk.node? place

lemma logged_run (t : Transport σ) (q : Sequence) (disk : Disk) :
    Logged q (run t q disk).output (run t q disk).report.error disk (run t q disk).disk where
  unlogged hq := by
    unfold run
    rw [hq]
  outputFile l place hq ho he := by rw [node?_run_output hq ho he, l.stored_mode]
  errorFile l place hq he ho := by
    rw [node?_run_errors hq he ho]
    cases (run t q disk).report.error with
    | none => rfl
    | some message => exact l.stored_mode _ _
  oneFile l place hq ho he := by
    cases herror : (run t q disk).report.error with
    | none => exact (node?_run_of_success hq ho herror).trans (l.stored_mode _ _)
    | some message => exact node?_run_both hq ho he herror
  elsewhere place h := by
    cases hq : q.log with
    | none =>
      unfold run
      rw [hq]
    | some l => exact node?_run_elsewhere hq (h l hq).1 (h l hq).2

/-- **A session opens one transport, and takes one of the courses on it.** Its report and its log
are those of the calls it made, each answered by the transport as the calls before it left it. -/
theorem run_course (t : Transport σ) (q : Sequence) (disk : Disk) :
    ∃ xs, (run t q disk).deeds = .opened :: xs.map .made ∧
      t.replay t.opened (xs.map Exchange.call) = xs ∧
      Course q xs (run t q disk).report.error ∧
      (run t q disk).report.commands = sent xs ∧
      Logged q (transcript xs) (run t q disk).report.error disk (run t q disk).disk := by
  obtain ⟨xs, ha, hc⟩ := course_of_perform t q
  refine ⟨xs, ha.deeds, ha.replayed, hc, ha.commands, ?_⟩
  have houtput : (run t q disk).output = transcript xs := output_run_eq_ended.trans ha.output
  rw [← houtput]
  exact logged_run t q disk

/-- A transport that answers no command, and is closed with some output. -/
def unanswered : Transport Unit where
  opened := ()
  answer
    | .execute _, _ => { result := .error .notConnected, state := () }
    | .close, _ => { result := .ok "login:", state := () }
    | _, _ => { result := .ok "", state := () }

/-- A session that gets no answer to its command writes `login:` behind the log of an earlier one,
and `Not connected` with a newline into a new error log. -/
theorem run_course_unanswered :
    let q : Sequence :=
      { name := "r1"
        connect := { protocol := .telnet, host := "r1" }
        authentication := none
        commands := .ok ["show version", "show clock"]
        log := some (LogFiles.inFolder "logs" "r1" false) }
    let disk := (({} : Disk).withFolder "logs").withFile "logs/r1.log" [0x78, 0x0A]
    ∃ xs : List (Exchange Unit), (run unanswered q disk).deeds = .opened :: xs.map .made ∧
      xs.map Exchange.call = [.connect q.connect, .execute "show version", .close] ∧
      (run unanswered q disk).report =
        { host := "r1", commands := 0, error := some "Not connected" } ∧
      (run unanswered q disk).disk.node? "logs/r1.log" =
        some (.file [0x78, 0x0A, 0x6C, 0x6F, 0x67, 0x69, 0x6E, 0x3A]) ∧
      (run unanswered q disk).disk.node? "logs/r1.log.error" =
        some (.file [0x4E, 0x6F, 0x74, 0x20, 0x63, 0x6F, 0x6E, 0x6E, 0x65, 0x63, 0x74, 0x65, 0x64,
          0x0A]) := by
  intro q disk
  obtain ⟨xs, hdeeds, hreplayed, -, -, hlogged⟩ := run_course unanswered q disk
  have hcalls : xs.map Exchange.call = [.connect q.connect, .execute "show version", .close] := by
    have hmade : xs = ((run unanswered q disk).deeds.filterMap Deed.exchange?) := by
      rw [hdeeds, List.filterMap_cons_none rfl, List.filterMap_map]
      exact List.filterMap_some.symm
    rw [hmade]
    rfl
  rw [hcalls] at hreplayed
  obtain rfl := hreplayed
  have ho : disk.target? (LogFiles.inFolder "logs" "r1" false).output = some "logs/r1.log" := by
    decide +kernel
  have he : disk.target? (LogFiles.inFolder "logs" "r1" false).errors =
      some "logs/r1.log.error" := by decide +kernel
  refine ⟨_, hdeeds, hcalls, rfl, ?_, ?_⟩
  · rw [hlogged.outputFile _ _ rfl ho (by rw [he]; decide)]
    decide +kernel
  · rw [hlogged.errorFile _ _ rfl he (by rw [ho]; decide)]
    decide +kernel

/-! ### Overwriting -/

/-- Whether a session leaves the files at two places as it would if they had held anything else, or
had not been there. -/
def Independent (t : Transport σ) (q : Sequence) (disk : Disk) (o e : String) : Prop :=
  ∀ disk', Disk.AlikeBut (fun place => place = o ∨ place = e) disk disk' →
    (run t q disk').disk.node? o = (run t q disk).disk.node? o ∧
      (run t q disk').disk.node? e = (run t q disk).disk.node? e

lemma mode_eq_replace (hover : l.overwrite = true) : l.mode = .replace := by
  unfold LogFiles.mode
  rw [hover]
  rfl

lemma foldl_stored_replace {texts : List String} (h : texts ≠ []) (old old' : Option Node) :
    texts.foldl (Disk.stored .replace) old = texts.foldl (Disk.stored .replace) old' := by
  obtain ⟨text, rest, rfl⟩ := List.exists_cons_of_ne_nil h
  rfl

lemma textsAt_ne_nil {texts : List (LogKind × String)} {x : LogKind × String} (hx : x ∈ texts)
    (h : disk.target? (l.path x.1) = some place) : textsAt disk l place texts ≠ [] := by
  refine List.ne_nil_of_mem (a := x.2) (List.mem_map_of_mem (List.mem_filter.mpr ⟨hx, ?_⟩))
  rw [h]
  exact decide_eq_true rfl

lemma node?_run_congr {disk' : Disk} {x : LogKind × String} (hq : q.log = some l)
    (hover : l.overwrite = true) (halike : Disk.Alike disk disk')
    (hx : x ∈ logTexts (run t q disk).output (run t q disk).report.error)
    (h : disk.target? (l.path x.1) = some place) :
    (run t q disk').disk.node? place = (run t q disk).disk.node? place := by
  rw [node?_run hq, node?_run hq, mode_eq_replace hover, ← textsAt_congr halike]
  exact foldl_stored_replace (textsAt_ne_nil hx h) _ _

lemma mem_logTexts_errors {output message : String} :
    (LogKind.errors, message ++ "\n") ∈ logTexts output (some message) := by
  unfold logTexts
  exact List.mem_append_right _ (List.mem_singleton_self _)

lemma mem_logTexts_output {output : String} {error : Option String}
    (h : error = none ∨ output ≠ "") : (LogKind.output, output) ∈ logTexts output error := by
  cases error with
  | none => exact List.mem_singleton_self _
  | some message =>
    have hne : output ≠ "" := h.resolve_left (by simp)
    simp [logTexts, hne]

lemma independent_of_logged {o e : String} (hq : q.log = some l) (hover : l.overwrite = true)
    (ho : disk.target? l.output = some o) (he : disk.target? l.errors = some e)
    (h : o = e ∨ (run t q disk).report.error.isSome ∧ (run t q disk).output ≠ "") :
    Independent t q disk o e := by
  intro disk' halike
  -- what is written with overwriting depends on the session alone
  have hforgets {x : LogKind × String} {place : String}
      (hx : x ∈ logTexts (run t q disk).output (run t q disk).report.error)
      (hplace : disk.target? (l.path x.1) = some place) :
      (run t q disk').disk.node? place = (run t q disk).disk.node? place :=
    node?_run_congr hq hover halike.toAlike hx hplace
  cases herror : (run t q disk).report.error with
  | none =>
    rw [herror] at hforgets h
    have hone := hforgets (mem_logTexts_output (.inl rfl)) ho
    obtain rfl : o = e := h.resolve_right (by simp)
    exact ⟨hone, hone⟩
  | some message =>
    rw [herror] at hforgets h
    have herrors := hforgets mem_logTexts_errors he
    rcases h with rfl | ⟨-, hne⟩
    · exact ⟨herrors, herrors⟩
    · exact ⟨hforgets (mem_logTexts_output (.inr hne)) ho, herrors⟩

/-- A file that is not written to shows what it held. -/
lemma exists_ne_of_textsAt (hq : q.log = some l) (hfolder : disk.node? place ≠ some .folder)
    (h : textsAt disk l place (logTexts (run t q disk).output (run t q disk).report.error) = []) :
    ∃ disk', Disk.AlikeBut (· = place) disk disk' ∧
      (run t q disk').disk.node? place ≠ (run t q disk).disk.node? place := by
  obtain ⟨disk', halike, hdiffer⟩ := Disk.exists_alikeBut_ne hfolder
  have h' : textsAt disk' l place (logTexts (run t q disk').output (run t q disk').report.error) =
      [] := (textsAt_congr halike.toAlike).symm.trans h
  refine ⟨disk', halike, ?_⟩
  rw [node?_run hq, node?_run hq, h, h']
  exact hdiffer

lemma logged_of_independent {o e : String} (hq : q.log = some l)
    (ho : disk.target? l.output = some o) (he : disk.target? l.errors = some e) (hne : o ≠ e)
    (h : Independent t q disk o e) :
    (run t q disk).report.error.isSome ∧ (run t q disk).output ≠ "" := by
  have hoe : disk.target? l.errors ≠ some o := fun h => hne (Option.some.inj (h.symm.trans he))
  have heo : disk.target? l.output ≠ some e := fun h => hne (Option.some.inj (ho.symm.trans h))
  by_contra hno
  by_cases hfails : (run t q disk).report.error.isSome
  · have hempty : (run t q disk).output = "" := by
      by_contra hfull
      exact hno ⟨hfails, hfull⟩
    obtain ⟨disk', halike, hdiffer⟩ := exists_ne_of_textsAt (t := t) hq
      (Disk.no_folder_of_target? ho) ((textsAt_output ho hoe _ _).trans
        (if_pos ⟨hfails, hempty⟩))
    exact hdiffer (h disk' (halike.mono fun _ => .inl)).1
  · have hnone : (run t q disk).report.error = none := by simpa using hfails
    obtain ⟨disk', halike, hdiffer⟩ := exists_ne_of_textsAt (t := t) hq
      (Disk.no_folder_of_target? he) ((textsAt_errors he heo _ _).trans (by rw [hnone]; rfl))
    exact hdiffer (h disk' (halike.mono fun _ => .inr)).2

/-- **When a session that overwrites its logs shows nothing of an earlier one.** It has to fail with
some output, unless both logs are one file: a session that succeeds leaves the error log as it was,
and one that fails without output leaves the output of an earlier session. -/
theorem independent_iff {o e : String} (hq : q.log = some l) (hover : l.overwrite = true)
    (ho : disk.target? l.output = some o) (he : disk.target? l.errors = some e) :
    (Independent t q disk o e ↔
      o = e ∨ (run t q disk).report.error.isSome ∧ (run t q disk).output ≠ "") ∧
    (o ≠ e →
      (run t q disk).disk.node? o =
        (if (run t q disk).report.error.isSome ∧ (run t q disk).output = "" then disk.node? o
          else some (.file (Text.toBytes (run t q disk).output))) ∧
      (run t q disk).disk.node? e =
        match (run t q disk).report.error with
        | none => disk.node? e
        | some message => some (.file (Text.toBytes (message ++ "\n")))) := by
  have hmode : l.mode = .replace := mode_eq_replace hover
  refine ⟨⟨fun h => ?_, independent_of_logged hq hover ho he⟩, fun hne => ⟨?_, ?_⟩⟩
  · by_cases hone : o = e
    · exact .inl hone
    · exact .inr (logged_of_independent hq ho he hone h)
  · rw [node?_run_output hq ho fun h => hne (Option.some.inj (h.symm.trans he)), hmode]
    rfl
  · rw [node?_run_errors hq he fun h => hne (Option.some.inj (ho.symm.trans h)), hmode]
    rfl

/-- A session that gets no answer to its command. -/
theorem independent_iff_failing :
    let t := unanswered
    let q : Sequence :=
      { name := "r1"
        connect := { protocol := .telnet, host := "r1" }
        authentication := none
        commands := .ok ["show version"]
        log := some (LogFiles.inFolder "logs" "r1" true) }
    let disk := (({} : Disk).withFolder "logs").withFile "logs/r1.log" [0x78]
    (Independent t q disk "logs/r1.log" "logs/r1.log.error" ↔
      "logs/r1.log" = "logs/r1.log.error" ∨
        (run t q disk).report.error.isSome ∧ (run t q disk).output ≠ "") ∧
      (run t q disk).disk.node? "logs/r1.log" = some (.file (Text.toBytes "login:")) ∧
      (run t q disk).disk.node? "logs/r1.log.error" =
        some (.file (Text.toBytes "Not connected\n")) := by
  intro t q disk
  have ho : disk.target? (LogFiles.inFolder "logs" "r1" true).output = some "logs/r1.log" := by
    decide +kernel
  have he : disk.target? (LogFiles.inFolder "logs" "r1" true).errors =
      some "logs/r1.log.error" := by decide +kernel
  obtain ⟨hiff, hfiles⟩ := independent_iff (t := t) (q := q) rfl rfl ho he
  obtain ⟨houtput, herrors⟩ := hfiles (by decide)
  refine ⟨hiff, houtput.trans ?_, herrors.trans ?_⟩
  · rw [if_neg (by decide +kernel)]
    rfl
  · rfl

/-- A dry run that succeeds leaves the error of an earlier session. -/
theorem error_kept_by_success :
    ¬ ∀ (σ : Type) (t : Transport σ) (q : Sequence) (l : LogFiles) (disk : Disk) (o e : String),
      q.log = some l → l.overwrite = true → disk.target? l.output = some o →
        disk.target? l.errors = some e → Independent t q disk o e := by
  intro h
  have hsame := h DryRun.State DryRun.transport
    { name := "r1"
      connect := { protocol := .telnet, host := "r1" }
      authentication := none
      commands := .ok ["show version"]
      log := some (LogFiles.inFolder "logs" "r1" true) }
    (LogFiles.inFolder "logs" "r1" true) (({} : Disk).withFolder "logs") "logs/r1.log"
    "logs/r1.log.error" rfl rfl (by decide +kernel) (by decide +kernel)
    ((({} : Disk).withFolder "logs").put "logs/r1.log.error"
      (.file (Text.toBytes "Not connected\n")))
    ((Disk.alikeBut_put (by decide +kernel) _).mono fun _ => .inr)
  revert hsame
  decide +kernel

end Run

end Session

end FleetScript
