import FleetScript.Proofs.Disk.Growth
import FleetScript.Proofs.Path.Extension
import FleetScript.Settings.File

/-!
What saving settings keeps. A disk refuses what the files and folders on it stand against, and does
everything else. A device may also refuse at will and stop half-way, and it may have links, by which
several paths lead to one file; `saveWith` saves on such a device, and is `save` if nothing fails
and nothing is linked (`saveWith_none`). Wherever it stops, what the file held before can still be
read from the file or from its backup, and no other file is touched, unless the path of the backup
leads to the file itself (`saved_or_backed_up`). If it does, copying empties the file that it is
about to copy, and nothing is left of what the file held.
-/

namespace FleetScript.Settings

open Text Disk

/-! ### Devices with links that fail -/

/-- Where paths lead by links. A path leads where its real path leads, which goes through no link.
Paths with one real path lead to one file: one is a link to the other, or both are names of it. -/
structure Links where
  real : String → String := id

/-- A backup that fails: why, and after how many bytes, or before its file is opened. -/
structure BackupFault where
  cause : IoError
  written : Option Nat

/-- Where a device fails, besides where its files and folders make it fail. -/
structure Faults where
  /-- Making the folder stops at so many levels above it, with all that lie above made. -/
  folder : Option (Nat × IoError) := none
  backup : Option BackupFault := none
  /-- The settings hold something that is no text. -/
  unprintable : Bool := false
  creation : Option IoError := none
  /-- Writing stops after so many bytes. -/
  writing : Option (Nat × IoError) := none

/-- How saving ends: with an error before the file is created, or with the file written in part, or
with all of it. -/
inductive Ending where
  | failed (cause : FileError)
  | unprintable
  | unwritten (cause : IoError)
  | saved

namespace Ending

/-- The ending where nothing but files and folders stands against saving. -/
def ofResult : Except FileError Unit → Ending
  | .error cause => failed cause
  | .ok () => saved

def isEarly : Ending → Prop
  | failed _ | unprintable => True
  | unwritten _ | saved => False

end Ending

/-- Makes the folder that a path lies in. -/
def prepareFolderWith (l : Links) (fault : Option (Nat × IoError)) (path : String) (disk : Disk) :
    Except FileError Unit × Disk :=
  match Path.parent? path with
  | none => (.ok (), disk)
  | some dir =>
    if disk.has (l.real dir) then (.ok (), disk)
    else
      match fault with
      | none =>
        let (made, disk) := disk.makeChain ((Path.chain dir).map l.real)
        (made.mapError (.noFolder dir), disk)
      | some (level, cause) =>
        match disk.makeChain (((Path.chain dir).drop level).map l.real) with
        | (.error cause, disk) => (.error (.noFolder dir cause), disk)
        | (.ok (), disk) => (.error (.noFolder dir cause), disk)

def copyPart (n : Nat) (source target : String) (disk : Disk) : Except IoError Disk := do
  let opened ← disk.write target .replace []
  opened.write target .replace ((← opened.read source).take n)

def backUpWith (l : Links) (fault : Option BackupFault) (path : String) (disk : Disk) :
    Except FileError Unit × Disk :=
  let source := l.real path
  let target := l.real (backupPath path)
  if disk.has source then
    match fault with
    | none =>
      match disk.copy source target with
      | .error cause => (.error (.noBackup (backupPath path) cause), disk)
      | .ok disk => (.ok (), disk)
    | some fault =>
      (.error (.noBackup (backupPath path) fault.cause),
        match fault.written with
        | some n => (copyPart n source target disk).toOption.getD disk
        | none => disk)
  else (.ok (), disk)

/-- Creates the file, which empties it, and writes the settings. -/
def writeWith (l : Links) (f : Faults) (s : Settings) (path : String) (disk : Disk) :
    Ending × Disk :=
  let bytes := toBytes (Json.print s.toJson)
  let (bytes, ending) := match f.writing with
    | none => (bytes, Ending.saved)
    | some (n, cause) => (bytes.take n, .unwritten cause)
  match f.creation with
  | some cause => (.failed (.uncreatable path cause), disk)
  | none =>
    match disk.write (l.real path) .replace bytes with
    | .error cause => (.failed (.uncreatable path cause), disk)
    | .ok disk => (ending, disk)

/-- Saves settings to a file of a device with links that may fail. -/
def saveWith (l : Links) (f : Faults) (s : Settings) (path : String) (disk : Disk) :
    Ending × Disk :=
  match prepareFolderWith l f.folder path disk with
  | (.error e, disk) => (.failed e, disk)
  | (.ok (), disk) =>
    match backUpWith l f.backup path disk with
    | (.error e, disk) => (.failed e, disk)
    | (.ok (), disk) =>
      if f.unprintable then (.unprintable, disk)
      else writeWith l f s path disk

lemma prepareFolderWith_none (path : String) (disk : Disk) :
    prepareFolderWith {} none path disk = prepareFolder disk path := by
  unfold prepareFolderWith prepareFolder
  cases Path.parent? path with
  | none => rfl
  | some dir =>
    dsimp only
    rw [List.map_id]
    rfl

lemma backUpWith_none (path : String) (disk : Disk) :
    backUpWith {} none path disk = match backUp disk path with
      | .error e => (.error e, disk)
      | .ok disk => (.ok (), disk) := by
  have hcopy : backUpWith {} none path disk =
      if disk.has path then
        match disk.copy path (backupPath path) with
        | .error cause => (.error (.noBackup (backupPath path) cause), disk)
        | .ok disk => (.ok (), disk)
      else (.ok (), disk) := rfl
  rw [hcopy]
  unfold backUp
  split
  · cases disk.copy path (backupPath path) <;> rfl
  · rfl

lemma writeWith_none (s : Settings) (path : String) (disk : Disk) :
    writeWith {} {} s path disk =
      match disk.write path .replace (toBytes (Json.print s.toJson)) with
      | .error cause => (.failed (.uncreatable path cause), disk)
      | .ok disk => (.saved, disk) := rfl

/-- On a device that does not fail and has no links, settings are saved by `save`. -/
theorem saveWith_none (s : Settings) (path : String) (disk : Disk) :
    saveWith {} {} s path disk = (.ofResult (save s path disk).1, (save s path disk).2) := by
  unfold saveWith save
  rw [prepareFolderWith_none]
  rcases prepareFolder disk path with ⟨_ | ⟨⟩, disk⟩
  · rfl
  dsimp only
  rw [backUpWith_none]
  rcases backUp disk path with _ | disk
  · rfl
  dsimp only
  rw [if_neg Bool.false_ne_true, writeWith_none]
  cases disk.write path .replace (toBytes (Json.print s.toJson)) <;> rfl

/-! ### The path of the backup -/

variable {path : String} {disk disk' : Disk} {old : Bytes} {place : String}

lemma toList_backup : "json.bak".toList = "json".toList ++ '.' :: "bak".toList := by decide

/-- **The backup of a file with a name has another path.** -/
theorem backupPath_ne (h : Path.fileName? path ≠ none) : backupPath path ≠ path := by
  obtain ⟨name, hname⟩ := Option.ne_none_iff_exists'.mp h
  exact Path.withExtension_ne toList_backup (by decide) (by decide) hname

lemma exists_names_of_read (hr : disk.read path = .ok old) : ∃ front name name',
    Text.fields '/' path.toList = front ++ [name] ∧
      Text.fields '/' (backupPath path).toList = front ++ [name'] ∧ name ≠ name' ∧
      IsName name ∧ IsName name' := by
  obtain ⟨front, name, hfields, hname⟩ := exists_name_of_read hr
  obtain ⟨h0, hdot, hdots⟩ := hname
  have hbackup : Text.fields '/' (backupPath path).toList =
      front ++ [Path.stem name ++ '.' :: "json.bak".toList] :=
    Path.fields_withExtension (by decide) (Path.fileName?_of_fields hfields h0 hdot hdots) hfields
      (List.forall_mem_nil _) (by simp [Path.isEmptyPart, h0, hdot])
  have hlong (short : List Char) (h : short.length < 9) :
      Path.stem name ++ '.' :: "json.bak".toList ≠ short := by
    have hlen : (Path.stem name ++ '.' :: "json.bak".toList).length =
        (Path.stem name).length + 9 := List.length_append
    intro e
    rw [e] at hlen
    omega
  exact ⟨front, name, _, hfields, hbackup,
    (Path.stem_append_ne name toList_backup (by decide)).symm,
    ⟨h0, hdot, hdots⟩, hlong _ (by decide), hlong _ (by decide), hlong _ (by decide)⟩

/-- Whether a file can be read at a path, and making its backup would write to the file itself. -/
def Links.Shares (l : Links) (path : String) (disk : Disk) : Prop :=
  ∃ place old, disk.read (l.real path) = .ok old ∧ disk.resolve (l.real path) = .ok place ∧
    disk.target? (l.real (backupPath path)) = some place

/-- Without links, the backup of a file is not written to the file. -/
lemma not_shares (path : String) (disk : Disk) : ¬ Links.Shares {} path disk := by
  rintro ⟨place, old, hr, hplace, ht⟩
  obtain ⟨front, name, name', h, h', hne, hname, hname'⟩ := exists_names_of_read hr
  exact resolve_ne_of_target? h hname h' hname'.ne_nil hne ht hplace

section Kept

variable {l : Links} {s : Settings} {ending : Ending}

lemma resolve_ne_backup (hs : ¬ l.Shares path disk) (hr : disk.read (l.real path) = .ok old) :
    ∀ place, disk.target? (l.real (backupPath path)) = some place →
      disk.resolve (l.real path) ≠ .ok place :=
  fun place ht hplace => hs ⟨place, old, hr, hplace, ht⟩

/-! ### The stages of saving -/

lemma grows_prepareFolderWith (l : Links) (fault : Option (Nat × IoError)) (path : String)
    (disk : Disk) : Grows disk (prepareFolderWith l fault path disk).2 := by
  unfold prepareFolderWith
  split
  · exact .refl disk
  · next dir _ =>
    split
    · exact .refl disk
    split
    · exact grows_makeChain disk _
    · next level cause =>
      have hgrows := grows_makeChain disk (((Path.chain dir).drop level).map l.real)
      split <;> next hmade => rwa [hmade] at hgrows

lemma writes_of_copyPart {n : Nat} {source target : String}
    (h : copyPart n source target disk = .ok disk') : Writes disk target disk' := by
  unfold copyPart at h
  obtain ⟨opened, hopened, h⟩ := exists_of_bind h
  obtain ⟨bytes, -, h⟩ := exists_of_bind h
  exact (writes_of_write hopened).trans (writes_of_write h)

/-- Making a backup writes the backup or nothing, and of a file that is read and another one than
its backup it leaves the bytes there unless there is an error. -/
lemma backUpWith_spec (l : Links) (fault : Option BackupFault) (path : String) (disk : Disk) :
    Writes disk (l.real (backupPath path)) (backUpWith l fault path disk).2 ∧
      (¬ l.Shares path disk → ∀ old, disk.read (l.real path) = .ok old →
        (backUpWith l fault path disk).1 = .ok () →
          (backUpWith l fault path disk).2.read (l.real (backupPath path)) = .ok old) := by
  unfold backUpWith
  dsimp only
  by_cases hhas : disk.has (l.real path) = true
  · rw [if_pos hhas]
    cases fault with
    | none =>
      dsimp only
      cases hcopy : disk.copy (l.real path) (l.real (backupPath path)) with
      | error e => exact ⟨.refl _ _, fun _ _ _ => nofun⟩
      | ok disk' =>
        exact ⟨writes_of_copy hcopy, fun hs old hr _ =>
          read_of_copy hcopy hr (resolve_ne_backup hs hr)⟩
    | some fault =>
      refine ⟨?_, fun _ _ _ => nofun⟩
      dsimp only
      split
      · next n _ =>
        cases hcopy : copyPart n (l.real path) (l.real (backupPath path)) disk with
        | error e => exact .refl _ _
        | ok disk' => exact writes_of_copyPart hcopy
      · exact .refl _ _
  · rw [if_neg hhas]
    exact ⟨.refl _ _, fun _ old hr => absurd (has_of_read hr) hhas⟩

/-- Creating and writing the file writes it or nothing, and nothing if it ends early. -/
lemma writeWith_spec (l : Links) (f : Faults) (s : Settings) (path : String) (disk : Disk) :
    Writes disk (l.real path) (writeWith l f s path disk).2 ∧
      ((writeWith l f s path disk).1.isEarly → (writeWith l f s path disk).2 = disk) ∧
      ((writeWith l f s path disk).1 = .saved →
        (writeWith l f s path disk).2.read (l.real path) =
          .ok (toBytes (Json.print s.toJson))) := by
  have hwrite (bytes : Bytes) (ending : Ending) (hearly : ¬ending.isEarly) :
      let r := match disk.write (l.real path) .replace bytes with
        | .error cause => (Ending.failed (.uncreatable path cause), disk)
        | .ok disk => (ending, disk)
      Writes disk (l.real path) r.2 ∧ (r.1.isEarly → r.2 = disk) ∧
        (r.1 = .saved → ending = .saved ∧ r.2.read (l.real path) = .ok bytes) := by
    cases hw : disk.write (l.real path) .replace bytes with
    | error e => exact ⟨.refl _ _, fun _ => rfl, nofun⟩
    | ok disk' =>
      exact ⟨writes_of_write hw, fun h => absurd h hearly, fun h => ⟨h, read_of_write hw⟩⟩
  obtain ⟨folder, backup, unprintable, creation, writing⟩ := f
  cases creation with
  | some cause => exact ⟨.refl _ _, fun _ => rfl, nofun⟩
  | none =>
    rcases writing with _ | ⟨n, cause⟩
    · obtain ⟨hw, hearly, hsaved⟩ := hwrite (toBytes (Json.print s.toJson)) .saved id
      exact ⟨hw, hearly, fun h => (hsaved h).2⟩
    · obtain ⟨hw, hearly, hsaved⟩ :=
        hwrite ((toBytes (Json.print s.toJson)).take n) (.unwritten cause) id
      exact ⟨hw, hearly, fun h => absurd (hsaved h).1 nofun⟩

/-! ### What is kept -/

/-- What saving keeps, whatever comes of it. -/
structure Keeps (l : Links) (s : Settings) (path : String) (disk : Disk) (ending : Ending)
    (disk' : Disk) : Prop where
  /-- What the file held can be read from it or from its backup. -/
  old : ∀ old, disk.read (l.real path) = .ok old →
    disk'.read (l.real path) = .ok old ∨ disk'.read (l.real (backupPath path)) = .ok old
  /-- No file changes but these two. -/
  others : ∀ place, disk'.resolve (l.real path) ≠ .ok place →
    disk'.resolve (l.real (backupPath path)) ≠ .ok place →
      ∀ bytes, disk'.node? place = some (.file bytes) ↔ disk.node? place = some (.file bytes)
  /-- If the file has not been created, it is as before, and no file changes but its backup. -/
  early : ending.isEarly →
    (∀ old, disk.read (l.real path) = .ok old → disk'.read (l.real path) = .ok old) ∧
    ∀ place, disk'.resolve (l.real (backupPath path)) ≠ .ok place →
      ∀ bytes, disk'.node? place = some (.file bytes) ↔ disk.node? place = some (.file bytes)
  /-- If all goes well, the file holds the settings, and the backup what it held before. -/
  saved : ending = .saved →
    disk'.read (l.real path) = .ok (toBytes (Json.print s.toJson)) ∧
      ∀ old, disk.read (l.real path) = .ok old → disk'.read (l.real (backupPath path)) = .ok old

/-- Folders are made first, then the backup is written, and then the file. -/
lemma keeps_of_stages {grown backed : Disk} (hs : ¬ l.Shares path grown)
    (hgrows : Grows disk grown) (hbackup : Writes grown (l.real (backupPath path)) backed)
    (hwrite : Writes backed (l.real path) disk') (hearly : ending.isEarly → disk' = backed)
    (hlate : ¬ending.isEarly → ∀ old, grown.read (l.real path) = .ok old →
      backed.read (l.real (backupPath path)) = .ok old)
    (hsaved : ending = .saved →
      disk'.read (l.real path) = .ok (toBytes (Json.print s.toJson))) :
    Keeps l s path disk ending disk' := by
  have hread (old : Bytes) (hr : disk.read (l.real path) = .ok old) :
      backed.read (l.real path) = .ok old :=
    hbackup.read_eq (read_of_grows hgrows hr) (resolve_ne_backup hs (read_of_grows hgrows hr))
  have hkept (old : Bytes) (hr : disk.read (l.real path) = .ok old) (hend : ¬ending.isEarly) :
      disk'.read (l.real (backupPath path)) = .ok old := by
    have hgrown := read_of_grows hgrows hr
    have hbacked := hlate hend old hgrown
    refine hwrite.read_eq hbacked fun place ht hplace => ?_
    -- both paths lead where they led before the backup was written
    have hbefore := (target?_congr hbackup.alike _).trans (target?_of_read hbacked hplace)
    exact resolve_ne_backup hs hgrown place hbefore
      (resolve_of_alike hbackup.alike.symm (resolve_of_target? ht).1)
  have hothers (place : String) (h : backed.resolve (l.real (backupPath path)) ≠ .ok place)
      (bytes : Bytes) : backed.node? place = some (.file bytes) ↔
        disk.node? place = some (.file bytes) := by
    rw [hbackup.node?_eq h]
    exact hgrows.file_iff place bytes
  refine ⟨fun old hr => ?_, fun place h h' bytes => ?_, fun hend => ?_, fun hend => ?_⟩
  · by_cases hend : ending.isEarly
    · exact .inl (hearly hend ▸ hread old hr)
    · exact .inr (hkept old hr hend)
  · rw [hwrite.node?_eq h]
    exact hothers place (fun hr => h' (resolve_of_alike hwrite.alike hr)) bytes
  · rw [hearly hend]
    exact ⟨hread, hothers⟩
  · exact ⟨hsaved hend, fun old hr => hkept old hr (by rw [hend]; exact id)⟩

lemma keeps_saveWith (l : Links) (f : Faults) (s : Settings) (path : String) (disk : Disk)
    (hs : ¬ l.Shares path (prepareFolderWith l f.folder path disk).2) :
    Keeps l s path disk (saveWith l f s path disk).1 (saveWith l f s path disk).2 := by
  have hgrows := grows_prepareFolderWith l f.folder path disk
  unfold saveWith
  rcases hmade : prepareFolderWith l f.folder path disk with ⟨e | ⟨⟩, grown⟩ <;>
    rw [hmade] at hgrows hs <;> dsimp only
  · exact keeps_of_stages hs hgrows (.refl _ _) (.refl _ _) (fun _ => rfl) (absurd trivial) nofun
  obtain ⟨hbackup, hbytes⟩ := backUpWith_spec l f.backup path grown
  rcases hcopied : backUpWith l f.backup path grown with ⟨e | ⟨⟩, backed⟩ <;>
    rw [hcopied] at hbackup hbytes <;> dsimp only
  · exact keeps_of_stages hs hgrows hbackup (.refl _ _) (fun _ => rfl) (absurd trivial) nofun
  split
  · exact keeps_of_stages hs hgrows hbackup (.refl _ _) (fun _ => rfl) (absurd trivial) nofun
  · obtain ⟨hwrite, hearly, hsaved⟩ := writeWith_spec l f s path backed
    exact keeps_of_stages hs hgrows hbackup hwrite hearly
      (fun _ old hr => hbytes hs old hr rfl) hsaved

/-! ### Backups that are the file -/

/-- If the backup of a file is the file itself, then after saving it holds the settings, and so does
the backup. -/
lemma saveWith_of_shares {grown : Disk}
    (hmade : prepareFolderWith l none path disk = (.ok (), grown)) (hs : l.Shares path grown) :
    ∃ disk', saveWith l {} s path disk = (.saved, disk') ∧
      disk'.read (l.real path) = .ok (toBytes (Json.print s.toJson)) ∧
      disk'.read (l.real (backupPath path)) = .ok (toBytes (Json.print s.toJson)) := by
  obtain ⟨place, old, hr, hplace, ht⟩ := hs
  obtain ⟨backed, hcopy, halike, hempty⟩ := exists_copy_of_resolve hr hplace ht
  have htarget := target?_of_read hempty (resolve_of_alike halike hplace)
  have htarget' := (target?_congr halike _).symm.trans ht
  have hwrite := write_of_target? htarget (toBytes (Json.print s.toJson))
  refine ⟨_, ?_, read_of_write hwrite, read_put htarget' _⟩
  unfold saveWith backUpWith writeWith
  simp only [hmade, has_of_read hr, if_true, hcopy, hwrite, Bool.false_eq_true, if_false]

end Kept

/-- **What a file of settings held is not lost by saving, unless its backup is the file itself.**
Saving on a device that may fail anywhere is `save` if nothing fails and nothing is linked. Whatever
fails, and wherever links lead, as long as the path of the backup does not lead to the file: the
bytes that the file held can be read from it or from its backup, no other file changes, and as long
as the file is not created it is as before; and if all is saved, the file holds the settings and the
backup the bytes that the file held. Without links the path of the backup never leads to the file,
whatever name the file has. By a link it may: then saving ends well, and both paths lead to the
settings alone. -/
theorem saved_or_backed_up (s : Settings) (path : String) (disk : Disk) :
    (Path.fileName? path ≠ none → backupPath path ≠ path) ∧
    saveWith {} {} s path disk = (.ofResult (save s path disk).1, (save s path disk).2) ∧
    (∀ f : Faults,
      Keeps {} s path disk (saveWith {} f s path disk).1 (saveWith {} f s path disk).2) ∧
    ∀ l : Links,
      (∀ f : Faults, ¬ l.Shares path (prepareFolderWith l f.folder path disk).2 →
        Keeps l s path disk (saveWith l f s path disk).1 (saveWith l f s path disk).2) ∧
      ∀ grown, prepareFolderWith l none path disk = (.ok (), grown) → l.Shares path grown →
        ∃ disk', saveWith l {} s path disk = (.saved, disk') ∧
          disk'.read (l.real path) = .ok (toBytes (Json.print s.toJson)) ∧
          disk'.read (l.real (backupPath path)) = .ok (toBytes (Json.print s.toJson)) :=
  ⟨backupPath_ne, saveWith_none s path disk,
    fun f => keeps_saveWith {} f s path disk (not_shares path _),
    fun l => ⟨fun f => keeps_saveWith l f s path disk, fun _ => saveWith_of_shares⟩⟩

/-- The backup is a link to a third file, and writing stops after two bytes: the file holds these,
and the third one what the file held. -/
theorem saved_or_backed_up_cut_short :
    let path := "etc/config.json"
    let disk := (({} : Disk).withFile path [0x5B, 0x31, 0x5D]).withFile "old.json" [0x7B, 0x7D]
    let l : Links := { real := fun p => if p = "etc/config.json.bak" then "old.json" else p }
    let f : Faults := { writing := some (2, .brokenPipe) }
    let disk' := (saveWith l f {} path disk).2
    backupPath path = "etc/config.json.bak" ∧ backupPath path ≠ path ∧
      Keeps l {} path disk (saveWith l f {} path disk).1 disk' ∧
      disk'.read path = .ok [0x7B, 0x0A] ∧ disk'.read "old.json" = .ok [0x5B, 0x31, 0x5D] := by
  intro path disk l f disk'
  obtain ⟨hpath, -, -, hlinks⟩ := saved_or_backed_up {} path disk
  have hs : ¬ l.Shares path (prepareFolderWith l f.folder path disk).2 := by
    rintro ⟨place, old, -, hplace, ht⟩
    have hfile : (prepareFolderWith l f.folder path disk).2.resolve (l.real path) =
        .ok "etc/config.json" := by decide +kernel
    have hbackup : (prepareFolderWith l f.folder path disk).2.target?
        (l.real (backupPath path)) = some "old.json" := by decide +kernel
    obtain rfl := Except.ok.inj (hplace.symm.trans hfile)
    exact absurd (Option.some.inj (ht.symm.trans hbackup)) (by decide)
  exact ⟨by decide +kernel, hpath (by decide +kernel), (hlinks l).1 f hs, by decide +kernel,
    by decide +kernel⟩

/-- The name of the backup is a second name of the file: saving loses what the file held. -/
theorem lost_by_linked_backup :
    ¬ ∀ (l : Links) (f : Faults) (s : Settings) (path : String) (disk : Disk),
      Keeps l s path disk (saveWith l f s path disk).1 (saveWith l f s path disk).2 := by
  intro h
  have hkeeps := h { real := fun p => if p = "config.json.bak" then "config.json" else p } {} {}
    "config.json" (({} : Disk).withFile "config.json" [0x5B, 0x31, 0x5D])
  have hold := hkeeps.old [0x5B, 0x31, 0x5D] (by decide +kernel)
  revert hold
  decide +kernel

end FleetScript.Settings
