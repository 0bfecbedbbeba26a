import FleetScript.Proofs.Disk.Places
import FleetScript.Proofs.Path.Extension

/-!
What making folders and writing a file leave as it was. However far the making of folders comes, a
disk only gains folders by it (`Grows`): what stood somewhere stands there still, and no file is
new. Writing a file (`Writes`) changes what stands at its place alone. So every other path leads on
to what it led to.
-/

namespace FleetScript.Disk

open Text

variable {d d' : Disk} {place path q : String}

/-- The disk has gained nothing but folders. -/
structure Grows (d d' : Disk) : Prop where
  base : d'.base = d.base
  kept : ∀ place n, d.node? place = some n → d'.node? place = some n
  file : ∀ place bytes, d'.node? place = some (.file bytes) → d.node? place = some (.file bytes)

lemma Grows.refl (d : Disk) : Grows d d := ⟨rfl, fun _ _ h => h, fun _ _ h => h⟩

lemma Grows.trans {d'' : Disk} (h : Grows d d') (h' : Grows d' d'') : Grows d d'' where
  base := h'.base.trans h.base
  kept place n hn := h'.kept place n (h.kept place n hn)
  file place bytes hn := h.file place bytes (h'.file place bytes hn)

lemma Grows.file_iff (h : Grows d d') (place : String) (bytes : Bytes) :
    d'.node? place = some (.file bytes) ↔ d.node? place = some (.file bytes) :=
  ⟨h.file place bytes, h.kept place _⟩

/-! ### Folders -/

lemma grows_put (h : d.node? place = none) : Grows d (d.put place .folder) := by
  have hplace : place.isEmpty = false := isEmpty_of_no_folder (by rw [h]; exact nofun)
  refine ⟨rfl, fun q n hn => ?_, fun q bytes hn => ?_⟩
  · rw [node?_put d hplace, if_neg]
    · exact hn
    · rintro rfl
      rw [h] at hn
      cases hn
  · rw [node?_put d hplace] at hn
    split at hn
    · cases hn
    · exact hn

lemma grows_makeFolder (h : d.makeFolder path = .ok d') : Grows d d' := by
  unfold makeFolder at h
  simp only [bind, Except.bind, pure, Except.pure, throw, throwThe, MonadExceptOf.throw] at h
  split at h
  · cases h
  split at h
  · cases h
  split at h
  · cases h
  split at h
  · cases h
  split at h
  · cases h
  split at h
  · cases h
  next hnone =>
  obtain rfl := Except.ok.inj h
  exact grows_put hnone

/-- Folders that are made one in another leave everything else, and so do those that are made
before one fails. -/
theorem grows_makeChain (d : Disk) (paths : List String) : Grows d (d.makeChain paths).2 := by
  induction paths generalizing d with
  | nil => exact .refl d
  | cons path paths ih =>
    unfold makeChain
    split
    · exact .refl d
    split
    · next hmade => exact grows_makeFolder hmade
    · split
      · next hrest => exact hrest ▸ ih d
      · next d' hrest =>
        have hgrown : Grows d d' := by simpa [hrest] using ih d
        split
        · next hmade => exact hgrown.trans (grows_makeFolder hmade)
        · split <;> exact hgrown
    · split <;> exact .refl d

/-! ### Paths -/

lemma walk_of_grows (h : Grows d d') {ps : List (List Char)} (hw : d.walk place ps = .ok q) :
    d'.walk place ps = .ok q := by
  induction ps generalizing place with
  | nil => exact hw
  | cons p ps ih =>
    rw [walk] at hw ⊢
    -- only through folders does a walk go on, and folders stay
    rcases hn : d.node? place with _ | _ | _
    · rw [hn] at hw
      cases hw
    · rw [hn] at hw
      cases hw
    · rw [hn] at hw
      rw [h.kept _ _ hn]
      dsimp only at hw ⊢
      split
      · next hp =>
        rw [if_pos hp] at hw
        exact ih hw
      next hp =>
      rw [if_neg hp] at hw
      split
      · next hdots =>
        rw [if_pos hdots] at hw
        exact ih hw
      next hdots =>
      rw [if_neg hdots] at hw
      split
      · next hlong =>
        rw [if_pos hlong] at hw
        cases hw
      next hlong =>
      rw [if_neg hlong] at hw
      exact ih hw

lemma resolve_of_grows (h : Grows d d') (hr : d.resolve path = .ok q) :
    d'.resolve path = .ok q := by
  unfold resolve at hr ⊢
  cases hc : checkPath path with
  | error e =>
    rw [hc] at hr
    cases hr
  | ok u =>
    rw [hc] at hr
    have hstart : d'.start path = d.start path := by rw [start, start, h.base]
    show d'.walk (d'.start path) _ = .ok q
    rw [hstart]
    exact walk_of_grows h hr

/-! ### Files -/

lemma read_of_grows (h : Grows d d') {bytes : Bytes} (hr : d.read path = .ok bytes) :
    d'.read path = .ok bytes := by
  obtain ⟨place, hplace, hn, hfile⟩ := read_eq_ok_iff.mp hr
  exact read_eq_ok_iff.mpr ⟨place, resolve_of_grows h hplace, h.kept _ _ hn, hfile⟩

/-! ### Files that are written -/

/-- The disk has been changed at most in what the file holds that a path leads to. -/
structure Writes (d : Disk) (path : String) (d' : Disk) : Prop where
  alike : Alike d d'
  elsewhere : ∀ q, d.target? path ≠ some q → d'.node? q = d.node? q

lemma Writes.refl (d : Disk) (path : String) : Writes d path d := ⟨.refl d, fun _ _ => rfl⟩

lemma Writes.trans {d'' : Disk} (h : Writes d path d') (h' : Writes d' path d'') :
    Writes d path d'' where
  alike := h.alike.trans h'.alike
  elsewhere q hq := by
    rw [h'.elsewhere q (target?_congr h.alike path ▸ hq), h.elsewhere q hq]

lemma writes_put (h : d.target? path = some place) (bytes : Bytes) :
    Writes d path (d.put place (.file bytes)) where
  alike := alike_put (no_folder_of_target? h) bytes
  elsewhere q hq := by
    rw [node?_put d (isEmpty_of_no_folder (no_folder_of_target? h)), if_neg]
    rintro rfl
    exact hq h

lemma exists_of_write {bytes : Bytes} (h : d.write path .replace bytes = .ok d') :
    ∃ place, d.target? path = some place ∧ d' = d.put place (.file bytes) := by
  have hwrite := write_eq d path .replace bytes
  rw [h] at hwrite
  obtain ⟨place, htarget, hd⟩ := Option.map_eq_some_iff.mp hwrite.symm
  exact ⟨place, htarget, hd.symm⟩

lemma write_of_target? (h : d.target? path = some place) (bytes : Bytes) :
    d.write path .replace bytes = .ok (d.put place (.file bytes)) :=
  eq_ok_of_toOption ((write_eq d path .replace bytes).trans (by rw [h]; rfl))

lemma writes_of_write {bytes : Bytes} (h : d.write path .replace bytes = .ok d') :
    Writes d path d' := by
  obtain ⟨place, htarget, rfl⟩ := exists_of_write h
  exact writes_put htarget bytes

lemma Writes.node?_eq (h : Writes d path d') (hq : d'.resolve path ≠ .ok q) :
    d'.node? q = d.node? q :=
  h.elsewhere q fun ht => hq (resolve_of_alike h.alike (resolve_of_target? ht).1)

lemma Writes.read_eq {other : String} {bytes : Bytes} (h : Writes d path d')
    (hr : d.read other = .ok bytes)
    (hne : ∀ place, d.target? path = some place → d.resolve other ≠ .ok place) :
    d'.read other = .ok bytes := by
  obtain ⟨place, hplace, hn, hfile⟩ := read_eq_ok_iff.mp hr
  refine read_eq_ok_iff.mpr ⟨place, resolve_of_alike h.alike hplace, ?_, hfile⟩
  rw [h.elsewhere place fun ht => hne place ht hplace]
  exact hn

/-- What is put at the place of a file is read by every path that leads there to a file. -/
lemma read_put_of_resolve (hfolder : d.node? place ≠ some .folder)
    (hplace : d.resolve path = .ok place) (hfile : mustBeFolder path = false) (bytes : Bytes) :
    (d.put place (.file bytes)).read path = .ok bytes := by
  refine read_eq_ok_iff.mpr ⟨place, resolve_of_alike (alike_put hfolder bytes) hplace, ?_, hfile⟩
  rw [node?_put d (isEmpty_of_no_folder hfolder), if_pos rfl]

lemma read_put (h : d.target? path = some place) (bytes : Bytes) :
    (d.put place (.file bytes)).read path = .ok bytes :=
  read_put_of_resolve (no_folder_of_target? h) (resolve_of_target? h).1 (resolve_of_target? h).2
    bytes

lemma read_of_write {bytes : Bytes} (h : d.write path .replace bytes = .ok d') :
    d'.read path = .ok bytes := by
  obtain ⟨place, htarget, rfl⟩ := exists_of_write h
  exact read_put htarget bytes

/-! ### Copies -/

lemma find_of_read {bytes : Bytes} (h : d.read path = .ok bytes) :
    d.find path = .ok (.file bytes) := by
  unfold read at h
  obtain ⟨n, hfind, h⟩ := exists_of_bind h
  cases n with
  | folder => cases h
  | file content =>
    obtain rfl := Except.ok.inj h
    exact hfind

/-- A copy that is made empties its target, reads its source, and writes what it has read. -/
lemma exists_of_copy {source target : String} (h : d.copy source target = .ok d') :
    ∃ opened bytes, d.write target .replace [] = .ok opened ∧ opened.read source = .ok bytes ∧
      opened.write target .replace bytes = .ok d' := by
  unfold copy at h
  obtain ⟨_ | _, -, h⟩ := exists_of_bind h
  · obtain ⟨opened, hopened, h⟩ := exists_of_bind h
    obtain ⟨bytes, hbytes, h⟩ := exists_of_bind h
    exact ⟨opened, bytes, hopened, hbytes, h⟩
  · cases h

lemma writes_of_copy {source target : String} (h : d.copy source target = .ok d') :
    Writes d target d' := by
  obtain ⟨opened, bytes, hopened, -, hwritten⟩ := exists_of_copy h
  exact (writes_of_write hopened).trans (writes_of_write hwritten)

lemma read_of_copy {source target : String} {bytes : Bytes} (h : d.copy source target = .ok d')
    (hr : d.read source = .ok bytes)
    (hne : ∀ place, d.target? target = some place → d.resolve source ≠ .ok place) :
    d'.read target = .ok bytes := by
  obtain ⟨opened, bytes', hopened, hread, hwritten⟩ := exists_of_copy h
  obtain rfl := Except.ok.inj (hread.symm.trans ((writes_of_write hopened).read_eq hr hne))
  exact read_of_write hwritten

/-- A file that is copied to itself is empty. -/
lemma exists_copy_of_resolve {source target : String} {bytes : Bytes}
    (hr : d.read source = .ok bytes) (hplace : d.resolve source = .ok place)
    (ht : d.target? target = some place) :
    ∃ d', d.copy source target = .ok d' ∧ Alike d d' ∧ d'.read source = .ok [] := by
  obtain ⟨place', hplace', hn, hfile⟩ := read_eq_ok_iff.mp hr
  obtain rfl := Except.ok.inj (hplace.symm.trans hplace')
  have hfolder := no_folder_of_target? ht
  have halike := alike_put hfolder []
  have ht' : (d.put place (.file [])).target? target = some place :=
    (target?_congr halike target).symm.trans ht
  have hfolder' := no_folder_of_target? ht'
  refine ⟨(d.put place (.file [])).put place (.file []), ?_, halike.trans (alike_put hfolder' []),
    read_put_of_resolve hfolder' (resolve_of_alike halike hplace) hfile []⟩
  unfold copy
  rw [find_of_read hr]
  simp only [bind, Except.bind]
  rw [write_of_target? ht]
  simp only []
  rw [read_put_of_resolve hfolder hplace hfile []]
  exact write_of_target? ht' []

/-! ### Files in one folder -/

/-- A name that stands for itself in paths. -/
structure IsName (name : List Char) : Prop where
  ne_nil : name ≠ []
  ne_dot : name ≠ ['.']
  ne_dots : name ≠ ['.', '.']

lemma exists_name_of_read {bytes : Bytes} (h : d.read path = .ok bytes) :
    ∃ front name, fields '/' path.toList = front ++ [name] ∧ IsName name := by
  obtain ⟨-, -, -, hfile⟩ := read_eq_ok_iff.mp h
  have hfields := (List.dropLast_concat_getLast (fields_ne_nil '/' path.toList)).symm
  generalize (fields '/' path.toList).dropLast = front at hfields
  generalize (fields '/' path.toList).getLast _ = name at hfields
  unfold mustBeFolder at hfile
  rw [hfields, List.getLast?_concat] at hfile
  simp only [Bool.or_eq_false_iff, decide_eq_false_iff_not] at hfile
  exact ⟨front, name, hfields, hfile.1.1, hfile.1.2, hfile.2⟩

lemma target?_of_read {bytes : Bytes} (hr : d.read path = .ok bytes)
    (hplace : d.resolve path = .ok place) : d.target? path = some place := by
  obtain ⟨front, name, hfields, hname⟩ := exists_name_of_read hr
  obtain ⟨place', hplace', hn, -⟩ := read_eq_ok_iff.mp hr
  obtain rfl := Except.ok.inj (hplace.symm.trans hplace')
  have hend : pathEnd path = { front, last := some name, slash := false } := by
    have h := pathEnd_of_fields (fun e => hname.ne_nil (String.ofList_eq_empty_iff.mp e))
      (hfields.trans (by rw [String.toList_ofList]))
    rwa [String.toList_ofList] at h
  unfold resolve at hplace
  cases hcheck : checkPath path with
  | error e =>
    rw [hcheck] at hplace
    cases hplace
  | ok u =>
    rw [hcheck, hfields] at hplace
    have hwalk : d.walk (d.start path) (front ++ [name]) = .ok place := hplace
    rw [walk_append] at hwalk
    cases hfront : d.walk (d.start path) front with
    | error e =>
      rw [hfront] at hwalk
      cases hwalk
    | ok q =>
      rw [hfront] at hwalk
      have hlast : d.walk q [name] = .ok place := hwalk
      -- the name is looked up in a folder
      have hq : d.node? q = some .folder := by
        by_contra hno
        have hnone := walk_of_no_folder hno name []
        rw [hlast] at hnone
        cases hnone
      have hat : d.folderAt (d.start path) front = .ok q := by
        unfold folderAt
        rw [hfront]
        simp only [bind, Except.bind, hq]
        rfl
      unfold target?
      simp [hcheck, hend, hname.ne_dot, hname.ne_dots, hat, hlast, hn, Except.isOk, Except.toBool,
        Except.toOption]

/-- Paths that differ in their names alone start at one place. -/
lemma start_of_fields (d : Disk) {other : String} {front : List (List Char)}
    {name name' : List Char} (h : fields '/' path.toList = front ++ [name])
    (h' : fields '/' other.toList = front ++ [name']) (h0 : name ≠ []) (h0' : name' ≠ []) :
    d.start path = d.start other := by
  have habsolute : Path.isAbsolute path = Path.isAbsolute other := by
    rw [Bool.eq_iff_iff, Path.isAbsolute_iff_of_fields h h0, Path.isAbsolute_iff_of_fields h' h0']
  unfold Path.isAbsolute at habsolute
  unfold start
  simp only [decide_eq_decide] at habsolute
  simp only [habsolute]

/-- Where two paths differ in their names alone, a file at one of them is not written by way of the
other. -/
lemma resolve_ne_of_target? {other : String} {front : List (List Char)} {name name' : List Char}
    (h : fields '/' path.toList = front ++ [name]) (hname : IsName name)
    (h' : fields '/' other.toList = front ++ [name']) (h0 : name' ≠ []) (hne : name ≠ name')
    (ht : d.target? other = some place) : d.resolve path ≠ .ok place := by
  intro hr
  have hstring : String.ofList name' ≠ "" := fun e => h0 (String.ofList_eq_empty_iff.mp e)
  have hend : pathEnd other =
      { front, last := some (String.ofList name').toList, slash := false } :=
    pathEnd_of_fields hstring (by rwa [String.toList_ofList])
  obtain ⟨q, hq, hplace⟩ := exists_within_of_target? hstring hend ht
  have hfront := (walk_of_folderAt (eq_ok_of_toOption hq)).1
  -- the file is found by its name in the folder where the other path ends too
  have hwalk : d.walk (d.start path) (front ++ [name]) = .ok place := by
    unfold resolve at hr
    obtain ⟨-, -, hr⟩ := exists_of_bind hr
    rwa [h] at hr
  rw [walk_append, start_of_fields d h h' hname.ne_nil h0, hfront] at hwalk
  have hlast : place = within q (String.ofList name) :=
    eq_within_of_walk hname.ne_nil hname.ne_dot hname.ne_dots (congrArg Except.toOption hwalk)
  rw [hlast] at hplace
  exact hne (String.ofList_injective (within_inj hplace))

end FleetScript.Disk
