import FleetScript.Disk
import FleetScript.Proofs.Path.Names
import FleetScript.Proofs.Traversal

/-!
Where writing goes. The place that a path leads to for writing depends on the folders of a disk
alone, and writing files makes and removes none. So on disks that are alike in their folders
(`Alike`), a file is written at the same place, whatever other files have been written before.
-/

namespace FleetScript.Disk

variable {d d' : Disk} {place path : String}

lemma eq_ok_of_toOption {ε α : Type*} {x : Except ε α} {a : α} (h : x.toOption = some a) :
    x = .ok a := by
  cases x with
  | error e => cases h
  | ok b => exact congrArg _ (Option.some.inj h)

/-! ### Disks with the same folders -/

/-- Disks with the same folders, and the same one to start from. -/
structure Alike (d d' : Disk) : Prop where
  base : d.base = d'.base
  folder : ∀ place, d.node? place = some .folder ↔ d'.node? place = some .folder

lemma Alike.refl (d : Disk) : Alike d d := ⟨rfl, fun _ => Iff.rfl⟩

lemma Alike.symm (h : Alike d d') : Alike d' d := ⟨h.base.symm, fun place => (h.folder place).symm⟩

lemma Alike.trans {d'' : Disk} (h : Alike d d') (h' : Alike d' d'') : Alike d d'' :=
  ⟨h.base.trans h'.base, fun place => (h.folder place).trans (h'.folder place)⟩

lemma isEmpty_of_no_folder (h : d.node? place ≠ some .folder) : place.isEmpty = false := by
  refine Bool.eq_false_iff.mpr fun he => h ?_
  unfold node?
  rw [if_pos he]

lemma alike_put (h : d.node? place ≠ some .folder) (content : Text.Bytes) :
    Alike d (d.put place (.file content)) where
  base := rfl
  folder q := by
    rw [node?_put d (isEmpty_of_no_folder h)]
    split
    · next hq => simp [hq, h]
    · rfl

lemma start_congr (h : Alike d d') (path : String) : d.start path = d'.start path := by
  unfold start
  rw [h.base]

lemma walk_of_no_folder (hn : d.node? place ≠ some .folder) (p : List Char)
    (ps : List (List Char)) : (d.walk place (p :: ps)).toOption = none := by
  rw [walk]
  rcases hd : d.node? place with _ | _ | _
  · rfl
  · rfl
  · exact absurd hd hn

lemma walk_congr (h : Alike d d') (place : String) (ps : List (List Char)) :
    (d.walk place ps).toOption = (d'.walk place ps).toOption := by
  induction ps generalizing place with
  | nil => rfl
  | cons p ps ih =>
    by_cases hf : d.node? place = some .folder
    · rw [walk, walk, hf, (h.folder place).mp hf]
      simp only []
      split
      · exact ih _
      split
      · exact ih _
      split
      · rfl
      · exact ih _
    · rw [walk_of_no_folder hf, walk_of_no_folder fun hf' => hf ((h.folder place).mpr hf')]

lemma resolve_congr (h : Alike d d') (path : String) :
    (d.resolve path).toOption = (d'.resolve path).toOption := by
  unfold resolve
  cases checkPath path with
  | error e => rfl
  | ok u =>
    show (d.walk (d.start path) _).toOption = (d'.walk (d'.start path) _).toOption
    rw [start_congr h]
    exact walk_congr h _ _

lemma resolve_of_alike (h : Alike d d') (hr : d.resolve path = .ok place) :
    d'.resolve path = .ok place := by
  refine eq_ok_of_toOption ?_
  rw [← resolve_congr h, hr]
  rfl

lemma folderAt_congr (h : Alike d d') (place : String) (ps : List (List Char)) :
    (d.folderAt place ps).toOption = (d'.folderAt place ps).toOption := by
  have hfolder (d : Disk) : (d.folderAt place ps).toOption =
      (d.walk place ps).toOption.bind fun q =>
        if d.node? q = some .folder then some q else none := by
    unfold folderAt
    cases d.walk place ps with
    | error e => rfl
    | ok q =>
      simp only [bind, Except.bind]
      rcases hn : d.node? q with _ | _ | _ <;> simp [Except.toOption, hn] <;> rfl
  rw [hfolder, hfolder, walk_congr h]
  congr 1
  funext q
  simp only [h.folder]

/-! ### Where a path is written -/

/-- The place that writing to a path writes to, if nothing but a folder at that place stands
against it. -/
def target? (d : Disk) (path : String) : Option String :=
  if (checkPath path).isOk then
    let e := pathEnd path
    e.last.bind fun name =>
      if name = ['.'] || name = ['.', '.'] || e.slash then none
      else (d.folderAt (d.start path) e.front).toOption.bind fun place =>
        (d.walk place [name]).toOption.bind fun place =>
          if d.node? place = some .folder then none else some place
  else none

lemma target?_congr (h : Alike d d') (path : String) : d.target? path = d'.target? path := by
  unfold target?
  simp only [folderAt_congr h, walk_congr h, start_congr h, h.folder]

/-- What a file holds; what is no file holds nothing. -/
def content : Option Node → Text.Bytes
  | some (.file bytes) => bytes
  | _ => []

theorem write_eq (d : Disk) (path : String) (mode : WriteMode) (bytes : Text.Bytes) :
    (d.write path mode bytes).toOption = (d.target? path).map fun place =>
      d.put place (.file (written (content (d.node? place)) mode bytes)) := by
  unfold write target?
  cases checkPath path with
  | error e => rfl
  | ok u =>
    simp only [bind, Except.bind, Except.isOk, Except.toBool, if_true]
    cases (pathEnd path).last with
    | none => rfl
    | some name =>
      simp only [Option.bind_some]
      cases d.folderAt (d.start path) (pathEnd path).front with
      | error e =>
        simp only []
        split <;> rfl
      | ok folder =>
        simp only []
        split
        · rfl
        simp only [Except.toOption, Option.bind_some, pure, Except.pure]
        cases d.walk folder [name] with
        | error e => rfl
        | ok place =>
          simp only [Option.bind_some]
          -- a folder is not replaced by a file
          rcases hn : d.node? place with _ | _ | _
          · simp [content, hn]
          · simp [content, hn]
          · rfl

/-- What a target says of its path: it ends in a name, in a folder that the rest leads to. -/
lemma exists_of_target? (h : d.target? path = some place) : ∃ name q,
    checkPath path = .ok () ∧ (pathEnd path).last = some name ∧ (pathEnd path).slash = false ∧
      name ≠ ['.'] ∧ name ≠ ['.', '.'] ∧ d.folderAt (d.start path) (pathEnd path).front = .ok q ∧
      d.walk q [name] = .ok place ∧ d.node? place ≠ some .folder := by
  unfold target? at h
  simp only [Option.ite_none_right_eq_some, Option.bind_eq_some_iff] at h
  obtain ⟨hcheck, name, hlast, h⟩ := h
  split at h
  · cases h
  next hend =>
  simp only [Bool.or_eq_true, decide_eq_true_eq, not_or, Bool.not_eq_true] at hend
  simp only [Option.bind_eq_some_iff] at h
  obtain ⟨q, hq, x, hx, h⟩ := h
  split at h
  · cases h
  next hfolder =>
  obtain rfl := Option.some.inj h
  have hok : checkPath path = .ok () := by
    cases hc : checkPath path with
    | error e =>
      rw [hc] at hcheck
      cases hcheck
    | ok u => rfl
  exact ⟨name, q, hok, hlast, hend.2, hend.1.1, hend.1.2, eq_ok_of_toOption hq,
    eq_ok_of_toOption hx, hfolder⟩

lemma no_folder_of_target? (h : d.target? path = some place) : d.node? place ≠ some .folder := by
  obtain ⟨-, -, -, -, -, -, -, -, -, hfolder⟩ := exists_of_target? h
  exact hfolder

/-! ### Changes one after another -/

/-- Changes that keep the folders, each of which makes of what stands at a place what the change and
the folders decide, make of it in the end what all of them have made in their order. -/
theorem node?_foldl {α : Type*} {after : Disk → α → Disk} {xs : List α}
    (change : Disk → α → Option Node → Option Node)
    (halike : ∀ x ∈ xs, ∀ d, Alike d (after d x))
    (hnode : ∀ x ∈ xs, ∀ d, (after d x).node? place = change d x (d.node? place))
    (hcongr : ∀ d d', Alike d d' → change d = change d') (d : Disk) :
    (xs.foldl after d).node? place =
      xs.foldl (fun old x => change d x old) (d.node? place) := by
  induction xs generalizing d with
  | nil => rfl
  | cons x xs ih =>
    obtain ⟨hx, hxs⟩ := List.forall_mem_cons.mp halike
    obtain ⟨hn, hns⟩ := List.forall_mem_cons.mp hnode
    rw [List.foldl_cons, List.foldl_cons, ih hxs hns, ← hcongr d _ (hx d), hn]

/-! ### Walks -/

lemma walk_append (d : Disk) (place : String) (ps qs : List (List Char)) :
    d.walk place (ps ++ qs) = (d.walk place ps).bind fun q => d.walk q qs := by
  induction ps generalizing place with
  | nil => rfl
  | cons p ps ih =>
    rw [List.cons_append, walk, walk]
    cases d.node? place with
    | none => rfl
    | some n =>
      cases n with
      | file c => rfl
      | folder =>
        simp only [ih]
        split
        · rfl
        split
        · rfl
        split <;> rfl

lemma walk_of_folderAt {ps : List (List Char)} {q : String} (h : d.folderAt place ps = .ok q) :
    d.walk place ps = .ok q ∧ d.node? q = some .folder := by
  unfold folderAt at h
  obtain ⟨r, hwalk, h⟩ := exists_of_bind h
  split at h
  · next hn =>
    obtain rfl := Except.ok.inj h
    exact ⟨hwalk, hn⟩
  · cases h
  · cases h

/-- A field that names nothing leaves a walk where it is, in a folder. -/
lemma walk_nothing {q : String} (h : d.node? q = some .folder) : d.walk q [[]] = .ok q := by
  rw [walk, h]
  rfl

/-! ### Names in a folder -/

lemma eq_within_of_walk {p : List Char} (h0 : p ≠ []) (h1 : p ≠ ['.']) (h2 : p ≠ ['.', '.'])
    {q : String} (h : (d.walk q [p]).toOption = some place) :
    place = within q (String.ofList p) := by
  have hf : d.node? q = some .folder := by
    by_contra hn
    rw [walk_of_no_folder hn] at h
    cases h
  rw [walk, hf] at h
  simp only [h0, h1, h2, or_self, if_false] at h
  split at h
  · cases h
  · exact (Option.some.inj h).symm

lemma pathEnd_of_fields {name : String} {front : List (List Char)} (h0 : name ≠ "")
    (h : Text.fields '/' path.toList = front ++ [name.toList]) :
    pathEnd path = { front, last := some name.toList, slash := false } := by
  have hne : name.toList ≠ [] := fun e => h0 (String.toList_eq_nil_iff.mp e)
  unfold pathEnd
  rw [h]
  simp [hne]

lemma exists_within_of_target? {name : String} {front : List (List Char)} (h0 : name ≠ "")
    (hend : pathEnd path = { front, last := some name.toList, slash := false })
    (ht : d.target? path = some place) :
    ∃ q, (d.folderAt (d.start path) front).toOption = some q ∧ place = within q name := by
  obtain ⟨last, q, -, hlast, -, hdot, hdots, hq, hplace, -⟩ := exists_of_target? ht
  rw [hend] at hlast hq
  obtain rfl := Option.some.inj hlast
  refine ⟨q, congrArg Except.toOption hq, ?_⟩
  rw [eq_within_of_walk (fun e => h0 (String.toList_eq_nil_iff.mp e)) hdot hdots
    (congrArg Except.toOption hplace), String.ofList_toList]

lemma within_inj {q n m : String} (h : within q n = within q m) : n = m := by
  unfold within at h
  split at h
  · exact h
  · exact String.append_right_inj _ |>.mp h

lemma start_join (d : Disk) {folder name : String} (h : '/' ∉ name.toList) :
    d.start (Path.join folder name) = d.start folder := by
  have habsolute := Path.isAbsolute_join folder h
  unfold Path.isAbsolute at habsolute
  unfold start
  simp only [decide_eq_decide] at habsolute
  simp only [habsolute]

/-- **What is written to a name in a folder lies in the folder that the path of the folder leads
to.** -/
theorem within_of_target? {folder name : String} (hslash : '/' ∉ name.toList) (h0 : name ≠ "")
    (h : d.target? (Path.join folder name) = some place) :
    ∃ q, d.walk (d.start folder) (Text.fields '/' folder.toList) = .ok q ∧
      d.node? q = some .folder ∧ place = within q name := by
  obtain ⟨front, hfront, hfields⟩ := Path.exists_fieldsBefore folder
  obtain ⟨q, hq, hplace⟩ :=
    exists_within_of_target? h0 (pathEnd_of_fields h0 (hfields name hslash)) h
  have hq := eq_ok_of_toOption hq
  obtain ⟨hwalk, hfolder⟩ := walk_of_folderAt hq
  rw [start_join d hslash] at hwalk
  refine ⟨q, ?_, hfolder, hplace⟩
  -- the folder is spelled without the last slash, which may leave nothing of it
  cases hfront with
  | empty he hf =>
    rw [hf] at hwalk
    obtain rfl := Except.ok.inj hwalk
    rw [he] at hfolder ⊢
    exact walk_nothing hfolder
  | slash hf _ =>
    rw [hf, walk_append, hwalk]
    exact walk_nothing hfolder
  | plain hf => rw [hf, hwalk]

theorem name_eq_of_target? {folder n m : String} (hn : '/' ∉ n.toList) (hm : '/' ∉ m.toList)
    (hn0 : n ≠ "") (hm0 : m ≠ "") (h : d.target? (Path.join folder n) = some place)
    (h' : d.target? (Path.join folder m) = some place) : n = m := by
  obtain ⟨q, hq, -, hplace⟩ := within_of_target? hn hn0 h
  obtain ⟨q', hq', -, hplace'⟩ := within_of_target? hm hm0 h'
  obtain rfl := Except.ok.inj (hq.symm.trans hq')
  exact within_inj (hplace.symm.trans hplace')

/-! ### Reading -/

lemma readText_congr (h : Alike d d') (hp : d.resolve path = .ok place)
    (hn : d.node? place = d'.node? place) : d.readText path = d'.readText path := by
  have hp' := resolve_of_alike h hp
  have hfind : d.find path = d'.find path := by
    unfold find
    rw [hp, hp']
    simp only [bind, Except.bind, hn]
  unfold readText read
  rw [hfind]

theorem read_eq_ok_iff {bytes : Text.Bytes} : d.read path = .ok bytes ↔
    ∃ place, d.resolve path = .ok place ∧ d.node? place = some (.file bytes) ∧
      mustBeFolder path = false := by
  unfold read find
  cases d.resolve path with
  | error e => simp [bind, Except.bind]
  | ok place =>
    simp only [bind, Except.bind, pure, Except.pure, throw, throwThe, MonadExceptOf.throw]
    rcases hn : d.node? place with _ | content | _
    · simp [hn]
    · by_cases hf : mustBeFolder path <;> simp [hn, hf]
    · simp [hn]

lemma has_of_read {bytes : Text.Bytes} (h : d.read path = .ok bytes) : d.has path = true := by
  unfold read at h
  obtain ⟨n, hfind, -⟩ := exists_of_bind h
  unfold has
  rw [hfind]
  rfl

lemma exists_read_of_readText {text : String} (h : d.readText path = .ok text) :
    ∃ bytes, d.read path = .ok bytes := by
  unfold readText at h
  obtain ⟨bytes, hread, -⟩ := exists_of_bind h
  exact ⟨bytes, hread⟩

lemma exists_resolve_of_readText {text : String} (h : d.readText path = .ok text) :
    ∃ place, d.resolve path = .ok place := by
  obtain ⟨bytes, hr⟩ := exists_read_of_readText h
  obtain ⟨place, hplace, -⟩ := read_eq_ok_iff.mp hr
  exact ⟨place, hplace⟩

/-! ### Reading what has been written -/

lemma fields_of_pathEnd {name : List Char} (hlast : (pathEnd path).last = some name)
    (hslash : (pathEnd path).slash = false) :
    Text.fields '/' path.toList = (pathEnd path).front ++ [name] ∧ name ≠ [] := by
  unfold pathEnd at hlast hslash ⊢
  simp only at hlast hslash ⊢
  cases hall : (Text.fields '/' path.toList).reverse with
  | nil => simp [hall] at hlast
  | cons p ps =>
    rw [hall] at hlast hslash
    simp only [List.head?_cons, Option.any_some] at hslash
    rw [List.dropWhile_cons_of_neg (by simp [hslash])] at hlast ⊢
    obtain rfl := Option.some.inj hlast
    constructor
    · rw [List.tail_cons, ← List.reverse_cons, ← hall, List.reverse_reverse]
    · simpa using hslash

lemma resolve_of_target? (h : d.target? path = some place) :
    d.resolve path = .ok place ∧ mustBeFolder path = false := by
  obtain ⟨name, q, hcheck, hlast, hslash, hdot, hdots, hq, hplace, -⟩ := exists_of_target? h
  obtain ⟨hfields, hne⟩ := fields_of_pathEnd hlast hslash
  constructor
  · unfold resolve
    rw [hcheck, hfields]
    show d.walk (d.start path) ((pathEnd path).front ++ [name]) = .ok place
    rw [walk_append, (walk_of_folderAt hq).1]
    exact hplace
  · unfold mustBeFolder
    rw [hfields, List.getLast?_concat]
    simp [hne, hdot, hdots]

/-- **What is written to a path is read there.** -/
theorem find_of_write {mode : WriteMode} {bytes : Text.Bytes}
    (h : d.write path mode bytes = .ok d') :
    d'.find path = .ok (.file (written (content (d.find path).toOption) mode bytes)) := by
  have hwrite := write_eq d path mode bytes
  rw [h] at hwrite
  obtain ⟨place, htarget, hd⟩ := Option.map_eq_some_iff.mp hwrite.symm
  obtain ⟨hresolve, hfile⟩ := resolve_of_target? htarget
  have hfolder := no_folder_of_target? htarget
  have hold : content (d.find path).toOption = content (d.node? place) := by
    unfold find
    rw [hresolve]
    simp only [bind, Except.bind, hfile]
    rcases hn : d.node? place with _ | _ | _
    · rfl
    · rfl
    · exact absurd hn hfolder
  have hresolve' : d'.resolve path = .ok place :=
    hd ▸ resolve_of_alike (alike_put hfolder _) hresolve
  have hnode : d'.node? place = some (.file (written (content (d.node? place)) mode bytes)) := by
    rw [← hd, node?_put d (isEmpty_of_no_folder hfolder), if_pos rfl]
  rw [hold]
  unfold find
  rw [hresolve']
  simp only [bind, Except.bind, hnode, hfile]
  rfl

end FleetScript.Disk
