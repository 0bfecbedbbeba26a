import FleetScript.Proofs.Path.Names

/-!
Paths with another extension. They differ from the path in the name alone, which keeps its stem: the
fields before the name stay, so both paths name something in the same folder.
-/

namespace FleetScript.Path

open Text

variable {path extension : String} {name : List Char} {front : List (List Char)}

/-! ### Fields put together -/

lemma fields_ofFields {fs : List (List Char)} (h0 : fs ≠ []) (h : ∀ f ∈ fs, '/' ∉ f) :
    fields '/' (ofFields fs).toList = fs := by
  have hjoin : fields '/' (ofFields fs).toList = (fs.map String.ofList).map String.toList :=
    fields_joinWith (by simpa using h0) (by simpa using h)
  rw [List.map_map] at hjoin
  refine hjoin.trans (List.map_id'' (fun f => ?_) fs)
  exact String.toList_ofList

/-- Whether a path starts at the root can be told from its fields before the last, if that is not
empty. -/
lemma isAbsolute_iff_of_fields (h : fields '/' path.toList = front ++ [name]) (h0 : name ≠ []) :
    isAbsolute path ↔ front.head? = some [] := by
  unfold isAbsolute
  cases hp : path.toList with
  | nil =>
    rw [hp] at h
    obtain _ | ⟨f, front⟩ := front
    · exact absurd (List.cons.inj h).1.symm h0
    · simp [fields] at h
  | cons c cs =>
    rw [hp, fields] at h
    split at h
    · next hc =>
      obtain _ | ⟨f, front⟩ := front
      · exact absurd (List.cons.inj h).1.symm h0
      · simp [hc, (List.cons.inj h).1.symm]
    · next hc =>
      have hhead : ∃ f rest, front ++ [name] = (c :: f) :: rest := by
        split at h
        · exact ⟨_, _, h.symm⟩
        · exact ⟨_, _, h.symm⟩
      obtain ⟨f, rest, hfr⟩ := hhead
      obtain _ | ⟨g, front⟩ := front
      · simp [hc]
      · simp [hc, (List.cons.inj hfr).1]

/-! ### Names and stems -/

lemma exists_of_stem (name : List Char) : ∃ rest, name = stem name ++ rest := by
  unfold stem
  split
  · next x front hcut =>
    split
    · exact ⟨[], (List.append_nil _).symm⟩
    · refine ⟨'.' :: x.reverse, ?_⟩
      have hname := congrArg List.reverse (eq_append_of_cut hcut)
      simpa using hname
  · exact ⟨[], (List.append_nil _).symm⟩

lemma stem_append {base ext : List Char} (h0 : base ≠ []) (hext : '.' ∉ ext) :
    stem (base ++ '.' :: ext) = base := by
  unfold stem
  have hcut : cut '.' (base ++ '.' :: ext).reverse = some (ext.reverse, base.reverse) := by
    rw [List.reverse_append, List.reverse_cons, List.append_assoc, List.singleton_append]
    exact cut_append (by simpa using hext) _
  rw [hcut]
  simp [h0]

/-- An extension of two parts makes another name of every name. -/
lemma stem_append_ne (name : List Char) {inner ext : List Char}
    (h : extension.toList = inner ++ '.' :: ext) (hext : '.' ∉ ext) :
    stem name ++ '.' :: extension.toList ≠ name := by
  rw [h]
  intro heq
  have hname : (stem name ++ '.' :: inner) ++ '.' :: ext = name := by simpa using heq
  have hstem : stem name = stem name ++ '.' :: inner := by
    rw [← stem_append (List.append_ne_nil_of_right_ne_nil _ (List.cons_ne_nil _ _)) hext, hname]
  simpa using congrArg List.length hstem

/-! ### The path with another extension -/

lemma getLast?_filter (fs : List (List Char)) :
    (fs.filter fun p => p ≠ [] ∧ p ≠ ['.']).getLast? = fs.reverse.find? (!isEmptyPart ·) := by
  rw [← List.head?_reverse, ← List.filter_reverse, List.head?_filter]
  congr 1
  funext p
  simp [isEmptyPart]

/-- The last part is the last field that is neither empty nor a dot, or else the dot that the path
starts with. -/
lemma getLast?_partsOf (all : List (List Char)) :
    (partsOf all).getLast? = all.reverse.find? (!isEmptyPart ·) ∨
      (partsOf all).getLast? = some ['.'] ∧ all.reverse.find? (!isEmptyPart ·) = none := by
  unfold partsOf
  split
  · next rest =>
    rw [List.getLast?_cons, List.reverse_cons, List.find?_append, getLast?_filter]
    cases rest.reverse.find? (!isEmptyPart ·) with
    | none => exact .inr ⟨rfl, rfl⟩
    | some p => exact .inl rfl
  · exact .inl (getLast?_filter _)

/-- The last field that is neither empty nor a dot is the name, if it is not two dots. -/
lemma fileName?_eq (path : String) : fileName? path =
    ((fields '/' path.toList).reverse.find? (!isEmptyPart ·)).filter (· ≠ ['.', '.']) := by
  unfold fileName?
  rw [parts_eq]
  rcases getLast?_partsOf (fields '/' path.toList) with h | ⟨h, hnone⟩
  · rw [h]
    cases hfind : (fields '/' path.toList).reverse.find? (!isEmptyPart ·) with
    | none => rfl
    | some p =>
      have hdot : p ≠ ['.'] := by
        rintro rfl
        exact absurd (List.find?_some hfind) (by decide)
      by_cases hdots : p = ['.', '.'] <;> simp [hdot, hdots, Option.filter]
  · rw [h, hnone]
    rfl

lemma fileName?_of_fields (h : fields '/' path.toList = front ++ [name]) (h0 : name ≠ [])
    (hdot : name ≠ ['.']) (hdots : name ≠ ['.', '.']) : fileName? path = some name := by
  rw [fileName?_eq, h]
  simp [isEmptyPart, h0, hdot, hdots]

/-- The name of a path is the last of its fields that is neither empty nor a dot. -/
lemma exists_fields_of_fileName? (h : fileName? path = some name) : ∃ front passed,
    fields '/' path.toList = front ++ name :: passed ∧ (∀ p ∈ passed, isEmptyPart p = true) ∧
      isEmptyPart name = false := by
  rw [fileName?_eq, Option.filter_eq_some_iff] at h
  obtain ⟨hname, as, bs, hfields, has⟩ := List.find?_eq_some_iff_append.mp h.1
  refine ⟨bs.reverse, as.reverse, ?_, by simpa using has, by simpa using hname⟩
  simpa using congrArg List.reverse hfields

theorem fields_withExtension {passed : List (List Char)} (hext : '/' ∉ extension.toList)
    (h : fileName? path = some name) (hfields : fields '/' path.toList = front ++ name :: passed)
    (hpassed : ∀ p ∈ passed, isEmptyPart p = true) (hname : isEmptyPart name = false) :
    fields '/' (withExtension path extension).toList =
      front ++ [stem name ++ '.' :: extension.toList] := by
  -- from behind, the parts that name nothing are passed over up to the name
  have hcut : (fields '/' path.toList).reverse.dropWhile isEmptyPart = name :: front.reverse := by
    rw [hfields, List.reverse_append, List.reverse_cons, List.append_assoc,
      List.dropWhile_append_of_pos fun p hp => hpassed p (List.mem_reverse.mp hp),
      List.singleton_append, List.dropWhile_cons_of_neg (by simp [hname])]
  have hslash : ∀ f ∈ front ++ name :: passed, '/' ∉ f := fun f hf =>
    not_mem_of_mem_fields (hfields ▸ hf)
  have hstem : '/' ∉ stem name := by
    obtain ⟨rest, hrest⟩ := exists_of_stem name
    intro hm
    refine hslash name (List.mem_append_right _ List.mem_cons_self) ?_
    rw [hrest]
    exact List.mem_append_left _ hm
  unfold withExtension
  rw [h]
  dsimp only
  rw [hcut, List.tail_cons, List.reverse_reverse, fields_ofFields (by simp)]
  intro f hf
  rcases List.mem_append.mp hf with hf | hf
  · exact hslash f (List.mem_append_left _ hf)
  · obtain rfl := List.mem_singleton.mp hf
    simp [hstem, hext]

/-- **An extension of two parts makes another path of every path with a name.** -/
theorem withExtension_ne {inner ext : List Char} (hext : extension.toList = inner ++ '.' :: ext)
    (hdot : '.' ∉ ext) (hslash : '/' ∉ extension.toList) (h : fileName? path = some name) :
    withExtension path extension ≠ path := by
  obtain ⟨front, passed, hfields, hpassed, hfull⟩ := exists_fields_of_fileName? h
  have hother := fields_withExtension hslash h hfields hpassed hfull
  intro he
  rw [he, hfields] at hother
  obtain ⟨rfl, hname⟩ : passed = [] ∧ name = stem name ++ '.' :: extension.toList := by
    have hlen := congrArg List.length hother
    have hnil : passed = [] := by simpa using hlen
    subst hnil
    exact ⟨rfl, by simpa using hother⟩
  exact stem_append_ne name hext hdot hname.symm

end FleetScript.Path
