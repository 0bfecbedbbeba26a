import FleetScript.Path
import FleetScript.Proofs.Text.Cuts

/-!
Names in folders. Joining a name to a folder gives a path with the parts of the folder and one more:
nothing in the name adds a level, leads out of the folder or replaces it, as long as the name holds
no slash and is neither empty nor made of one dot or two.
-/

namespace FleetScript.Path

open Text

variable {folder name : String}

/-! ### Fields -/

/-- What stands before the name in the fields of a path that joins it to a folder: the fields of the
folder, without the empty one behind a slash at its end. An empty folder has none. -/
inductive FieldsBefore (folder : String) (front : List (List Char)) : Prop where
  | empty (h : folder = "") (hf : front = [])
  | slash (h : fields '/' folder.toList = front ++ [[]]) (h0 : front ≠ [])
  | plain (h : fields '/' folder.toList = front)

lemma exists_fieldsBefore (folder : String) : ∃ front, FieldsBefore folder front ∧
    ∀ name : String, '/' ∉ name.toList →
      fields '/' (join folder name).toList = front ++ [name.toList] := by
  have hhead : ∀ {name : String}, '/' ∉ name.toList → name.toList.head? ≠ some '/' :=
    fun h e => h (List.mem_of_mem_head? e)
  by_cases h0 : folder = ""
  · refine ⟨[], .empty h0 rfl, fun name h => ?_⟩
    unfold join
    rw [if_neg (hhead h), if_pos (by simp [h0]), h0, fields_of_not_mem (by simpa using h)]
    simp
  have hne : folder.isEmpty = false := by simpa using h0
  by_cases hlast : folder.toList.getLast? = some '/'
  · obtain ⟨a, ha⟩ := List.getLast?_eq_some_iff.mp hlast
    refine ⟨fields '/' a, .slash ?_ (fields_ne_nil _ _), fun name h => ?_⟩
    · rw [ha, fields_append_cons]
      rfl
    · unfold join
      rw [if_neg (hhead h), if_pos (by simp [hlast]), String.toList_append, ha, List.append_assoc,
        List.singleton_append, fields_append_cons, fields_of_not_mem h]
  · refine ⟨fields '/' folder.toList, .plain rfl, fun name h => ?_⟩
    unfold join
    rw [if_neg (hhead h), if_neg (by simp [hne, hlast]), String.toList_append,
      String.toList_append, List.append_assoc]
    show fields '/' (folder.toList ++ '/' :: name.toList) = _
    rw [fields_append_cons, fields_of_not_mem h]

/-! ### Parts -/

def partsOf (all : List (List Char)) : List (List Char) :=
  match all with
  | ['.'] :: rest => ['.'] :: rest.filter fun p => p ≠ [] ∧ p ≠ ['.']
  | _ => all.filter fun p => p ≠ [] ∧ p ≠ ['.']

lemma parts_eq (path : String) : parts path = partsOf (fields '/' path.toList) := rfl

lemma partsOf_cons {p : List Char} (hp : p ≠ ['.']) (ps : List (List Char)) :
    partsOf (p :: ps) = (p :: ps).filter fun p => p ≠ [] ∧ p ≠ ['.'] := by
  unfold partsOf
  split
  · next heq => exact absurd (List.cons.inj heq).1 hp
  · rfl

lemma partsOf_append {front : List (List Char)} (h0 : front ≠ []) (rest : List (List Char)) :
    partsOf (front ++ rest) = partsOf front ++ rest.filter fun p => p ≠ [] ∧ p ≠ ['.'] := by
  obtain ⟨p, ps, rfl⟩ := List.exists_cons_of_ne_nil h0
  by_cases hp : p = ['.']
  · subst hp
    simp [partsOf]
  · rw [List.cons_append, partsOf_cons hp, partsOf_cons hp, ← List.cons_append, List.filter_append]

variable (folder) in
/-- **A name joined to a folder adds one part.** -/
theorem parts_join (hslash : '/' ∉ name.toList) (h0 : name ≠ "") (hdot : name ≠ ".") :
    parts (join folder name) = parts folder ++ [name.toList] := by
  have hnil : name.toList ≠ [] := fun e => h0 (String.toList_eq_nil_iff.mp e)
  have hone : name.toList ≠ ['.'] := fun e => hdot (String.toList_inj.mp e)
  have hkept : [name.toList].filter (fun p => p ≠ [] ∧ p ≠ ['.']) = [name.toList] := by
    simp [hnil, hone]
  obtain ⟨front, hfront, hfields⟩ := exists_fieldsBefore folder
  rw [parts_eq, parts_eq, hfields name hslash]
  cases hfront with
  | empty h hf =>
    rw [hf, h, List.nil_append, partsOf_cons hone, hkept]
    rfl
  | slash h hne =>
    rw [h, partsOf_append hne, partsOf_append hne, hkept]
    simp
  | plain h => rw [h, partsOf_append (h ▸ fields_ne_nil _ _), hkept]

variable (folder) in
lemma isAbsolute_join (hslash : '/' ∉ name.toList) :
    isAbsolute (join folder name) = isAbsolute folder := by
  have hhead : name.toList.head? ≠ some '/' := fun e => hslash (List.mem_of_mem_head? e)
  unfold isAbsolute join
  rw [if_neg hhead]
  cases hf : folder.toList with
  | nil =>
    obtain rfl := String.toList_eq_nil_iff.mp hf
    simpa using hhead
  | cons c cs => split <;> simp [String.toList_append, hf]

/-! ### Lying in a folder -/

/-- The path lies in the folder itself, under a name: it starts where the folder does, and has the
parts of the folder and the name, which is neither a dot nor two. -/
structure LiesIn (folder name path : String) : Prop where
  absolute : isAbsolute path = isAbsolute folder
  parts : parts path = parts folder ++ [name.toList]
  fileName : fileName? path = some name.toList

theorem liesIn_join (hslash : '/' ∉ name.toList) (h0 : name ≠ "") (hdot : name ≠ ".")
    (hdots : name ≠ "..") : LiesIn folder name (join folder name) := by
  have hparts := parts_join folder hslash h0 hdot
  refine ⟨isAbsolute_join folder hslash, hparts, ?_⟩
  have hone : name.toList ≠ ['.'] := fun e => hdot (String.toList_inj.mp e)
  have htwo : name.toList ≠ ['.', '.'] := fun e => hdots (String.toList_inj.mp e)
  unfold fileName?
  rw [hparts, List.getLast?_concat]
  simp [hone, htwo]

/-- A path lies in a folder under one name. -/
lemma LiesIn.name_inj {name' path path' : String} (h : LiesIn folder name path)
    (h' : LiesIn folder name' path') (heq : Path.parts path = Path.parts path') : name = name' := by
  rw [h.parts, h'.parts] at heq
  have hlast := List.append_cancel_left heq
  exact String.toList_inj.mp (by simpa using hlast)

end FleetScript.Path
