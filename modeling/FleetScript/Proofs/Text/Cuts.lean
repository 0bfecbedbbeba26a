import FleetScript.Text.Blank
import Mathlib.Data.List.TakeWhile
import Mathlib.Tactic.Lemma

/-!
How texts are cut. A cut at a separator is known by what it gives: the text before the separator,
which does not hold it, and the text after it.
-/

namespace FleetScript.Text

variable {sep : Char} {s a b : List Char}

/-! ### Cuts at a separator -/

lemma cut_append (h : sep ∉ a) (b : List Char) : cut sep (a ++ sep :: b) = some (a, b) := by
  induction a with
  | nil => simp [cut]
  | cons c a ih =>
    have hc : c ≠ sep := fun e => h (e ▸ List.mem_cons_self)
    rw [List.cons_append, cut, if_neg hc, ih fun hm => h (List.mem_cons_of_mem _ hm)]
    rfl

lemma cut_eq_none (h : sep ∉ s) : cut sep s = none := by
  induction s with
  | nil => rfl
  | cons c s ih =>
    have hc : c ≠ sep := fun e => h (e ▸ List.mem_cons_self)
    rw [cut, if_neg hc, ih fun hm => h (List.mem_cons_of_mem _ hm)]
    rfl

/-- A text either does not hold the separator, or stands around its first one. -/
lemma not_mem_or_eq_append (sep : Char) (s : List Char) :
    sep ∉ s ∨ ∃ a b, s = a ++ sep :: b ∧ sep ∉ a := by
  by_cases h : sep ∈ s
  · obtain ⟨a, b, hs, ha⟩ := List.eq_append_cons_of_mem h
    exact .inr ⟨a, b, hs, ha⟩
  · exact .inl h

/-! ### Fields -/

lemma fields_of_not_mem (h : sep ∉ s) : fields sep s = [s] := by
  induction s with
  | nil => rfl
  | cons c s ih =>
    have hc : c ≠ sep := fun e => h (e ▸ List.mem_cons_self)
    rw [fields, if_neg hc, ih fun hm => h (List.mem_cons_of_mem _ hm)]

lemma mem_of_mem_fields {f : List Char} {c : Char} (h : f ∈ fields sep s) (hc : c ∈ f) :
    c ∈ s := by
  induction s generalizing f with
  | nil =>
    obtain rfl := List.mem_singleton.mp h
    exact hc
  | cons d s ih =>
    rw [fields] at h
    split at h
    · rcases List.mem_cons.mp h with rfl | h
      · cases hc
      · exact List.mem_cons_of_mem d (ih h hc)
    · split at h
      · obtain rfl := List.mem_singleton.mp h
        exact List.mem_cons.mpr (.inl (List.mem_singleton.mp hc))
      · next first rest hfields =>
        rcases List.mem_cons.mp h with rfl | h
        · rcases List.mem_cons.mp hc with rfl | hc
          · exact List.mem_cons_self
          · exact List.mem_cons_of_mem d (ih (hfields ▸ List.mem_cons_self) hc)
        · exact List.mem_cons_of_mem d (ih (hfields ▸ List.mem_cons_of_mem first h) hc)

lemma not_mem_of_mem_fields {f : List Char} (h : f ∈ fields sep s) : sep ∉ f := by
  induction s generalizing f with
  | nil =>
    obtain rfl := List.mem_singleton.mp h
    exact List.not_mem_nil
  | cons d s ih =>
    rw [fields] at h
    split at h
    · rcases List.mem_cons.mp h with rfl | h
      · exact List.not_mem_nil
      · exact ih h
    next hd =>
    have hcons {f : List Char} (hf : sep ∉ f) : sep ∉ d :: f := fun hm =>
      (List.mem_cons.mp hm).elim (fun e => hd e.symm) hf
    split at h
    · obtain rfl := List.mem_singleton.mp h
      exact hcons List.not_mem_nil
    · next first rest hfields =>
      rcases List.mem_cons.mp h with rfl | h
      · exact hcons (ih (hfields ▸ List.mem_cons_self))
      · exact ih (hfields ▸ List.mem_cons_of_mem first h)

lemma fields_append_cons (sep : Char) (a b : List Char) :
    fields sep (a ++ sep :: b) = fields sep a ++ fields sep b := by
  induction a with
  | nil => simp [fields]
  | cons c a ih =>
    rw [List.cons_append, fields, fields, ih]
    split
    · rfl
    · cases h : fields sep a with
      | nil => exact absurd h (fields_ne_nil sep a)
      | cons f fs => rfl

/-- Texts joined with a separator that none of them holds are cut apart at it. -/
lemma fields_joinWith {l : List String} (h0 : l ≠ []) (h : ∀ s ∈ l, sep ∉ s.toList) :
    fields sep (joinWith (String.singleton sep) l).toList = l.map String.toList := by
  induction l with
  | nil => exact absurd rfl h0
  | cons s rest ih =>
    obtain ⟨hs, hrest⟩ := List.forall_mem_cons.mp h
    cases rest with
    | nil => exact fields_of_not_mem hs
    | cons s' rest =>
      have hjoin : (joinWith (String.singleton sep) (s :: s' :: rest)).toList =
          s.toList ++ sep :: (joinWith (String.singleton sep) (s' :: rest)).toList := by
        simp [joinWith]
      rw [hjoin, fields_append_cons, fields_of_not_mem hs, ih (List.cons_ne_nil _ _) hrest]
      rfl

/-! ### Texts within texts -/

lemma occurs_iff {part : List Char} : occurs part s = true ↔ part <:+: s := by
  induction s with
  | nil => simp [occurs]
  | cons c s ih =>
    rw [occurs, Bool.or_eq_true, ih, List.infix_cons_iff, List.isPrefixOf_iff_prefix]

lemma occurs_eq_false_iff {part : List Char} : occurs part s = false ↔ ¬part <:+: s := by
  rw [← occurs_iff, Bool.not_eq_true]

/-! ### Runs of a class of characters -/

lemma span_append {p : Char → Bool} (ha : ∀ c ∈ a, p c = true)
    (hb : ∀ c ∈ b.head?, p c = false) : (a ++ b).takeWhile p = a ∧ (a ++ b).dropWhile p = b := by
  rw [List.takeWhile_append_of_pos ha, List.dropWhile_append_of_pos ha]
  cases b with
  | nil => simp
  | cons c b => simp [hb c rfl]

lemma head?_dropWhile (p : Char → Bool) (s : List Char) :
    ∀ c ∈ (s.dropWhile p).head?, p c = false := by
  intro c hc
  have := List.head?_dropWhile_not p s
  rwa [hc] at this

/-! ### White space at the ends -/

lemma isBlank_of_visible {c : Char} (hlo : 0x20 < c.toNat) (hhi : c.toNat < 0x7F) :
    isBlank c = false := by
  simp only [isBlank, Bool.or_eq_false_iff, Bool.and_eq_false_iff, decide_eq_false_iff_not]
  omega

lemma exists_append_trimChars (s : List Char) :
    ∃ a b, s = a ++ trimChars s ++ b ∧ (∀ c ∈ a, isBlank c = true) ∧ ∀ c ∈ b, isBlank c = true := by
  refine ⟨s.takeWhile isBlank, ((s.dropWhile isBlank).reverse.takeWhile isBlank).reverse, ?_,
    fun c => List.mem_takeWhile_imp, fun c hc => List.mem_takeWhile_imp (List.mem_reverse.mp hc)⟩
  unfold trimChars trimEndChars trimStartChars
  rw [List.append_assoc, ← List.reverse_append, List.takeWhile_append_dropWhile,
    List.reverse_reverse, List.takeWhile_append_dropWhile]

end FleetScript.Text
