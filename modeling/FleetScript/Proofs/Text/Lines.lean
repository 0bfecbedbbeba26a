import FleetScript.Proofs.Text.Cuts
import Mathlib.Data.List.Basic

/-!
Lines, and texts without the white space around them. Trimming is told by what it leaves
(`Trimmed`), and the first line of a text by what stands before the first newline.
-/

namespace FleetScript.Text

variable {s t a b : List Char}

/-! ### Lines -/

/-- A character that ends no line stands before all others of the first line. -/
lemma lines_cons {c : Char} (hc : c ≠ '\n') (hcr : c = '\r' → s.head? ≠ some '\n') :
    lines (c :: s) = (c :: (lines s).headD []) :: (lines s).tail := by
  rw [lines]
  · cases lines s <;> rfl
  · exact hc
  · rintro rest rfl rfl
    exact hcr rfl rfl

/-- A text without newlines stands before all others of the first line. -/
lemma lines_append (h0 : s ≠ []) (h : '\n' ∉ s)
    (hcr : s.getLast? = some '\r' → t.head? ≠ some '\n') :
    lines (s ++ t) = (s ++ (lines t).headD []) :: (lines t).tail := by
  induction s with
  | nil => exact absurd rfl h0
  | cons c s ih =>
    obtain ⟨hc, hs⟩ := not_or.mp (List.mem_cons.not.mp h)
    by_cases hnil : s = []
    · subst hnil
      exact lines_cons (Ne.symm hc) fun e => hcr (e ▸ rfl)
    · have hhead : (s ++ t).head? ≠ some '\n' := fun hn => by
        rw [List.head?_append_of_ne_nil s hnil] at hn
        exact hs (List.mem_of_mem_head? hn)
      rw [List.getLast?_cons_of_ne_nil hnil] at hcr
      rw [List.cons_append, lines_cons (Ne.symm hc) fun _ => hhead, ih hnil hs hcr]
      rfl

/-! ### White space at the ends -/

/-- Whether a text has no white space at its ends. -/
structure Visible (t : List Char) : Prop where
  start : ∀ c ∈ t.head?, isBlank c = false
  stop : ∀ c ∈ t.getLast?, isBlank c = false

/-- Whether a text has no white space at its ends can be looked up there. -/
instance (t : List Char) : Decidable (Visible t) :=
  decidable_of_iff ((!t.head?.any isBlank && !t.getLast?.any isBlank) = true) <| by
    have hany {o : Option Char} : (!o.any isBlank) = true ↔ ∀ c ∈ o, isBlank c = false := by
      cases o <;> simp
    rw [Bool.and_eq_true, hany, hany]
    exact ⟨fun h => ⟨h.1, h.2⟩, fun h => ⟨h.start, h.stop⟩⟩

/-- `t` is `s` without the white space at the ends. -/
def Trimmed (s t : List Char) : Prop :=
  Visible t ∧ ∃ a b, s = a ++ t ++ b ∧ (∀ c ∈ a, isBlank c = true) ∧ ∀ c ∈ b, isBlank c = true

lemma dropWhile_of_visible (h : ∀ c ∈ t.head?, isBlank c = false) : t.dropWhile isBlank = t := by
  cases t with
  | nil => rfl
  | cons c t => simp [h c rfl]

/-- White space before a text with something visible in front does not count. -/
lemma trimStartChars_append (ha : ∀ c ∈ a, isBlank c = true)
    (ht : ∀ c ∈ t.head?, isBlank c = false) : trimStartChars (a ++ t) = t := by
  unfold trimStartChars
  rw [List.dropWhile_append_of_pos ha, dropWhile_of_visible ht]

lemma visible_trimChars (s : List Char) : Visible (trimChars s) := by
  have hstart := head?_dropWhile isBlank s
  unfold trimChars trimEndChars trimStartChars
  generalize s.dropWhile isBlank = t at hstart ⊢
  constructor
  · intro c hc
    obtain ⟨u, hu⟩ := List.dropWhile_suffix (l := t.reverse) isBlank
    have ht : t = (t.reverse.dropWhile isBlank).reverse ++ u.reverse := by
      rw [← List.reverse_append, hu, List.reverse_reverse]
    refine hstart c ?_
    rw [ht, List.head?_append, hc]
    rfl
  · intro c hc
    rw [List.getLast?_reverse] at hc
    exact head?_dropWhile isBlank t.reverse c hc

lemma trimmed_trimChars (s : List Char) : Trimmed s (trimChars s) :=
  ⟨visible_trimChars s, exists_append_trimChars s⟩

/-- Trimming leaves the one text without white space at its ends that has only white space around
it. -/
lemma trimChars_eq_iff : trimChars s = t ↔ Trimmed s t := by
  constructor
  · rintro rfl
    exact trimmed_trimChars s
  · rintro ⟨ht, a, b, rfl, ha, hb⟩
    have hend {t : List Char} (ht : ∀ c ∈ t.getLast?, isBlank c = false) :
        trimEndChars (t ++ b) = t := by
      have hstart := trimStartChars_append (a := b.reverse) (t := t.reverse) (by simpa using hb)
        (by simpa using ht)
      unfold trimStartChars at hstart
      rw [trimEndChars, List.reverse_append, hstart, List.reverse_reverse]
    unfold trimChars
    cases t with
    | nil =>
      have hall : trimStartChars ([] ++ b) = [] := List.dropWhile_eq_nil_iff.mpr hb
      rw [List.append_assoc, trimStartChars, List.dropWhile_append_of_pos ha]
      exact congrArg trimEndChars hall
    | cons c t =>
      rw [List.append_assoc, trimStartChars_append ha (by simpa using ht.start), hend ht.stop]

lemma trimChars_of_visible (h : Visible s) : trimChars s = s :=
  trimChars_eq_iff.mpr ⟨h, [], [], by simp, nofun, nofun⟩

end FleetScript.Text
