import FleetScript.Variables
import Mathlib.Tactic.Lemma

/-!
Variables of a host by lookup: each scope in its turn answers for a name, or leaves it to the
scope below.
-/

namespace FleetScript

namespace Bindings

variable {α : Type}

lemma lookup_eq_none_iff {l : List (String × α)} {k : String} :
    l.lookup k = none ↔ k ∉ l.map (·.1) := by
  simp only [List.lookup_eq_none_iff, List.mem_map, not_exists, not_and, bne_iff_ne]
  exact ⟨fun h p hp e => h p hp e.symm, fun h p hp e => h p hp e.symm⟩

lemma mem_keys_iff {m : Bindings α} {k : String} : k ∈ m.keys ↔ (m.get? k).isSome = true := by
  rw [Option.isSome_iff_ne_none, get?, ne_eq, lookup_eq_none_iff, Decidable.not_not, keys]

lemma lookup_reverse {l : List (String × α)} (h : l.Pairwise fun a b => a.1 < b.1) (k : String) :
    l.reverse.lookup k = l.lookup k := by
  induction l with
  | nil => rfl
  | cons p rest ih =>
    obtain ⟨hp, hrest⟩ := List.pairwise_cons.mp h
    rw [List.reverse_cons, List.lookup_append, ih hrest, lookup_cons_eq, lookup_cons_eq]
    by_cases hk : k = p.1
    · rw [if_pos hk, if_pos hk, hk, lookup_eq_none_of_lt hp]
      rfl
    · rw [if_neg hk, if_neg hk]
      exact Option.or_none

lemma get?_ofList (l : List (String × α)) (k : String) :
    (ofList l).get? k = l.reverse.lookup k := by
  unfold ofList
  rw [get?_insertAll]
  exact Option.or_none

lemma mem_keys_ofList {l : List (String × α)} {k : String} :
    k ∈ (ofList l).keys ↔ k ∈ l.map (·.1) := by
  rw [mem_keys_iff, get?_ofList, Option.isSome_iff_ne_none, ne_eq, lookup_eq_none_iff,
    Decidable.not_not, List.map_reverse, List.mem_reverse]

lemma ofList_pairs (m : Bindings α) : ofList m.pairs = m := by
  refine ext_get? fun k => ?_
  rw [get?_ofList, lookup_reverse m.increasing]
  rfl

@[simp] theorem get?_override (low high : Bindings α) (k : String) :
    (low.override high).get? k = (high.get? k).or (low.get? k) := by
  unfold override
  rw [get?_insertAll, lookup_reverse high.increasing]
  rfl

end Bindings

namespace Variables

theorem get?_reserve (vars : Variables) (r : Reserved) (k : String) :
    (vars.reserve r).get? k =
      if k = filenameKey then some [r.filename]
      else if k = runnerKey then some [r.runner]
      else if k = parentKey then some [r.parent]
      else vars.get? k := by
  unfold reserve
  simp only [Bindings.get?_insert]
  by_cases h1 : k = filenameKey
  · subst h1
    rfl
  by_cases h2 : k = runnerKey
  · subst h2
    rfl
  · simp [h1, h2]

lemma reserve_reserve (vars : Variables) (r : Reserved) :
    (vars.reserve r).reserve r = vars.reserve r := by
  refine Bindings.ext_get? fun k => ?_
  rw [get?_reserve, get?_reserve]
  split
  · rfl
  split
  · rfl
  split <;> rfl

end Variables

namespace Scopes

/-- The values that a host has been given for a variable. -/
def hostValues? (s : Scopes) (hostname key : String) : Option (List String) :=
  (s.overlay? hostname).bind (·.get? key)

lemma get?_overlay_getD (s : Scopes) (hostname key : String) :
    ((s.overlay? hostname).getD ∅).get? key = s.hostValues? hostname key := by
  unfold hostValues?
  cases s.overlay? hostname <;> rfl

/-- The name of the host, then the query, then the values given to the host, then the defines. -/
theorem get?_merge (s : Scopes) (hostname : String) (query : Variables) (domain key : String) :
    (s.merge hostname query domain).get? key =
      if key = Variables.hostnameKey then some [qualify hostname domain]
      else (query.get? key).or <| (s.hostValues? hostname key).or <|
        (s.globals.get? key).map fun v => [v] := by
  unfold merge
  rw [Bindings.get?_insert, Bindings.get?_override, Bindings.get?_override, Bindings.get?_map,
    get?_overlay_getD]

end Scopes

end FleetScript
