import FleetScript.Proofs.Scopes.Lookup
import Mathlib.Data.List.Induction

/-!
Variables by their history. Scopes come about by changes of three kinds; what a scope says of a
variable can be told from the list of changes alone: the last define holds for all hosts, and a
host has the value that was last set for it with all values appended since. `Reflects` says that
scopes say just this, and every operation on scopes keeps it.
-/

namespace FleetScript

/-- A change to variables: one is defined for all hosts, or set for one host, or gets one more
value there. -/
inductive Change where
  | define (key value : String)
  | set (hostname key value : String)
  | append (hostname key value : String)
  deriving DecidableEq

namespace Change

/-- The value that a change gives a variable for all hosts. -/
def defined? (key : String) : Change → Option String
  | define k v => if k = key then some v else none
  | _ => none

/-- The value that a change sets a variable of a host to. -/
def set? (hostname key : String) : Change → Option String
  | set h k v => if h = hostname ∧ k = key then some v else none
  | _ => none

/-- The value that a change puts at the end of a variable of a host. -/
def appended? (hostname key : String) : Change → Option String
  | append h k v => if h = hostname ∧ k = key then some v else none
  | _ => none

/-- Whether a host may see a change. -/
def concerns (hostname : String) : Change → Bool
  | define _ _ => true
  | set h _ _ => h = hostname
  | append h _ _ => h = hostname

def lastDefined? (cs : List Change) (key : String) : Option String :=
  (cs.filterMap (·.defined? key)).getLast?

/-- The changes after the last one that sets a variable of a host. -/
def sinceSet (cs : List Change) (hostname key : String) : List Change :=
  (cs.reverse.takeWhile fun c => (c.set? hostname key).isNone).reverse

/-- The values that a host has got for a variable: the one last set, and those appended since. -/
def values (cs : List Change) (hostname key : String) : List String :=
  (cs.filterMap (·.set? hostname key)).getLast?.toList ++
    (sinceSet cs hostname key).filterMap (·.appended? hostname key)

/-- The values that a host has got for a variable, if it has got any. -/
def given? (cs : List Change) (hostname key : String) : Option (List String) :=
  if (values cs hostname key).isEmpty then none else some (values cs hostname key)

/-! ### One more change -/

variable {cs : List Change} {c : Change} {hostname key : String}

lemma lastDefined?_concat :
    lastDefined? (cs ++ [c]) key = (c.defined? key).or (lastDefined? cs key) := by
  unfold lastDefined?
  rw [List.filterMap_append]
  cases h : c.defined? key <;> simp [h]

lemma getD_given? : (given? cs hostname key).getD [] = values cs hostname key := by
  unfold given?
  split
  · next h => exact (List.isEmpty_iff.mp h).symm
  · rfl

/-- A change sets a variable, which makes the values before it forgotten, or appends to it, or
leaves it as it is. -/
theorem given?_concat (cs : List Change) (c : Change) (hostname key : String) :
    given? (cs ++ [c]) hostname key = match c.set? hostname key, c.appended? hostname key with
      | some value, _ => some [value]
      | none, some value => some ((given? cs hostname key).getD [] ++ [value])
      | none, none => given? cs hostname key := by
  cases hs : c.set? hostname key with
  | some value => simp [given?, values, sinceSet, hs]
  | none =>
    cases ha : c.appended? hostname key with
    | some value =>
      have hvalues : values (cs ++ [c]) hostname key = values cs hostname key ++ [value] := by
        simp [values, sinceSet, hs, ha]
      rw [getD_given?, given?, hvalues]
      simp
    | none => simp [given?, values, sinceSet, hs, ha]

/-- A host sees no changes but those that concern it. -/
lemma eq_none_of_not_concerns (key : String) (h : c.concerns hostname = false) :
    c.defined? key = none ∧ c.set? hostname key = none ∧ c.appended? hostname key = none := by
  cases c with
  | define k v => cases h
  | set g k v => simp_all [concerns, defined?, set?, appended?]
  | append g k v => simp_all [concerns, defined?, set?, appended?]

lemma given?_filter_concerns (cs : List Change) (hostname key : String) :
    given? (cs.filter (·.concerns hostname)) hostname key = given? cs hostname key := by
  induction cs using List.reverseRecOn with
  | nil => rfl
  | append_singleton cs c ih =>
    rw [List.filter_append, given?_concat]
    cases hc : c.concerns hostname with
    | true => rw [List.filter_cons_of_pos hc, List.filter_nil, given?_concat, ih]
    | false =>
      obtain ⟨-, hs, ha⟩ := eq_none_of_not_concerns key hc
      rw [List.filter_cons_of_neg (by simp [hc]), List.filter_nil, List.append_nil, ih, hs, ha]

lemma lastDefined?_filter_concerns (cs : List Change) (hostname key : String) :
    lastDefined? (cs.filter (·.concerns hostname)) key = lastDefined? cs key := by
  induction cs using List.reverseRecOn with
  | nil => rfl
  | append_singleton cs c ih =>
    rw [List.filter_append, lastDefined?_concat]
    cases hc : c.concerns hostname with
    | true => rw [List.filter_cons_of_pos hc, List.filter_nil, lastDefined?_concat, ih]
    | false =>
      rw [List.filter_cons_of_neg (by simp [hc]), List.filter_nil, List.append_nil, ih,
        (eq_none_of_not_concerns key hc).1]
      rfl

/-! ### Many changes at once -/

lemma lastDefined?_append_of_forall {ds : List Change} (h : ∀ c ∈ ds, c.defined? key = none) :
    lastDefined? (cs ++ ds) key = lastDefined? cs key := by
  induction ds using List.reverseRecOn with
  | nil => rw [List.append_nil]
  | append_singleton ds c ih =>
    rw [← List.append_assoc, lastDefined?_concat, h c (by simp), Option.none_or]
    exact ih fun d hd => h d (by simp [hd])

lemma given?_append_of_forall {ds : List Change}
    (h : ∀ c ∈ ds, c.set? hostname key = none ∧ c.appended? hostname key = none) :
    given? (cs ++ ds) hostname key = given? cs hostname key := by
  induction ds using List.reverseRecOn with
  | nil => rw [List.append_nil]
  | append_singleton ds c ih =>
    obtain ⟨hs, ha⟩ := h c (by simp)
    rw [← List.append_assoc, given?_concat, hs, ha]
    exact ih fun d hd => h d (by simp [hd])

lemma lastDefined?_append_defines (cs : List Change) (vars : List (String × String))
    (key : String) : lastDefined? (cs ++ vars.map fun p => .define p.1 p.2) key =
      (vars.reverse.lookup key).or (lastDefined? cs key) := by
  induction vars using List.reverseRecOn with
  | nil => simp
  | append_singleton vars p ih =>
    rw [List.map_append, ← List.append_assoc, List.map_singleton, lastDefined?_concat, ih,
      List.reverse_append, List.reverse_singleton, List.singleton_append, Bindings.lookup_cons_eq]
    by_cases hk : key = p.1
    · simp [defined?, hk]
    · simp [defined?, hk, Ne.symm hk]

lemma given?_append_sets (cs : List Change) (hostname : String) (vars : List (String × String))
    (h key : String) : given? (cs ++ vars.map fun p => .set hostname p.1 p.2) h key =
      if h = hostname then ((vars.reverse.lookup key).map fun v => [v]).or (given? cs h key)
      else given? cs h key := by
  induction vars using List.reverseRecOn with
  | nil => simp
  | append_singleton vars p ih =>
    rw [List.map_append, ← List.append_assoc, List.map_singleton, given?_concat, ih,
      List.reverse_append, List.reverse_singleton, List.singleton_append, Bindings.lookup_cons_eq]
    by_cases hh : h = hostname
    · by_cases hk : key = p.1
      · simp [set?, hh, hk]
      · simp [set?, appended?, hh, hk, Ne.symm hk]
    · simp [set?, appended?, hh, Ne.symm hh]

end Change

namespace Scopes

open Change

/-- What scopes say is what the changes say that they came about by. -/
structure Reflects (s : Scopes) (cs : List Change) : Prop where
  defines : ∀ key, s.globals.get? key = lastDefined? cs key
  values : ∀ hostname key, s.hostValues? hostname key = given? cs hostname key

variable {s : Scopes} {cs : List Change}

lemma reflects_empty : Reflects {} [] where
  defines := fun _ => rfl
  values := fun _ _ => rfl

lemma hostValues?_insert (s : Scopes) (hostname h k : String) (vars : Variables) :
    ({ s with overlays := s.overlays.insert hostname vars } : Scopes).hostValues? h k =
      if h = hostname then vars.get? k else s.hostValues? h k := by
  unfold hostValues? overlay?
  rw [Bindings.get?_insert]
  split <;> rfl

lemma hostValues?_append (s : Scopes) (hostname key value h k : String) :
    (s.append hostname key value).hostValues? h k =
      if h = hostname ∧ k = key then some ((s.hostValues? hostname key).getD [] ++ [value])
      else s.hostValues? h k := by
  unfold append
  rw [hostValues?_insert, Variables.get?_push, get?_overlay_getD, get?_overlay_getD]
  by_cases hh : h = hostname
  · subst hh
    by_cases hk : k = key <;> simp [hk]
  · simp [hh]

lemma hostValues?_defineHost (s : Scopes) (hostname : String) (vars : List (String × String))
    (h k : String) : (s.defineHost hostname vars).hostValues? h k =
      if h = hostname then ((vars.reverse.lookup k).map fun v => [v]).or (s.hostValues? h k)
      else s.hostValues? h k := by
  have hlookup : (vars.map fun p => (p.1, [p.2])).reverse.lookup k =
      (vars.reverse.lookup k).map fun v => [v] := by
    rw [← List.map_reverse]
    induction vars.reverse with
    | nil => rfl
    | cons p rest ih =>
      rw [List.map_cons, Bindings.lookup_cons_eq, Bindings.lookup_cons_eq, ih]
      split <;> rfl
  unfold defineHost
  rw [hostValues?_insert, Bindings.get?_insertAll, get?_overlay_getD, hlookup]
  by_cases hh : h = hostname
  · rw [hh]
  · rw [if_neg hh, if_neg hh]

lemma Reflects.define (h : Reflects s cs) (vars : List (String × String)) :
    Reflects (s.define vars) (cs ++ vars.map fun p => .define p.1 p.2) where
  defines k := by
    rw [lastDefined?_append_defines, ← h.defines]
    exact Bindings.get?_insertAll _ _ _
  values g k := by
    rw [given?_append_of_forall (List.forall_mem_map.mpr fun _ _ => ⟨rfl, rfl⟩)]
    exact h.values g k

lemma Reflects.defineHost (h : Reflects s cs) (hostname : String)
    (vars : List (String × String)) :
    Reflects (s.defineHost hostname vars) (cs ++ vars.map fun p => .set hostname p.1 p.2) where
  defines k := by
    rw [lastDefined?_append_of_forall (List.forall_mem_map.mpr fun _ _ => rfl)]
    exact h.defines k
  values g k := by
    rw [hostValues?_defineHost, given?_append_sets, h.values]

lemma Reflects.append (h : Reflects s cs) (hostname key value : String) :
    Reflects (s.append hostname key value) (cs ++ [.append hostname key value]) where
  defines k := by
    rw [lastDefined?_concat]
    exact h.defines k
  values g k := by
    rw [hostValues?_append, given?_concat, h.values, h.values]
    by_cases hk : g = hostname ∧ k = key
    · obtain ⟨rfl, rfl⟩ := hk
      simp [set?, appended?]
    · have hk' : ¬(hostname = g ∧ key = k) := fun ⟨h1, h2⟩ => hk ⟨h1.symm, h2.symm⟩
      simp [set?, appended?, hk, hk']

end Scopes

end FleetScript
