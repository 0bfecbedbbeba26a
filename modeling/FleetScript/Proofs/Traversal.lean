import Mathlib.Data.List.Forall2
import Mathlib.Tactic.Lemma

/-!
Computations that may fail: what their parts give if they do not, lists taken element by element up
to the first failure, and what the last element adds to a list that is read off another.
-/

namespace FleetScript

variable {α β ε : Type} {f : α → Except ε β}

lemma exists_of_bind {x : Except ε α} {b : β} (h : x >>= f = .ok b) :
    ∃ a, x = .ok a ∧ f a = .ok b := by
  cases x with
  | error e => cases h
  | ok a => exact ⟨a, rfl, h⟩

lemma eq_ok_of_mapError {ε' : Type} {x : Except ε α} {g : ε → ε'} {a : α}
    (h : x.mapError g = .ok a) : x = .ok a := by
  cases x with
  | error e => cases h
  | ok b => exact congrArg Except.ok (Except.ok.inj h)

lemma mapM_cons_ok {x : α} {xs : List α} {y : β} (h : f x = .ok y) :
    (x :: xs).mapM f = (xs.mapM f).map (y :: ·) := by
  rw [List.mapM_cons, h]
  cases xs.mapM f <;> rfl

lemma mapM_cons_error {x : α} {xs : List α} {e : ε} (h : f x = .error e) :
    (x :: xs).mapM f = .error e := by
  rw [List.mapM_cons, h]
  rfl

lemma exists_of_mem_right {r : α → β → Prop} {xs : List α} {ys : List β} {y : β}
    (h : List.Forall₂ r xs ys) (hy : y ∈ ys) : ∃ x ∈ xs, r x y := by
  induction h with
  | nil => cases hy
  | cons hxy h ih =>
    rcases List.mem_cons.mp hy with rfl | hy
    · exact ⟨_, List.mem_cons_self, hxy⟩
    · obtain ⟨x, hx, hr⟩ := ih hy
      exact ⟨x, List.mem_cons_of_mem _ hx, hr⟩

lemma exists_append_of_forall₂ {r : α → β → Prop} {xs xs' : List α} {ys : List β}
    (h : List.Forall₂ r (xs ++ xs') ys) :
    ∃ zs zs', ys = zs ++ zs' ∧ List.Forall₂ r xs zs ∧ List.Forall₂ r xs' zs' := by
  induction xs generalizing ys with
  | nil => exact ⟨[], ys, rfl, .nil, h⟩
  | cons x xs ih =>
    obtain ⟨y, ys, hxy, hrest, rfl⟩ := List.forall₂_cons_left_iff.mp h
    obtain ⟨zs, zs', rfl, hzs, hzs'⟩ := ih hrest
    exact ⟨y :: zs, zs', rfl, .cons hxy hzs, hzs'⟩

theorem mapM_eq_ok_iff {xs : List α} {ys : List β} :
    xs.mapM f = .ok ys ↔ List.Forall₂ (fun x y => f x = .ok y) xs ys := by
  induction xs generalizing ys with
  | nil => cases ys <;> simp [pure, Except.pure]
  | cons x xs ih =>
    cases hx : f x with
    | error e =>
      rw [mapM_cons_error hx]
      cases ys <;> simp [hx]
    | ok y =>
      rw [mapM_cons_ok hx]
      cases hxs : xs.mapM f with
      | error e => cases ys <;> simp [Except.map, ← ih, hxs]
      | ok zs => cases ys <;> simp [Except.map, ← ih, hxs, hx]

theorem exists_mapM_eq_ok_iff {xs : List α} :
    (∃ ys, xs.mapM f = .ok ys) ↔ ∀ x ∈ xs, ∃ y, f x = .ok y := by
  induction xs with
  | nil => simp [pure, Except.pure]
  | cons x xs ih =>
    rw [List.forall_mem_cons, ← ih]
    cases hx : f x with
    | error e => simp [mapM_cons_error hx]
    | ok y =>
      rw [mapM_cons_ok hx]
      cases xs.mapM f <;> simp [Except.map]

lemma mapM_append_error {before after : List α} {x : α} {e : ε}
    (hb : ∀ y ∈ before, ∃ z, f y = .ok z) (hx : f x = .error e) :
    (before ++ x :: after).mapM f = .error e := by
  induction before with
  | nil => exact mapM_cons_error hx
  | cons b before ih =>
    obtain ⟨z, hz⟩ := hb b List.mem_cons_self
    rw [List.cons_append, mapM_cons_ok hz, ih fun y hy => hb y (List.mem_cons_of_mem _ hy)]
    rfl

theorem mapM_eq_error_iff {xs : List α} {e : ε} :
    xs.mapM f = .error e ↔
      ∃ before x after, xs = before ++ x :: after ∧ (∀ y ∈ before, ∃ z, f y = .ok z) ∧
        f x = .error e := by
  constructor
  · intro h
    induction xs with
    | nil => simp [pure, Except.pure] at h
    | cons x xs ih =>
      cases hx : f x with
      | error d =>
        rw [mapM_cons_error hx] at h
        exact ⟨[], x, xs, rfl, nofun, by rw [hx, Except.error.inj h]⟩
      | ok z =>
        have hxs : xs.mapM f = .error e := by
          rw [mapM_cons_ok hx] at h
          cases hm : xs.mapM f <;> simp_all [Except.map]
        obtain ⟨before, y, after, rfl, hb, hy⟩ := ih hxs
        refine ⟨x :: before, y, after, rfl, fun w hw => ?_, hy⟩
        rcases List.mem_cons.mp hw with rfl | hw
        · exact ⟨z, hx⟩
        · exact hb w hw
  · rintro ⟨before, x, after, rfl, hb, hx⟩
    exact mapM_append_error hb hx

lemma filterMap_concat (f : α → Option β) (xs : List α) (x : α) :
    (xs ++ [x]).filterMap f = xs.filterMap f ++ (f x).toList := by
  rw [List.filterMap_append]
  cases h : f x <;> simp [h]

lemma filterMap_concat_none {f : α → Option β} {xs : List α} {x : α} (h : f x = none) :
    (xs ++ [x]).filterMap f = xs.filterMap f := by
  rw [filterMap_concat, h]
  exact List.append_nil _

end FleetScript
