/-!
Finite maps from names, kept as pairs in increasing order of the names. Two maps that answer
every question alike are equal, so laws about them can be stated by lookup.
-/

namespace FleetScript

/-- Pairs of a name and a value, in increasing order of the names. -/
structure Bindings (α : Type) where
  pairs : List (String × α)
  increasing : pairs.Pairwise (fun a b => a.1 < b.1) := by simp
  deriving DecidableEq

namespace Bindings

variable {α β : Type}

/-! ### Lookup -/

def empty : Bindings α := { pairs := [] }

instance : Inhabited (Bindings α) := ⟨empty⟩
instance : EmptyCollection (Bindings α) := ⟨empty⟩

def get? (m : Bindings α) (k : String) : Option α := m.pairs.lookup k

def contains (m : Bindings α) (k : String) : Bool := (m.get? k).isSome

/-- The names, in increasing order. -/
def keys (m : Bindings α) : List String := m.pairs.map (·.1)

def isEmpty (m : Bindings α) : Bool := m.pairs.isEmpty

@[simp] theorem get?_empty (k : String) : (empty : Bindings α).get? k = none := rfl

theorem lookup_cons_eq (k : String) (p : String × α) (l : List (String × α)) :
    (p :: l).lookup k = if k = p.1 then some p.2 else l.lookup k := by
  rw [List.lookup_cons]
  by_cases h : k = p.1
  · simp [h]
  · simp [h, beq_eq_false_iff_ne.mpr h]

theorem lookup_eq_none_of_lt {k : String} {l : List (String × α)} (h : ∀ p ∈ l, k < p.1) :
    l.lookup k = none := by
  induction l with
  | nil => rfl
  | cons p l ih =>
    have hp : k ≠ p.1 := fun e => String.lt_irrefl _ (e ▸ h p (by simp) : k < k)
    rw [lookup_cons_eq, if_neg hp]
    exact ih fun q hq => h q (by simp [hq])

/-! ### One name -/

def insertPair (k : String) (v : α) : List (String × α) → List (String × α)
  | [] => [(k, v)]
  | p :: rest =>
    if k < p.1 then (k, v) :: p :: rest
    else if k = p.1 then (k, v) :: rest
    else p :: insertPair k v rest

theorem mem_insertPair {k : String} {v : α} {l : List (String × α)} {q : String × α}
    (h : q ∈ insertPair k v l) : q = (k, v) ∨ q ∈ l := by
  induction l with
  | nil => simpa [insertPair] using h
  | cons p rest ih =>
    rw [insertPair] at h
    split at h
    · simpa using h
    · split at h
      · rcases List.mem_cons.mp h with h | h
        · exact .inl h
        · exact .inr (by simp [h])
      · rcases List.mem_cons.mp h with h | h
        · exact .inr (by simp [h])
        · rcases ih h with h | h
          · exact .inl h
          · exact .inr (by simp [h])

theorem increasing_insertPair {k : String} {v : α} {l : List (String × α)}
    (h : l.Pairwise (fun a b => a.1 < b.1)) :
    (insertPair k v l).Pairwise (fun a b => a.1 < b.1) := by
  induction l with
  | nil => simp [insertPair]
  | cons p rest ih =>
    have hp := List.pairwise_cons.mp h
    rw [insertPair]
    split
    · next hlt =>
      refine List.pairwise_cons.mpr ⟨fun q hq => ?_, h⟩
      rcases List.mem_cons.mp hq with rfl | hq
      · exact hlt
      · exact String.lt_trans hlt (hp.1 q hq)
    · next hnlt =>
      split
      · next he => exact List.pairwise_cons.mpr ⟨fun q hq => he ▸ hp.1 q hq, hp.2⟩
      · next hne =>
        refine List.pairwise_cons.mpr ⟨fun q hq => ?_, ih hp.2⟩
        rcases mem_insertPair hq with rfl | hq
        · exact String.not_le.mp fun hle =>
            hne (String.le_antisymm hle (String.not_lt.mp hnlt))
        · exact hp.1 q hq

def insert (m : Bindings α) (k : String) (v : α) : Bindings α :=
  ⟨insertPair k v m.pairs, increasing_insertPair m.increasing⟩

theorem lookup_insertPair {k k' : String} {v : α} {l : List (String × α)}
    (h : l.Pairwise (fun a b => a.1 < b.1)) :
    (insertPair k v l).lookup k' = if k' = k then some v else l.lookup k' := by
  induction l with
  | nil => simp [insertPair, lookup_cons_eq]
  | cons p rest ih =>
    have ih := ih (List.pairwise_cons.mp h).2
    rw [insertPair]
    split
    · rw [lookup_cons_eq]
    · split
      · next he => by_cases hk : k' = k <;> simp [lookup_cons_eq, hk, ← he]
      · next hne =>
        rw [lookup_cons_eq, lookup_cons_eq, ih]
        by_cases hkp : k' = p.1
        · have hk : k' ≠ k := fun e => hne (e ▸ hkp)
          simp [hkp, hkp ▸ hk]
        · simp [hkp]

@[simp] theorem get?_insert (m : Bindings α) (k k' : String) (v : α) :
    (m.insert k v).get? k' = if k' = k then some v else m.get? k' :=
  lookup_insertPair m.increasing

/-! ### Many names -/

/-- The map with all pairs of a list set in turn, so that of two pairs for one name the later
wins. -/
def insertAll (m : Bindings α) (l : List (String × α)) : Bindings α :=
  l.foldl (fun m p => m.insert p.1 p.2) m

/-- The map of a list of pairs; of two pairs for one name the later wins. -/
def ofList (l : List (String × α)) : Bindings α := insertAll ∅ l

/-- The names of both maps, with the value of the right one where both have one. -/
def override (low high : Bindings α) : Bindings α := low.insertAll high.pairs

theorem pairs_map_increasing (m : Bindings α) (f : String → α → β) :
    (m.pairs.map fun p => (p.1, f p.1 p.2)).Pairwise (fun a b => a.1 < b.1) :=
  List.pairwise_map.mpr m.increasing

def map (f : String → α → β) (m : Bindings α) : Bindings β :=
  ⟨m.pairs.map fun p => (p.1, f p.1 p.2), pairs_map_increasing m f⟩

theorem get?_map (f : String → α → β) (m : Bindings α) (k : String) :
    (m.map f).get? k = (m.get? k).map (f k) := by
  show (m.pairs.map fun p => (p.1, f p.1 p.2)).lookup k = (m.pairs.lookup k).map (f k)
  induction m.pairs with
  | nil => rfl
  | cons p rest ih =>
    rw [List.map_cons, lookup_cons_eq, lookup_cons_eq, ih]
    by_cases hk : k = p.1 <;> simp [hk]

theorem get?_insertAll (m : Bindings α) (l : List (String × α)) (k : String) :
    (m.insertAll l).get? k = (l.reverse.lookup k).or (m.get? k) := by
  unfold insertAll
  induction l generalizing m with
  | nil => simp
  | cons p rest ih =>
    rw [List.foldl_cons, ih, get?_insert, List.reverse_cons, List.lookup_append]
    by_cases hk : k = p.1 <;> cases rest.reverse.lookup k <;> simp [lookup_cons_eq, hk]

/-! ### Equality -/

theorem ext_lookup {l₁ l₂ : List (String × α)} (h₁ : l₁.Pairwise (fun a b => a.1 < b.1))
    (h₂ : l₂.Pairwise (fun a b => a.1 < b.1)) (h : ∀ k, l₁.lookup k = l₂.lookup k) : l₁ = l₂ := by
  induction l₁ generalizing l₂ with
  | nil =>
    cases l₂ with
    | nil => rfl
    | cons q _ => simpa [lookup_cons_eq] using h q.1
  | cons p r₁ ih =>
    cases l₂ with
    | nil => simpa [lookup_cons_eq] using h p.1
    | cons q r₂ =>
      have hp := List.pairwise_cons.mp h₁
      have hq := List.pairwise_cons.mp h₂
      have hkey : p.1 = q.1 := by
        refine Decidable.byContradiction fun hne => ?_
        by_cases hlt : p.1 < q.1
        · have hn : (q :: r₂).lookup p.1 = none := by
            refine lookup_eq_none_of_lt fun x hx => ?_
            rcases List.mem_cons.mp hx with rfl | hx
            · exact hlt
            · exact String.lt_trans hlt (hq.1 x hx)
          have := h p.1
          rw [hn, lookup_cons_eq, if_pos rfl] at this
          simp at this
        · have hlt' : q.1 < p.1 := String.not_le.mp fun hle =>
            hne (String.le_antisymm hle (String.not_lt.mp hlt))
          have hn : (p :: r₁).lookup q.1 = none := by
            refine lookup_eq_none_of_lt fun x hx => ?_
            rcases List.mem_cons.mp hx with rfl | hx
            · exact hlt'
            · exact String.lt_trans hlt' (hp.1 x hx)
          have := h q.1
          rw [hn, lookup_cons_eq, if_pos rfl] at this
          simp at this
      have hval : p.2 = q.2 := by simpa [lookup_cons_eq, hkey] using h p.1
      have hrest : r₁ = r₂ := by
        refine ih hp.2 hq.2 fun k => ?_
        by_cases hk : k = p.1
        · rw [hk, lookup_eq_none_of_lt hp.1, lookup_eq_none_of_lt fun x hx => hkey ▸ hq.1 x hx]
        · have := h k
          rwa [lookup_cons_eq, lookup_cons_eq, if_neg hk, if_neg (hkey ▸ hk : k ≠ q.1)] at this
      rw [hrest, Prod.ext hkey hval]

theorem ext_get? {m₁ m₂ : Bindings α} (h : ∀ k, m₁.get? k = m₂.get? k) : m₁ = m₂ := by
  cases m₁
  cases m₂
  congr
  exact ext_lookup ‹_› ‹_› h

end Bindings

end FleetScript
