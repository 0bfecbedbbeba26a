import FleetScript.Json.Decode
import FleetScript.Proofs.Json.Reading
import FleetScript.Proofs.Scopes.Lookup
import FleetScript.Proofs.Traversal
import Mathlib.Data.List.Nodup

/-!
Records and typed values read out of documents. A record whose fields lie apart is read field by
field: a key that is left out leaves its field as it was, and a key that is given decides it,
whatever the order of the members.
-/

namespace FleetScript.Json

open Text

/-! ### Fields that lie apart -/

section Records

variable {α : Type}

namespace Slot

/-- What a field holds after reading: what it held before if no value is given, and else what the
value is read as. -/
def Takes (f : Slot α) (a b : α) : Option Json → Prop
  | none => f.get b = f.get a
  | some v => f.read v = .ok (f.get b)

end Slot

/-- Fields that lie apart and together make up the record. -/
structure MakeUp (slots : List (Slot α)) : Prop where
  nodup : (slots.map Slot.key).Nodup
  apart : ∀ f ∈ slots, ∀ g ∈ slots, g.key ≠ f.key → ∀ x a, g.get (f.set x a) = g.get a
  all : ∀ a b, (∀ f ∈ slots, f.get a = f.get b) → a = b

variable {slots : List (Slot α)} {members : List (String × Json)} {k : String} {v : Json} {a b : α}

lemma MakeUp.eq_of_key (h : MakeUp slots) {f g : Slot α} (hf : f ∈ slots) (hg : g ∈ slots)
    (hkey : f.key = g.key) : f = g := List.inj_on_of_nodup_map h.nodup hf hg hkey

lemma putMembers_nil_iff (h : MakeUp slots) :
    putMembers (slots.map Slot.field) [] a = .ok b ↔ ∀ f ∈ slots, f.Takes a b none := by
  constructor
  · rintro ⟨⟩ f -
    rfl
  · intro htakes
    exact congrArg _ (h.all a b fun f hf => (htakes f hf).symm)

lemma MakeUp.find?_key (h : MakeUp slots) {f : Slot α} (hf : f ∈ slots) :
    (slots.map Slot.field).find? (·.key = f.key) = some f.field := by
  rw [List.find?_map, Option.map_eq_some_iff]
  cases hfind : slots.find? ((fun g : RecordField α => decide (g.key = f.key)) ∘ Slot.field) with
  | none =>
    have hne := List.find?_eq_none.mp hfind f hf
    exact absurd (decide_eq_true rfl) hne
  | some g =>
    have hg : g ∈ slots := List.mem_of_find?_eq_some hfind
    have hfound := List.find?_some hfind
    have hkey : g.key = f.key := of_decide_eq_true hfound
    exact ⟨g, rfl, by rw [h.eq_of_key hg hf hkey]⟩

lemma putMembers_unknown (hk : k ∉ slots.map Slot.key) :
    putMembers (slots.map Slot.field) ((k, v) :: members) a ≠ .ok b := by
  have hfind : (slots.map Slot.field).find? (·.key = k) = none := by
    rw [List.find?_eq_none]
    intro f hf hkey
    obtain ⟨g, hg, rfl⟩ := List.mem_map.mp hf
    exact hk (List.mem_map.mpr ⟨g, hg, of_decide_eq_true hkey⟩)
  rw [putMembers, hfind]
  exact nofun

lemma putMembers_known (h : MakeUp slots) {f : Slot α} (hf : f ∈ slots) :
    putMembers (slots.map Slot.field) ((f.key, v) :: members) a = .ok b ↔
      ∃ x, f.read v = .ok x ∧ putMembers (slots.map Slot.field) members (f.set x a) = .ok b := by
  rw [putMembers, h.find?_key hf]
  simp only [Slot.field]
  cases f.read v with
  | error e => simp [Except.map, bind, Except.bind]
  | ok x => simp [Except.map, bind, Except.bind]

/-- The field of the first member is decided by it alone, and the others by the rest. -/
lemma takes_cons_iff (h : MakeUp slots) {f g : Slot α} (hf : f ∈ slots) (hg : g ∈ slots)
    {x : f.Value} (hread : f.read v = .ok x) (hrest : members.lookup f.key = none) :
    g.Takes (f.set x a) b (members.lookup g.key) ↔
      g.Takes a b (((f.key, v) :: members).lookup g.key) := by
  rw [Bindings.lookup_cons_eq]
  by_cases hkey : g.key = f.key
  · obtain rfl := h.eq_of_key hg hf hkey
    rw [hrest, if_pos rfl, Slot.Takes, Slot.Takes, hread, g.get_set]
    exact ⟨fun e => congrArg _ e.symm, fun e => (Except.ok.inj e).symm⟩
  · have hget := h.apart f hf g hg hkey x a
    rw [if_neg hkey]
    cases members.lookup g.key with
    | none => rw [Slot.Takes, Slot.Takes, hget]
    | some w => rfl

/-- **A record is read field by field**, from members whose keys are known and given once. -/
theorem putMembers_eq_ok_iff (h : MakeUp slots)
    (hmembers : members.Pairwise fun m m' => m.1 < m'.1) :
    putMembers (slots.map Slot.field) members a = .ok b ↔
      (∀ m ∈ members, m.1 ∈ slots.map Slot.key) ∧
        ∀ f ∈ slots, f.Takes a b (members.lookup f.key) := by
  induction members generalizing a with
  | nil => simpa using putMembers_nil_iff h
  | cons m members ih =>
    obtain ⟨k, v⟩ := m
    obtain ⟨hlt, hrest⟩ := List.pairwise_cons.mp hmembers
    by_cases hk : k ∈ slots.map Slot.key
    · obtain ⟨f, hf, rfl⟩ := List.mem_map.mp hk
      have hnone : members.lookup f.key = none := Bindings.lookup_eq_none_of_lt hlt
      rw [putMembers_known h hf, List.forall_mem_cons]
      constructor
      · rintro ⟨x, hread, hput⟩
        obtain ⟨hknown, htakes⟩ := (ih hrest).mp hput
        refine ⟨⟨hk, hknown⟩, fun g hg => ?_⟩
        exact (takes_cons_iff h hf hg hread hnone).mp (htakes g hg)
      · rintro ⟨⟨-, hknown⟩, htakes⟩
        have hread : f.read v = .ok (f.get b) := by
          have hf' := htakes f hf
          rwa [Bindings.lookup_cons_eq, if_pos rfl] at hf'
        refine ⟨_, hread, (ih hrest).mpr ⟨hknown, fun g hg => ?_⟩⟩
        exact (takes_cons_iff h hf hg hread hnone).mpr (htakes g hg)
    · constructor
      · intro hput
        exact absurd hput (putMembers_unknown hk)
      · rintro ⟨hknown, -⟩
        exact absurd (hknown _ List.mem_cons_self) hk

/-- An object is read as a record if its members are, and none that is required is missing. -/
lemma asRecord_object_eq_ok_iff {known : List (RecordField α)} {name : String}
    {required : List String} :
    asRecord name known required a (.object members) = .ok b ↔
      putMembers known members a = .ok b ∧ ∀ k ∈ required, k ∈ members.map (·.1) := by
  rw [asRecord]
  cases putMembers known members a with
  | error e => simp [bind, Except.bind]
  | ok c =>
    simp only [bind, Except.bind]
    cases hfind : required.find? (fun k => !(members.map (·.1)).contains k) with
    | none =>
      have hall := List.find?_eq_none.mp hfind
      simp only [Bool.not_eq_true', Bool.not_eq_false, List.contains_iff_mem] at hall
      exact (and_iff_left hall).symm
    | some k =>
      have hfound := List.find?_some hfind
      have hmem : k ∈ required := List.mem_of_find?_eq_some hfind
      simp only [Bool.not_eq_true', ← Bool.not_eq_true, List.contains_iff_mem] at hfound
      simp only [reduceCtorEq, false_iff, not_and]
      exact fun _ hall => hfound (hall k hmem)

/-- **An object is read as a record** if its keys are known, the required ones among them, and each
field takes what is given for it; of two members with one key the later counts. -/
theorem asRecord_ofMembers_iff (h : MakeUp slots) (name : String) (required : List String) :
    asRecord name (slots.map Slot.field) required a (ofMembers members) = .ok b ↔
      (∀ k ∈ members.map (·.1), k ∈ slots.map Slot.key) ∧
        (∀ k ∈ required, k ∈ members.map (·.1)) ∧
          ∀ f ∈ slots, f.Takes a b (members.reverse.lookup f.key) := by
  have hkeys (k : String) : k ∈ (Bindings.ofList members).pairs.map (·.1) ↔
      k ∈ members.map (·.1) := Bindings.mem_keys_ofList
  have hlookup (k : String) : (Bindings.ofList members).pairs.lookup k = members.reverse.lookup k :=
    Bindings.get?_ofList members k
  have hknown : (∀ m ∈ (Bindings.ofList members).pairs, m.1 ∈ slots.map Slot.key) ↔
      ∀ k ∈ members.map (·.1), k ∈ slots.map Slot.key := by
    simp only [← hkeys, List.forall_mem_map]
  rw [ofMembers, asRecord_object_eq_ok_iff,
    putMembers_eq_ok_iff h (Bindings.ofList members).increasing, hknown]
  simp only [hkeys, hlookup]
  exact ⟨fun ⟨⟨hknown, htakes⟩, hgiven⟩ => ⟨hknown, hgiven, htakes⟩,
    fun ⟨hknown, hgiven, htakes⟩ => ⟨⟨hknown, htakes⟩, hgiven⟩⟩

end Records

/-! ### Members of documents -/

/-- The document that counts for a key: of two members with one key the later. -/
def given (ms : List (String × Document)) (k : String) : Option Document := ms.reverse.lookup k

/-- What a field holds: its default if its key is left out, and else what is given. -/
def Holds {β : Type} (R : Document → β → Prop) (default : β) : Option Document → β → Prop
  | none, x => x = default
  | some d, x => R d x

lemma Slot.takes_iff {α : Type} {a b : α} {f : Slot α} {R : Document → f.Value → Prop}
    (hread : ∀ d x, f.read d.value = .ok x ↔ R d x) (d? : Option Document) :
    f.Takes a b (d?.map Document.value) ↔ Holds R (f.get a) d? (f.get b) := by
  cases d? with
  | none => rfl
  | some d => exact hread d (f.get b)

lemma Holds.mono {β : Type} {R R' : Document → β → Prop} {x y : β} {d? : Option Document}
    (h : Holds R x d? y) (hR : ∀ d ∈ d?, R d y → R' d y) : Holds R' x d? y := by
  cases d? with
  | none => exact h
  | some d => exact hR d rfl h

lemma given_isSome_iff {ms : List (String × Document)} {k : String} :
    (given ms k).isSome = true ↔ k ∈ ms.map (·.1) := by
  rw [Option.isSome_iff_ne_none, given, ne_eq, Bindings.lookup_eq_none_iff, not_not,
    List.map_reverse, List.mem_reverse]

lemma memberValues_eq (ms : List (String × Document)) :
    memberValues ms = ms.map fun m => (m.1, m.2.value) := by
  induction ms with
  | nil => rfl
  | cons m ms ih => rw [memberValues, ih, List.map_cons]

/-- The value that counts for a key is that of the document that counts for it. -/
lemma lookup_memberValues (ms : List (String × Document)) (k : String) :
    (memberValues ms).reverse.lookup k = (given ms k).map Document.value := by
  have hlookup (l : List (String × Document)) :
      (l.map fun m => (m.1, m.2.value)).lookup k = (l.lookup k).map Document.value := by
    induction l with
    | nil => rfl
    | cons m l ih =>
      rw [List.map_cons, Bindings.lookup_cons_eq, Bindings.lookup_cons_eq, ih]
      by_cases hk : k = m.1 <;> simp [hk]
  rw [memberValues_eq, ← List.map_reverse, hlookup, given]

/-! ### Typed values -/

/-- A natural number up to a bound, in digits alone. -/
def IsNatural (bound : Nat) (d : Document) (n : Nat) : Prop :=
  ∃ p, d = .number p ∧ p.minus = false ∧ p.fraction = none ∧ p.power = none ∧
    numeral 10 p.whole = n ∧ n ≤ bound

def IsTruth (d : Document) (b : Bool) : Prop := d = .bool b

/-- A string. -/
def IsText (d : Document) (s : String) : Prop := d = .string s

/-- A string, or a number that is too great to be one. -/
def ReadsAsText (d : Document) (s : String) : Prop :=
  d = .string s ∨ ∃ p, d = .number p ∧ p.number? = none ∧ String.ofList p.text = s

section Readers

variable {T : Document → String → Prop} {d : Document} {expected s : String} {v : Json}

def IsOptional (T : Document → String → Prop) (d : Document) : Option String → Prop
  | none => d = .null
  | some s => T d s

/-- An object whose values are texts; of two members with one key the later counts. -/
def IsMap (T : Document → String → Prop) (d : Document) (m : Bindings String) : Prop :=
  ∃ ms, d = .object ms ∧ ∀ k, Option.Rel T (given ms k) (m.get? k)

lemma asString_eq_ok_iff : asString expected v = .ok s ↔ v = .string s := by
  cases v <;> simp [asString]

lemma value_eq_string_iff : d.value = .string s ↔ ReadsAsText d s := by
  cases d with
  | number p =>
    rw [Document.value, p.ofNumberText_text]
    cases h : p.number? <;> simp [ReadsAsText, h]
  | null | bool | string | array | object => simp [Document.value, ReadsAsText, ofMembers]

lemma asString_value_iff : asString expected d.value = .ok s ↔ ReadsAsText d s :=
  asString_eq_ok_iff.trans value_eq_string_iff

lemma asOptional_value_iff {s? : Option String} :
    asOptional expected d.value = .ok s? ↔ IsOptional ReadsAsText d s? := by
  have hnull : d.value = .null ↔ d = .null := by
    cases d with
    | number p =>
      rw [Document.value, p.ofNumberText_text]
      cases p.number? <;> simp
    | null | bool | string | array | object => simp [Document.value, ofMembers]
  cases s? with
  | none =>
    rw [IsOptional, ← hnull]
    cases d.value <;> simp [asOptional, asString, Except.map]
  | some s =>
    rw [IsOptional, ← value_eq_string_iff]
    cases d.value <;> simp [asOptional, asString, Except.map]

lemma asBool_value_iff {b : Bool} : asBool d.value = .ok b ↔ IsTruth d b := by
  cases d with
  | number p =>
    rw [Document.value, p.ofNumberText_text]
    cases p.number? <;> simp [asBool, IsTruth]
  | null | bool | string | array | object => simp [Document.value, asBool, IsTruth, ofMembers]

lemma asNatural_eq_ok_iff {bound n : Nat} :
    asNatural bound expected v = .ok n ↔ v = .number (.natural n) ∧ n ≤ bound := by
  cases v with
  | number m =>
    cases m with
    | natural m =>
      have hfit : asNatural bound expected (.number (.natural m)) = .ok n ↔ m = n ∧ m ≤ bound := by
        rw [asNatural]
        split <;> simp [*]
      rw [hfit]
      constructor <;> rintro ⟨h, hle⟩ <;> simp_all
    | negative | real => simp [asNatural]
  | null | bool | string | array | object => simp [asNatural]

lemma asNatural_value_iff {bound n : Nat} (hbound : bound ≤ Number.maxNatural) :
    asNatural bound expected d.value = .ok n ↔ IsNatural bound d n := by
  rw [asNatural_eq_ok_iff]
  cases d with
  | number p =>
    have hvalue : (Document.number p).value = .number (.natural n) ↔
        p.number? = some (.natural n) := by
      rw [Document.value, p.ofNumberText_text]
      cases p.number? <;> simp
    rw [hvalue, p.number?_eq_natural_iff]
    constructor
    · rintro ⟨⟨hminus, hfraction, hpower, hn, -⟩, hle⟩
      exact ⟨p, rfl, hminus, hfraction, hpower, hn, hle⟩
    · rintro ⟨q, hq, hminus, hfraction, hpower, hn, hle⟩
      obtain rfl := Document.number.inj hq
      exact ⟨⟨hminus, hfraction, hpower, hn, hle.trans hbound⟩, hle⟩
  | null | bool | string | array | object => simp [Document.value, IsNatural, ofMembers]

lemma asStrings_strings (m : Bindings String) :
    asStrings (.object (m.pairs.map fun (k, v) => (k, Json.string v))) = .ok m := by
  have hread : (m.pairs.map fun (k, v) => (k, Json.string v)).mapM
      (fun p => (asString "a string" p.2).map fun s => (p.1, s)) = .ok m.pairs :=
    mapM_eq_ok_iff.mpr (List.forall₂_map_left_iff.mpr (List.forall₂_same.mpr fun _ _ => rfl))
  unfold asStrings
  simp only [hread]
  exact congrArg _ (Bindings.ofList_pairs m)

lemma eq_map_string {l : List (String × Json)} {pairs : List (String × String)}
    (h : l.mapM (fun p => (asString "a string" p.2).map fun s => (p.1, s)) = .ok pairs) :
    l = pairs.map fun p => (p.1, Json.string p.2) := by
  induction mapM_eq_ok_iff.mp h with
  | nil => rfl
  | @cons p q ps qs hp hps ih =>
    rw [List.map_cons, ← ih (mapM_eq_ok_iff.mpr hps)]
    cases hs : asString "a string" p.2 with
    | error e => rw [hs] at hp; cases hp
    | ok s =>
      rw [hs] at hp
      obtain rfl : (p.1, s) = q := Except.ok.inj hp
      rw [← asString_eq_ok_iff.mp hs]

/-- Nothing but the form of a map of strings is read as that map. -/
lemma asStrings_object_iff {b : Bindings Json} {m : Bindings String} :
    asStrings (.object b.pairs) = .ok m ↔ b = m.map fun _ => .string := by
  constructor
  · intro h
    unfold asStrings at h
    cases hread : b.pairs.mapM (fun p => (asString "a string" p.2).map fun s => (p.1, s)) with
    | error e =>
      simp only [hread] at h
      cases h
    | ok pairs =>
      simp only [hread] at h
      have hpairs := eq_map_string hread
      have hincreasing : pairs.Pairwise fun p q => p.1 < q.1 := by
        have hb := b.increasing
        rwa [hpairs, List.pairwise_map] at hb
      obtain rfl : Bindings.ofList pairs = m := Except.ok.inj h
      rw [Bindings.ofList_pairs ⟨pairs, hincreasing⟩]
      cases b
      congr
  · rintro rfl
    exact asStrings_strings m

lemma asStrings_value_iff {m : Bindings String} :
    asStrings d.value = .ok m ↔ IsMap ReadsAsText d m := by
  cases d with
  | object ms =>
    have hgiven (k : String) :
        (Bindings.ofList (memberValues ms)).get? k = (m.map fun _ => Json.string).get? k ↔
          Option.Rel ReadsAsText (given ms k) (m.get? k) := by
      rw [Bindings.get?_ofList, lookup_memberValues, Bindings.get?_map]
      cases given ms k <;> cases m.get? k <;> simp [value_eq_string_iff]
    rw [Document.value, ofMembers, asStrings_object_iff]
    constructor
    · intro h
      exact ⟨ms, rfl, fun k => (hgiven k).mp (congrArg (·.get? k) h)⟩
    · rintro ⟨ms', hms', hall⟩
      obtain rfl := Document.object.inj hms'
      exact Bindings.ext_get? fun k => (hgiven k).mpr (hall k)
  | number p =>
    rw [Document.value, p.ofNumberText_text]
    cases p.number? <;> simp [asStrings, IsMap]
  | null | bool | string | array => simp [Document.value, asStrings, IsMap]

end Readers

end FleetScript.Json
