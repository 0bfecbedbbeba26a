import FleetScript.Proofs.Host.Columns
import FleetScript.Proofs.Text.Lines

/-!
The questions that variables ask. A value in braces asks for another one in its place (`Asks`), and
the values of variables ask one after another, in the order of the names and of the values of each
name (`Questions`). Who answers may be anyone in any state; the answers are those to these questions
in this order (`Answers`), up to the first that fails, and each takes the place of the value that
asked for it (`Filled`). So variables get all answers or none (`asked_answerAll`).
-/

namespace FleetScript.Host

open Text

/-! ### Placeholders -/

/-- A value asks for another one if it stands in braces, with no closing brace between them. The
text between the braces, without white space at its ends, is the label of the request, and the name
of the variable stands in for an empty one. -/
inductive Request.Asks (key value : String) : Request → Prop where
  | labelled {inner label : List Char} (hv : value.toList = '\x7b' :: inner ++ ['\x7d'])
    (hi : '\x7d' ∉ inner) (ht : Trimmed inner label) (h0 : label ≠ []) :
    Asks key value { key, label := String.ofList label }
  | unlabelled {inner : List Char} (hv : value.toList = '\x7b' :: inner ++ ['\x7d'])
    (hi : '\x7d' ∉ inner) (ht : Trimmed inner []) :
    Asks key value { key, label := "a value for \"" ++ key ++ "\"" }

namespace Request

variable {key value : String} {r : Request}

lemma inner?_eq_some_iff {s inner : List Char} :
    inner? s = some inner ↔ s = '\x7b' :: inner ++ ['\x7d'] ∧ '\x7d' ∉ inner := by
  constructor
  · intro h
    unfold inner? at h
    split at h
    · next rest =>
      split at h
      · next inner' hcut =>
        obtain rfl := Option.some.inj h
        rcases not_mem_or_eq_append '\x7d' rest with hno | ⟨a, b, rfl, ha⟩
        · rw [cut_eq_none hno] at hcut
          cases hcut
        · obtain ⟨rfl, rfl⟩ := Prod.mk.inj (Option.some.inj ((cut_append ha b).symm.trans hcut))
          exact ⟨rfl, ha⟩
      · cases h
    · cases h
  · rintro ⟨rfl, hi⟩
    rw [List.cons_append, inner?, cut_append hi]

theorem ofValue?_eq_some_iff : ofValue? key value = some r ↔ Asks key value r := by
  unfold ofValue?
  rw [Option.map_eq_some_iff]
  constructor
  · rintro ⟨inner, hinner, rfl⟩
    obtain ⟨hv, hi⟩ := inner?_eq_some_iff.mp hinner
    have ht := trimmed_trimChars inner
    cases hl : trimChars inner with
    | nil => exact .unlabelled hv hi (hl ▸ ht)
    | cons c label => exact .labelled hv hi (hl ▸ ht) (List.cons_ne_nil c label)
  · intro h
    cases h with
    | @labelled inner label hv hi ht h0 =>
      refine ⟨inner, inner?_eq_some_iff.mpr ⟨hv, hi⟩, ?_⟩
      simp [trimChars_eq_iff.mpr ht, h0]
    | @unlabelled inner hv hi ht =>
      refine ⟨inner, inner?_eq_some_iff.mpr ⟨hv, hi⟩, ?_⟩
      simp [trimChars_eq_iff.mpr ht]

lemma Asks.unique {r' : Request} (h : Asks key value r) (h' : Asks key value r') : r' = r :=
  Option.some.inj ((ofValue?_eq_some_iff.mpr h').symm.trans (ofValue?_eq_some_iff.mpr h))

lemma ofValue?_eq_none_iff : ofValue? key value = none ↔ ∀ r, ¬Asks key value r := by
  simp only [← ofValue?_eq_some_iff, Option.eq_none_iff_forall_ne_some, ne_eq]

end Request

open Request

/-! ### Questions and answers -/

/-- The values of pairs of a name and a list, one by one, each with its name. -/
def values (ps : List (String × List String)) : List (String × String) :=
  ps.flatMap fun p => p.2.map fun v => (p.1, v)

/-- The questions that values ask, in their order. -/
inductive Questions : List (String × String) → List Request → Prop where
  | nil : Questions [] []
  | plain {key value : String} {xs : List (String × String)} {rs : List Request}
    (hx : ∀ r, ¬Asks key value r) (h : Questions xs rs) : Questions ((key, value) :: xs) rs
  | asks {key value : String} {r : Request} {xs : List (String × String)} {rs : List Request}
    (hx : Asks key value r) (h : Questions xs rs) : Questions ((key, value) :: xs) (r :: rs)

/-- Someone answers questions one after another, and goes from one state to another with each. -/
inductive Answers {σ : Type} (ask : Resolver σ) : σ → List Request → List String → σ → Prop where
  | nil (s : σ) : Answers ask s [] [] s
  | cons {s t u : σ} {r : Request} {a : String} {rs : List Request} {as : List String}
    (hr : ask r s = (.ok a, t)) (h : Answers ask t rs as u) : Answers ask s (r :: rs) (a :: as) u

/-- Answers take the places of the values that asked for them, and all other values stay. -/
inductive Filled : List (String × String) → List String → List (String × String) → Prop where
  | nil : Filled [] [] []
  | plain {key value : String} {xs ys : List (String × String)} {as : List String}
    (hx : ∀ r, ¬Asks key value r) (h : Filled xs as ys) :
    Filled ((key, value) :: xs) as ((key, value) :: ys)
  | answer {key value a : String} {r : Request} {xs ys : List (String × String)}
    {as : List String} (hx : Asks key value r) (h : Filled xs as ys) :
    Filled ((key, value) :: xs) (a :: as) ((key, a) :: ys)

/-- The names of pairs, with the number of values that each has. -/
def shape (ps : List (String × List String)) : List (String × ℕ) :=
  ps.map fun p => (p.1, p.2.length)

section Lists

variable {xs xs' ys ys' : List (String × String)} {rs rs' : List Request} {as as' : List String}

lemma values_cons (key : String) (vs : List String) (ps : List (String × List String)) :
    values ((key, vs) :: ps) = (vs.map fun v => (key, v)) ++ values ps := List.flatMap_cons

/-- Pairs are known by their values and the number of values that each name has. -/
lemma pairs_of_values {ps qs : List (String × List String)} (h : values ps = values qs)
    (hs : shape ps = shape qs) : ps = qs := by
  induction ps generalizing qs with
  | nil => exact (List.map_eq_nil_iff.mp hs.symm).symm
  | cons p ps ih =>
    obtain ⟨key, vs⟩ := p
    cases qs with
    | nil => cases hs
    | cons q qs =>
      obtain ⟨key', vs'⟩ := q
      -- the first name has as many values on either side, so both lists are cut at one place
      obtain ⟨hfirst, hrest⟩ := List.cons_eq_cons.mp hs
      obtain ⟨rfl, hlength⟩ := Prod.mk.inj hfirst
      rw [values_cons, values_cons] at h
      obtain ⟨hvs, htail⟩ := List.append_inj h (by simpa using hlength)
      have hinj : Function.Injective fun v : String => (key, v) := fun _ _ he =>
        (Prod.mk.inj he).2
      rw [hinj.list_map hvs, ih htail hrest]

lemma eq_of_values {vars vars' : Variables} (h : values vars.pairs = values vars'.pairs)
    (hs : shape vars.pairs = shape vars'.pairs) : vars = vars' :=
  Bindings.ext_get? fun k => congrArg (List.lookup k) (pairs_of_values h hs)

lemma exists_questions (xs : List (String × String)) : ∃ rs, Questions xs rs := by
  induction xs with
  | nil => exact ⟨[], .nil⟩
  | cons x xs ih =>
    obtain ⟨rs, h⟩ := ih
    by_cases hx : ∃ r, Asks x.1 x.2 r
    · obtain ⟨r, hr⟩ := hx
      exact ⟨r :: rs, .asks hr h⟩
    · exact ⟨rs, .plain (not_exists.mp hx) h⟩

lemma Questions.append (h : Questions xs rs) (h' : Questions xs' rs') :
    Questions (xs ++ xs') (rs ++ rs') := by
  induction h with
  | nil => exact h'
  | plain hx _ ih => exact .plain hx ih
  | asks hx _ ih => exact .asks hx ih

lemma Filled.append (h : Filled xs as ys) (h' : Filled xs' as' ys') :
    Filled (xs ++ xs') (as ++ as') (ys ++ ys') := by
  induction h with
  | nil => exact h'
  | plain hx _ ih => exact .plain hx ih
  | answer hx _ ih => exact .answer hx ih

lemma Answers.append {σ : Type} {ask : Resolver σ} {s t u : σ} (h : Answers ask s rs as t)
    (h' : Answers ask t rs' as' u) : Answers ask s (rs ++ rs') (as ++ as') u := by
  induction h with
  | nil => exact h'
  | cons hr _ ih => exact .cons hr (ih h')

lemma Questions.unique (h : Questions xs rs) (h' : Questions xs rs') : rs' = rs := by
  induction h generalizing rs' with
  | nil => cases h' with | nil => rfl
  | plain hx _ ih =>
    cases h' with
    | plain _ h' => exact ih h'
    | asks hx' _ => exact absurd hx' (hx _)
  | asks hx _ ih =>
    cases h' with
    | plain hx' _ => exact absurd hx (hx' _)
    | asks hx' h' => rw [ih h', hx.unique hx']

lemma Filled.unique (h : Filled xs as ys) (h' : Filled xs as ys') : ys' = ys := by
  induction h generalizing ys' with
  | nil => cases h' with | nil => rfl
  | plain hx _ ih =>
    cases h' with
    | plain _ h' => rw [ih h']
    | answer hx' _ => exact absurd hx' (hx _)
  | answer hx _ ih =>
    cases h' with
    | plain hx' _ => exact absurd hx (hx' _)
    | answer _ h' => rw [ih h']

lemma Questions.mem_keys (h : Questions xs rs) {r : Request} (hr : r ∈ rs) :
    r.key ∈ xs.map (·.1) := by
  induction h with
  | nil => cases hr
  | plain _ _ ih => exact List.mem_cons_of_mem _ (ih hr)
  | asks hx _ ih =>
    rcases List.mem_cons.mp hr with rfl | hr
    · cases hx <;> exact List.mem_cons_self
    · exact List.mem_cons_of_mem _ (ih hr)

/-- Values in the order of their names ask questions in the order of their names. -/
lemma Questions.pairwise (h : Questions xs rs) (hxs : xs.Pairwise fun x y => x.1 ≤ y.1) :
    rs.Pairwise fun r r' => r.key ≤ r'.key := by
  induction h with
  | nil => exact .nil
  | plain _ _ ih => exact ih (List.pairwise_cons.mp hxs).2
  | @asks key value r xs rs hx h ih =>
    obtain ⟨hfirst, hrest⟩ := List.pairwise_cons.mp hxs
    refine List.pairwise_cons.mpr ⟨fun r' hr' => ?_, ih hrest⟩
    obtain ⟨y, hy, hkey⟩ := List.mem_map.mp (h.mem_keys hr')
    have hle := hfirst y hy
    cases hx <;> exact hkey ▸ hle

lemma pairwise_values (vars : Variables) : (values vars.pairs).Pairwise fun x y => x.1 ≤ y.1 := by
  refine List.pairwise_flatMap.mpr ⟨fun p _ => ?_, vars.increasing.imp fun hlt => ?_⟩
  · exact List.pairwise_map.mpr (List.pairwise_of_forall fun _ _ => String.le_refl p.1)
  · intro x hx y hy
    obtain ⟨_, -, rfl⟩ := List.mem_map.mp hx
    obtain ⟨_, -, rfl⟩ := List.mem_map.mp hy
    exact String.not_lt.mp fun h => String.lt_irrefl _ (String.lt_trans h hlt)

end Lists

/-! ### Asking -/

/-- What comes of asking all questions of some values: the values with the answers in their places,
or the error of the first answer that fails, behind which nothing is asked any more. -/
inductive Asked {σ : Type} (ask : Resolver σ) (xs : List (String × String)) (s : σ) :
    Except Error (List (String × String)) × σ → Prop where
  | all {rs : List Request} {as : List String} {ys : List (String × String)} {t : σ}
    (hq : Questions xs rs) (ha : Answers ask s rs as t) (hf : Filled xs as ys) :
    Asked ask xs s (.ok ys, t)
  | failed {before later : List Request} {r : Request} {as : List String} {e : Error} {t u : σ}
    (hq : Questions xs (before ++ r :: later)) (ha : Answers ask s before as t)
    (hr : ask r t = (.error e, u)) : Asked ask xs s (.error e, u)

/-! ### One outcome -/

/-- Asks one question after another, up to the first that gets no answer. -/
def askEach {σ : Type} (ask : Resolver σ) : List Request → σ → Except Error (List String) × σ
  | [], s => (.ok [], s)
  | r :: rs, s =>
    match ask r s with
    | (.error e, s) => (.error e, s)
    | (.ok a, s) => ((askEach ask rs s).1.map (a :: ·), (askEach ask rs s).2)

section Asking

variable {σ : Type} {ask : Resolver σ} {xs xs' ys : List (String × String)} {s t u : σ}

lemma askEach_of_answers {rs : List Request} {as : List String} (h : Answers ask s rs as t) :
    askEach ask rs s = (.ok as, t) := by
  induction h with
  | nil s => rfl
  | cons hr _ ih =>
    simp only [askEach, hr, ih]
    rfl

lemma askEach_of_failed {before : List Request} {r : Request} {as : List String} {e : Error}
    (ha : Answers ask s before as t) (hr : ask r t = (.error e, u)) (later : List Request) :
    askEach ask (before ++ r :: later) s = (.error e, u) := by
  induction ha with
  | nil s => simp only [List.nil_append, askEach, hr]
  | cons hr' _ ih =>
    simp only [List.cons_append, askEach, hr', ih hr]
    rfl

theorem Asked.unique {out out' : Except Error (List (String × String)) × σ}
    (h : Asked ask xs s out) (h' : Asked ask xs s out') : out' = out := by
  cases h with
  | all hq ha hf =>
    cases h' with
    | all hq' ha' hf' =>
      obtain rfl := hq.unique hq'
      obtain ⟨has, rfl⟩ := Prod.mk.inj ((askEach_of_answers ha).symm.trans (askEach_of_answers ha'))
      obtain rfl := Except.ok.inj has
      rw [hf.unique hf']
    | failed hq' ha' hr =>
      obtain rfl := hq.unique hq'
      cases (askEach_of_answers ha).symm.trans (askEach_of_failed ha' hr _)
  | failed hq ha hr =>
    cases h' with
    | all hq' ha' hf' =>
      obtain rfl := hq'.unique hq
      cases (askEach_of_answers ha').symm.trans (askEach_of_failed ha hr _)
    | failed hq' ha' hr' =>
      -- the lists of questions may be cut differently, but asking them in turn ends in one way
      have hsame := congrArg (askEach ask · s) (hq.unique hq')
      simp only [askEach_of_failed ha hr, askEach_of_failed ha' hr'] at hsame
      obtain ⟨he, rfl⟩ := Prod.mk.inj hsame
      rw [Except.error.inj he]

/-! ### Answers for variables -/

/-- Behind a failed answer nothing is asked, whatever values follow. -/
lemma Asked.append_error {e : Error} (h : Asked ask xs s (.error e, t))
    (xs' : List (String × String)) : Asked ask (xs ++ xs') s (.error e, t) := by
  cases h with
  | failed hq ha hr =>
    -- the values that follow have their questions too, which are never come to
    obtain ⟨rs', hq'⟩ := exists_questions xs'
    have happ := hq.append hq'
    rw [List.append_assoc, List.cons_append] at happ
    exact .failed happ ha hr

/-- Once some values have all their answers, those that follow are asked for. -/
lemma Asked.append (h : Asked ask xs s (.ok ys, t))
    {result : Except Error (List (String × String))} (h' : Asked ask xs' t (result, u)) :
    Asked ask (xs ++ xs') s (result.map (ys ++ ·), u) := by
  cases h with
  | all hq ha hf =>
    cases h' with
    | all hq' ha' hf' => exact .all (hq.append hq') (ha.append ha') (hf.append hf')
    | failed hq' ha' hr =>
      have happ := hq.append hq'
      rw [← List.append_assoc] at happ
      exact .failed happ (ha.append ha') hr

lemma asked_answerValue (ask : Resolver σ) (key v : String) (s : σ) :
    Asked ask [(key, v)] s ((answerValue ask key v s).1.map fun a => [(key, a)],
      (answerValue ask key v s).2) := by
  unfold answerValue
  cases hr : ofValue? key v with
  | none =>
    have hno := ofValue?_eq_none_iff.mp hr
    exact .all (.plain hno .nil) (.nil s) (.plain hno .nil)
  | some r =>
    have hasks := ofValue?_eq_some_iff.mp hr
    show Asked ask _ s ((ask r s).1.map _, (ask r s).2)
    rcases ha : ask r s with ⟨e | a, t⟩
    · have hq : Questions [(key, v)] ([] ++ r :: []) := .asks hasks .nil
      exact .failed hq (.nil s) ha
    · exact .all (.asks hasks .nil) (.cons ha (.nil t)) (.answer hasks .nil)

lemma asked_answerValues (ask : Resolver σ) (key : String) (vs : List String) (s : σ) :
    Asked ask (vs.map fun v => (key, v)) s
      ((answerValues ask key vs s).1.map fun ws => ws.map fun w => (key, w),
        (answerValues ask key vs s).2) := by
  induction vs generalizing s with
  | nil => exact .all .nil (.nil s) .nil
  | cons v vs ih =>
    have hfirst := asked_answerValue ask key v s
    rw [answerValues, List.map_cons, ← List.singleton_append]
    rcases hv : answerValue ask key v s with ⟨e | a, t⟩
    · rw [hv] at hfirst
      exact hfirst.append_error _
    · rw [hv] at hfirst
      have hboth := hfirst.append (ih t)
      rcases hvs : answerValues ask key vs t with ⟨e | ws, u⟩ <;>
        simpa [hvs, Except.map] using hboth

lemma asked_answerPairs (ask : Resolver σ) (ps : List (String × List String)) (s : σ) :
    Asked ask (values ps) s ((answerPairs ask ps s).1.map values, (answerPairs ask ps s).2) := by
  induction ps generalizing s with
  | nil => exact .all .nil (.nil s) .nil
  | cons p ps ih =>
    obtain ⟨key, vs⟩ := p
    have hfirst := asked_answerValues ask key vs s
    rw [answerPairs, values_cons]
    rcases hvs : answerValues ask key vs s with ⟨e | ws, t⟩
    · rw [hvs] at hfirst
      exact hfirst.append_error _
    · rw [hvs] at hfirst
      have hboth := hfirst.append (ih t)
      rcases hps : answerPairs ask ps t with ⟨e | qs, u⟩ <;>
        simpa [hps, Except.map, values_cons] using hboth

lemma length_of_answerValues {key : String} {vs ws : List String}
    (h : answerValues ask key vs s = (.ok ws, t)) : ws.length = vs.length := by
  induction vs generalizing ws s with
  | nil =>
    cases h
    rfl
  | cons v vs ih =>
    rw [answerValues] at h
    rcases hv : answerValue ask key v s with ⟨_ | a, t'⟩
    · simp [hv] at h
    rcases hvs : answerValues ask key vs t' with ⟨_ | ws', u'⟩
    · simp [hv, hvs] at h
    · simp only [hv, hvs] at h
      cases h
      rw [List.length_cons, List.length_cons, ih hvs]

/-- Answers are given for values, so every name keeps as many as it has. -/
lemma shape_of_answerPairs {ps qs : List (String × List String)}
    (h : answerPairs ask ps s = (.ok qs, t)) : shape qs = shape ps := by
  induction ps generalizing qs s with
  | nil =>
    cases h
    rfl
  | cons p ps ih =>
    obtain ⟨key, vs⟩ := p
    rw [answerPairs] at h
    rcases hvs : answerValues ask key vs s with ⟨_ | ws, t'⟩
    · simp [hvs] at h
    rcases hps : answerPairs ask ps t' with ⟨_ | qs', u'⟩
    · simp [hvs, hps] at h
    · simp only [hvs, hps] at h
      cases h
      rw [shape, shape, List.map_cons, List.map_cons, length_of_answerValues hvs]
      exact congrArg _ (ih hps)

lemma pairs_of_answerPairs {vars : Variables} {qs : List (String × List String)}
    (h : answerPairs ask vars.pairs s = (.ok qs, t)) : (Bindings.ofList qs).pairs = qs := by
  have hincreasing : qs.Pairwise fun a b => a.1 < b.1 := by
    have hkeys : (vars.pairs.map (·.1)).Pairwise (· < ·) := List.pairwise_map.mpr vars.increasing
    rw [← keys_of_answerPairs h] at hkeys
    exact List.pairwise_map.mp hkeys
  exact congrArg Bindings.pairs (Bindings.ofList_pairs ⟨qs, hincreasing⟩)

/-- **Variables are asked for value by value,** and get the answers if none fails. -/
theorem asked_answerAll (ask : Resolver σ) (vars : Variables) (s : σ) :
    Asked ask (values vars.pairs) s ((answerAll ask vars s).1.map fun vars' => values vars'.pairs,
      (answerAll ask vars s).2) := by
  have hasked := asked_answerPairs ask vars.pairs s
  unfold answerAll
  rcases hps : answerPairs ask vars.pairs s with ⟨e | qs, t⟩
  · rw [hps] at hasked
    exact hasked
  · rw [hps] at hasked
    show Asked ask _ s (.ok (values (Bindings.ofList qs).pairs), t)
    rw [pairs_of_answerPairs hps]
    exact hasked

lemma shape_of_answerAll {vars vars' : Variables} (h : answerAll ask vars s = (.ok vars', t)) :
    shape vars'.pairs = shape vars.pairs := by
  unfold answerAll at h
  rcases hps : answerPairs ask vars.pairs s with ⟨_ | qs, t'⟩
  · simp [hps] at h
  · simp only [hps] at h
    cases h
    rw [pairs_of_answerPairs hps, shape_of_answerPairs hps]

end Asking

end FleetScript.Host
