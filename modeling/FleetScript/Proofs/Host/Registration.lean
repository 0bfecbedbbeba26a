import FleetScript.Proofs.Host.Placeholders

/-!
The registration of hosts, one by one, from a list and from a file. A host is registered if its
address can be read and its query gets all answers (`Enters`); else it is refused, and leaves only
what has become of who was asked (`Refused`). Hosts of a list are registered up to the first that is
refused (`Ends`), so those that stay are the longest part of the list that can be registered
(`Longest`), and nothing that was in the registry before is touched.
-/

namespace FleetScript.Host

open Text

variable {σ : Type}

/-! ### One host -/

/-- A host is registered by someone in a state: its query gets all answers, and its entry holds the
text as it was given and the query with these answers. -/
inductive Enters (ask : Resolver σ) (raw : String) (s : σ) : Entry → σ → Prop where
  | mk {address : Address} {queryVars : Variables} {t : σ}
    (hp : parse raw defaultProtocol = .ok address)
    (ha : Asked ask (values address.vars.pairs) s (.ok (values queryVars.pairs), t))
    (hs : shape queryVars.pairs = shape address.vars.pairs) : Enters ask raw s { raw, queryVars } t

/-- A host is refused: its address cannot be read, for which nothing is asked, or its query does not
get all answers. -/
inductive Refused (ask : Resolver σ) (raw : String) (s : σ) : Error → σ → Prop where
  | invalid {e : Error} (hp : parse raw defaultProtocol = .error e) : Refused ask raw s e s
  | unanswered {address : Address} {e : Error} {t : σ}
    (hp : parse raw defaultProtocol = .ok address)
    (ha : Asked ask (values address.vars.pairs) s (.error e, t)) : Refused ask raw s e t

/-- An intake with more hosts behind those that were registered, and another state of who answers.
Nothing else has changed. -/
def Intake.entered (i : Intake σ) (entries : List Entry) (s : σ) : Intake σ :=
  { i with registry := { i.registry with entries := i.registry.entries ++ entries }, asker := s }

section One

variable {ask : Resolver σ} {raw : String} {s t u : σ} {entry entry' : Entry} {e e' : Error}
  {i : Intake σ}

lemma Enters.unique (h : Enters ask raw s entry t) (h' : Enters ask raw s entry' u) :
    entry' = entry ∧ u = t := by
  cases h with
  | mk hp ha hs =>
    cases h' with
    | mk hp' ha' hs' =>
      obtain rfl := Except.ok.inj (hp.symm.trans hp')
      obtain ⟨hvalues, rfl⟩ := Prod.mk.inj (ha.unique ha')
      rw [eq_of_values (Except.ok.inj hvalues) (hs'.trans hs.symm)]
      exact ⟨rfl, rfl⟩

lemma Refused.unique (h : Refused ask raw s e t) (h' : Refused ask raw s e' u) :
    e' = e ∧ u = t := by
  cases h with
  | invalid hp =>
    cases h' with
    | invalid hp' => exact ⟨Except.error.inj (hp'.symm.trans hp), rfl⟩
    | unanswered hp' _ => cases hp.symm.trans hp'
  | unanswered hp ha =>
    cases h' with
    | invalid hp' => cases hp.symm.trans hp'
    | unanswered hp' ha' =>
      obtain rfl := Except.ok.inj (hp.symm.trans hp')
      obtain ⟨he, rfl⟩ := Prod.mk.inj (ha.unique ha')
      exact ⟨Except.error.inj he, rfl⟩

lemma Enters.not_refused (h : Enters ask raw s entry t) : ¬Refused ask raw s e u := by
  intro h'
  cases h with
  | mk hp ha _ =>
    cases h' with
    | invalid hp' => cases hp.symm.trans hp'
    | unanswered hp' ha' =>
      obtain rfl := Except.ok.inj (hp.symm.trans hp')
      cases (Prod.mk.inj (ha.unique ha')).1

lemma enters_or_refused (ask : Resolver σ) (raw : String) (i : Intake σ) :
    (∃ entry t, Enters ask raw i.asker entry t ∧
        Intake.addHost ask raw i = (.ok (), i.entered [entry] t)) ∨
      ∃ e t, Refused ask raw i.asker e t ∧
        Intake.addHost ask raw i = (.error e, { i with asker := t }) := by
  unfold Intake.addHost
  cases hp : parse raw defaultProtocol with
  | error e => exact .inr ⟨e, i.asker, .invalid hp, rfl⟩
  | ok address =>
    have hasked := asked_answerAll ask address.vars i.asker
    rcases hq : answerAll ask address.vars i.asker with ⟨e | queryVars, t⟩
    · rw [hq] at hasked
      exact .inr ⟨e, t, .unanswered hp hasked, by simp only [hq]⟩
    · rw [hq] at hasked
      exact .inl ⟨_, t, .mk hp hasked (shape_of_answerAll hq), by simp only [hq]; rfl⟩

/-- **Registering a host** puts its entry behind all others if it enters, and only then. -/
theorem addHost_eq_ok_iff :
    Intake.addHost ask raw i = (.ok (), i.entered [entry] t) ↔ Enters ask raw i.asker entry t := by
  rcases enters_or_refused ask raw i with ⟨entry', t', henters, hadd⟩ | ⟨e, u, hrefused, hadd⟩
  · rw [hadd]
    constructor
    · intro h
      obtain ⟨-, hi⟩ := Prod.mk.inj h
      have hentries := congrArg (·.registry.entries) hi
      obtain rfl := congrArg Intake.asker hi
      obtain rfl := List.head_eq_of_cons_eq (List.append_cancel_left hentries)
      exact henters
    · intro h
      obtain ⟨rfl, rfl⟩ := h.unique henters
      rfl
  · rw [hadd]
    constructor
    · intro h
      cases (Prod.mk.inj h).1
    · exact fun h => absurd hrefused h.not_refused

/-- A host that is refused leaves the registry as it is. -/
theorem addHost_eq_error_iff :
    Intake.addHost ask raw i = (.error e, { i with asker := t }) ↔ Refused ask raw i.asker e t := by
  rcases enters_or_refused ask raw i with ⟨entry', t', henters, hadd⟩ | ⟨e', u, hrefused, hadd⟩
  · rw [hadd]
    constructor
    · intro h
      cases (Prod.mk.inj h).1
    · exact fun h => absurd h henters.not_refused
  · rw [hadd]
    constructor
    · intro h
      obtain ⟨he, hi⟩ := Prod.mk.inj h
      obtain rfl := Except.error.inj he
      obtain rfl := congrArg Intake.asker hi
      exact hrefused
    · intro h
      obtain ⟨rfl, rfl⟩ := h.unique hrefused
      rfl

end One

/-! ### Lists of hosts -/

/-- Hosts are registered one after another, each by whom the ones before have left. -/
inductive EnterAll (ask : Resolver σ) : List String → σ → List Entry → σ → Prop where
  | nil (s : σ) : EnterAll ask [] s [] s
  | cons {raw : String} {raws : List String} {entry : Entry} {entries : List Entry} {s t u : σ}
    (h : Enters ask raw s entry t) (hrest : EnterAll ask raws t entries u) :
    EnterAll ask (raw :: raws) s (entry :: entries) u

/-- How the registration of a list ends: all hosts are registered, or those before one that is
refused, with whose error it ends. -/
inductive Ends (ask : Resolver σ) (i : Intake σ) :
    List String → List String → Except Error Unit × Intake σ → Prop where
  | all {raws : List String} {entries : List Entry} {s : σ}
    (h : EnterAll ask raws i.asker entries s) : Ends ask i raws raws (.ok (), i.entered entries s)
  | upTo {done later : List String} {raw : String} {entries : List Entry} {e : Error} {s t : σ}
    (h : EnterAll ask done i.asker entries s) (hr : Refused ask raw s e t) :
    Ends ask i (done ++ raw :: later) done (.error e, i.entered entries t)

/-- The beginnings of a list of hosts that can be registered are those of `done`. -/
def Longest (ask : Resolver σ) (i : Intake σ) (raws done : List String) : Prop :=
  ∀ front, front <+: raws → ((Intake.addHosts ask front i).1 = .ok () ↔ front <+: done)

section Lists

variable {ask : Resolver σ} {raw : String} {raws done : List String} {t : σ} {entry : Entry}
  {i : Intake σ} {out : Except Error Unit × Intake σ}

lemma entered_nil (i : Intake σ) (s : σ) : i.entered [] s = { i with asker := s } := by
  rw [Intake.entered, List.append_nil]

lemma entered_entered (i : Intake σ) (entries more : List Entry) (s t : σ) :
    (i.entered entries s).entered more t = i.entered (entries ++ more) t := by
  simp only [Intake.entered, List.append_assoc]

lemma Ends.cons (h : Enters ask raw i.asker entry t)
    (hrest : Ends ask (i.entered [entry] t) raws done out) :
    Ends ask i (raw :: raws) (raw :: done) out := by
  cases hrest with
  | all hall =>
    rw [entered_entered]
    exact .all (.cons h hall)
  | upTo hall hr =>
    rw [entered_entered]
    exact .upTo (.cons h hall) hr

lemma Longest.cons {j : Intake σ} (hadd : Intake.addHost ask raw i = (.ok (), j))
    (h : Longest ask j raws done) : Longest ask i (raw :: raws) (raw :: done) := by
  intro front hfront
  cases front with
  | nil => exact iff_of_true rfl List.nil_prefix
  | cons first front =>
    obtain ⟨rfl, hrest⟩ := List.cons_prefix_cons.mp hfront
    simp only [Intake.addHosts, hadd, List.cons_prefix_cons, true_and]
    exact h front hrest

/-- No list can be registered that starts with a host that is refused. -/
lemma longest_of_error {e : Error} {j : Intake σ}
    (hadd : Intake.addHost ask raw i = (.error e, j)) : Longest ask i (raw :: raws) [] := by
  intro front hfront
  cases front with
  | nil => exact iff_of_true rfl List.nil_prefix
  | cons first front =>
    obtain ⟨rfl, -⟩ := List.cons_prefix_cons.mp hfront
    refine iff_of_false ?_ fun h => nomatch List.prefix_nil.mp h
    simp only [Intake.addHosts, hadd]
    exact nofun

/-- The hosts of a list are registered up to the first that is refused. -/
theorem ends_addHosts (ask : Resolver σ) (raws : List String) (i : Intake σ) :
    ∃ done, Ends ask i raws done (Intake.addHosts ask raws i) ∧ Longest ask i raws done := by
  induction raws generalizing i with
  | nil =>
    have hall : Ends ask i [] [] (.ok (), i.entered [] i.asker) := .all (.nil _)
    rw [entered_nil] at hall
    refine ⟨[], hall, fun front hfront => iff_of_true ?_ hfront⟩
    rw [List.prefix_nil.mp hfront]
    rfl
  | cons raw raws ih =>
    -- the induction is over the hosts, with the registry and the resolver as they are by then
    rcases enters_or_refused ask raw i with ⟨entry, t, henters, hadd⟩ | ⟨e, t, hrefused, hadd⟩
    · obtain ⟨done, hends, hlongest⟩ := ih (i.entered [entry] t)
      refine ⟨raw :: done, ?_, hlongest.cons hadd⟩
      simp only [Intake.addHosts, hadd]
      exact hends.cons henters
    · have hends : Ends ask i ([] ++ raw :: raws) [] (.error e, i.entered [] t) :=
        .upTo (.nil _) hrefused
      rw [entered_nil] at hends
      refine ⟨[], ?_, longest_of_error hadd⟩
      simp only [Intake.addHosts, hadd]
      exact hends

end Lists

/-! ### Files -/

/-- The hosts that the lines of a file name, one each: the line without white space at its ends. A
blank line names none. -/
inductive Names : List (List Char) → List String → Prop where
  | nil : Names [] []
  | blank {l : List Char} {ls : List (List Char)} {raws : List String}
    (hl : ∀ c ∈ l, isBlank c = true) (h : Names ls raws) : Names (l :: ls) raws
  | host {l : List Char} {ls : List (List Char)} {raw : String} {raws : List String}
    (hl : Trimmed l raw.toList) (h0 : raw ≠ "") (h : Names ls raws) : Names (l :: ls) (raw :: raws)

lemma names_listed (text : List Char) : Names (lines text) (Intake.listed text) := by
  unfold Intake.listed
  induction lines text with
  | nil => exact .nil
  | cons l ls ih =>
    have htrim := trimmed_trimChars l
    rw [List.map_cons, List.filter_cons]
    cases hl : trimChars l with
    | nil =>
      rw [hl] at htrim
      obtain ⟨-, a, b, rfl, ha, hb⟩ := htrim
      rw [List.append_nil] at *
      exact .blank (List.forall_mem_append.mpr ⟨ha, hb⟩) ih
    | cons c rest =>
      rw [hl] at htrim
      exact .host (by simpa using htrim) (by simp) ih

/-- **What registering hosts comes to,** whoever answers. A host is registered exactly if its
address can be read and all questions of its query are answered, which are asked in the order of the
names; else it leaves nothing in the registry. Of a list, and of the hosts that a file names, those
before the first that is refused are registered. A file that cannot be read changes nothing. -/
theorem registered_up_to_refusal (ask : Resolver σ) (i : Intake σ) :
    (∀ raw,
      (∀ entry t, Intake.addHost ask raw i = (.ok (), i.entered [entry] t) ↔
        Enters ask raw i.asker entry t) ∧
      (∀ e t, Intake.addHost ask raw i = (.error e, { i with asker := t }) ↔
        Refused ask raw i.asker e t) ∧
      ((∃ entry t, Enters ask raw i.asker entry t) ∨ ∃ e t, Refused ask raw i.asker e t)) ∧
    (∀ (vars : Variables) rs, Questions (values vars.pairs) rs →
      rs.Pairwise fun r r' => r.key ≤ r'.key) ∧
    (∀ raws, ∃ done, Ends ask i raws done (Intake.addHosts ask raws i) ∧
      Longest ask i raws done) ∧
    ∀ disk path,
      (∀ e, Intake.readList disk path = .error e → Intake.addFile ask disk path i = (.error e, i)) ∧
      ∀ text, Intake.readList disk path = .ok text →
        ∃ raws done, Names (lines text.toList) raws ∧
          Ends ask i raws done (Intake.addFile ask disk path i) ∧ Longest ask i raws done := by
  refine ⟨fun raw => ⟨fun entry t => addHost_eq_ok_iff, fun e t => addHost_eq_error_iff, ?_⟩,
    fun vars rs h => h.pairwise (pairwise_values vars), fun raws => ends_addHosts ask raws i,
    fun disk path => ⟨fun e he => ?_, fun text htext => ?_⟩⟩
  · rcases enters_or_refused ask raw i with ⟨entry, t, h, -⟩ | ⟨e, t, h, -⟩
    · exact .inl ⟨entry, t, h⟩
    · exact .inr ⟨e, t, h⟩
  · unfold Intake.addFile
    rw [he]
  · have hadd : Intake.addFile ask disk path i =
        Intake.addHosts ask (Intake.listed text.toList) i := by
      unfold Intake.addFile
      rw [htext]
    obtain ⟨done, hends, hlongest⟩ := ends_addHosts ask (Intake.listed text.toList) i
    exact ⟨_, done, names_listed _, hadd ▸ hends, hlongest⟩

/-- A file with blank lines, a value that is no placeholder although it stands in braces, and
someone who answers two questions. The host with the third one is refused, and its other question
and the host behind it are never come to. -/
theorem registered_up_to_third_question :
    let ask : Resolver (List Request) := fun r asked =>
      (match asked with
        | [] => .ok "one"
        | [_] => .ok "two"
        | _ => .error (.unanswered r.key "no more"), asked ++ [r])
    let text := "\n  r1?b=\x7b\x7d&a=1&a=\x7b pin \x7d \r\n\nr2?c=\x7ba\x7db\x7d\n" ++
      "r3?d=\x7bx\x7d&e=\x7by\x7d\nr4\n"
    let disk := ({} : Disk).withFile "hosts" (toBytes text)
    let i : Intake (List Request) := { registry := {}, asker := [] }
    let out := Intake.addFile ask disk "hosts" i
    (∃ raws done, Names (lines text.toList) raws ∧ Ends ask i raws done out ∧
      Longest ask i raws done) ∧
      out.1 = .error (.unanswered "d" "no more") ∧
      out.2.registry.entries =
        [{ raw := "r1?b=\x7b\x7d&a=1&a=\x7b pin \x7d"
           queryVars := .ofList [("a", ["1", "one"]), ("b", ["two"])] },
          { raw := "r2?c=\x7ba\x7db\x7d", queryVars := .ofList [("c", ["\x7ba\x7db\x7d"])] }] ∧
      out.2.asker =
        [{ key := "a", label := "pin" }, { key := "b", label := "a value for \"b\"" },
          { key := "d", label := "x" }] := by
  intro ask text disk i out
  have htext : Intake.readList disk "hosts" = .ok text := by decide +kernel
  obtain ⟨-, -, -, hfile⟩ := registered_up_to_refusal ask i
  refine ⟨(hfile disk "hosts").2 text htext, ?_⟩
  decide +kernel

end FleetScript.Host
