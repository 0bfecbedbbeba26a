import FleetScript.Proofs.Host.Bare

/-!
Names of protocols with white space around them. Such a name is checked without it, but stands with
it in front of the addresses that name no protocol. There a web address is read without control
characters and spaces before it, and without tabs and line ends wherever they stand (`ReadsAs`);
behind any other white space no scheme is found.
-/

namespace FleetScript.Host

open Text

/-! ### Names that are read as schemes -/

/-- Whether a name stands for a protocol in front of an address: nothing but control characters and
spaces come before its scheme, and nothing but tabs and line ends after it. -/
def ReadsAs (name : String) (p : Protocol) : Prop :=
  ∃ a b, name.toList = a ++ p.scheme.toList ++ b ∧ (∀ c ∈ a, c.toNat ≤ 0x20) ∧
    ∀ c ∈ b, c ∈ ['\t', '\n', '\r']

variable {name raw : String} {p : Protocol} {a b : List Char} {c : Char}

lemma eq_append_of_ofName? (h : Protocol.ofName? name = some p) :
    ∃ a b, name.toList = a ++ p.scheme.toList ++ b ∧ (∀ c ∈ a, isBlank c = true) ∧
      ∀ c ∈ b, isBlank c = true := by
  have hscheme : trim name = p.scheme := Protocol.ofScheme?_eq_some_iff.mp h
  obtain ⟨a, b, hname, ha, hb⟩ := exists_append_trimChars name.toList
  refine ⟨a, b, ?_, ha, hb⟩
  rw [← hscheme, trim, String.toList_ofList]
  exact hname

lemma visible_of_mem_scheme : ∀ c ∈ p.scheme.toList, 0x20 < c.toNat := fun c hc =>
  (ascii_of_isSchemeChar ((keepsHosts_scheme p).chars c hc)).1

lemma scheme_ne_nil : p.scheme.toList ≠ [] := by rcases p with _ | _ | _ | _ <;> decide

/-- What comes before an address counts nothing. -/
lemma strip_append_of_control (ha : ∀ c ∈ a, c.toNat ≤ 0x20) (s : List Char) :
    strip (a ++ s) = strip s := by
  have hdrop : (a ++ s).dropWhile (fun c => decide (c.toNat ≤ 0x20)) =
      s.dropWhile (fun c => decide (c.toNat ≤ 0x20)) :=
    List.dropWhile_append_of_pos fun c hc => decide_eq_true (ha c hc)
  unfold strip
  simp only [hdrop]

lemma filter_of_mem (hb : ∀ c ∈ b, c ∈ ['\t', '\n', '\r']) :
    b.filter (fun c => c ≠ '\t' && c ≠ '\n' && c ≠ '\r') = [] := by
  refine List.filter_eq_nil_iff.mpr fun c hc => ?_
  have := hb c hc
  simp only [List.mem_cons, List.not_mem_nil, or_false] at this
  rcases this with rfl | rfl | rfl <;> decide

lemma visible_of_mem_mark : ∀ c ∈ "://".toList, 0x20 < c.toNat := by simp

/-- In front of an address a name that reads as a protocol is as good as the scheme itself. -/
lemma strip_of_readsAs (h : ReadsAs name p) (s : List Char) :
    strip (name.toList ++ "://".toList ++ s) = strip (p.scheme.toList ++ "://".toList ++ s) := by
  obtain ⟨a, b, hname, ha, hb⟩ := h
  have hmark := stripBehind_append (by simp) visible_of_mem_mark b s
  have hmark' := stripBehind_append (by simp) visible_of_mem_mark [] s
  rw [filter_of_mem hb] at hmark
  rw [hname]
  simp only [List.append_assoc]
  rw [strip_append_of_control ha, strip_append scheme_ne_nil visible_of_mem_scheme,
    strip_append scheme_ne_nil visible_of_mem_scheme, hmark]
  exact congrArg _ hmark'.symm

/-! ### Names that are not -/

/-- White space is no part of a scheme, and does not end one. -/
lemma not_scheme_of_isBlank (h : isBlank c = true) : isSchemeChar c = false ∧ c ≠ ':' := by
  refine ⟨Bool.eq_false_iff.mpr fun hc => ?_, ?_⟩
  · obtain ⟨hlo, hhi⟩ := ascii_of_isSchemeChar hc
    rw [isBlank_of_visible hlo hhi] at h
    cases h
  · rintro rfl
    cases h

lemma cutScheme_eq_none (ha : ∀ c ∈ a, isSchemeChar c = true) (hc : isSchemeChar c = false)
    (hcolon : c ≠ ':') (s : List Char) : cutScheme (a ++ c :: s) = none := by
  obtain ⟨-, hdrop⟩ := span_append (b := c :: s) ha (by rintro _ ⟨⟩; exact hc)
  unfold cutScheme
  rw [hdrop]
  split
  · next heq =>
    exact absurd (List.cons.inj heq).1 hcolon
  · rfl

/-- Behind other white space no address is read. -/
lemma cutScheme_of_not_readsAs (h : Protocol.ofName? name = some p) (hno : ¬ReadsAs name p)
    (s : List Char) : cutScheme (strip (name.toList ++ "://".toList ++ s)) = none := by
  obtain ⟨a, b, hname, ha, hb⟩ := eq_append_of_ofName? h
  rw [hname]
  simp only [List.append_assoc]
  by_cases hcontrol : ∀ c ∈ a, c.toNat ≤ 0x20
  · -- what stays behind the scheme is white space
    have hmark := stripBehind_append (by simp) visible_of_mem_mark b s
    rw [strip_append_of_control hcontrol, strip_append scheme_ne_nil visible_of_mem_scheme, hmark]
    cases hkept : b.filter (fun c => c ≠ '\t' && c ≠ '\n' && c ≠ '\r') with
    | nil =>
      refine absurd ⟨a, b, hname, hcontrol, fun c hc => ?_⟩ hno
      have hdropped := List.filter_eq_nil_iff.mp hkept c hc
      simp only [Bool.and_eq_true, decide_eq_true_eq] at hdropped
      by_contra hmem
      simp only [List.mem_cons, List.not_mem_nil, or_false, not_or] at hmem
      exact hdropped ⟨⟨hmem.1, hmem.2.1⟩, hmem.2.2⟩
    | cons c r =>
      have hc : c ∈ b := (List.mem_filter.mp (hkept ▸ List.mem_cons_self)).1
      obtain ⟨hscheme, hcolon⟩ := not_scheme_of_isBlank (hb c hc)
      exact cutScheme_eq_none (keepsHosts_scheme p).chars hscheme hcolon _
  · -- what stays before the scheme is white space
    obtain ⟨c, r, hdrop⟩ : ∃ c r, a.dropWhile (fun c => decide (c.toNat ≤ 0x20)) = c :: r := by
      refine List.exists_cons_of_ne_nil fun hnil => hcontrol fun c hc => ?_
      exact of_decide_eq_true (List.dropWhile_eq_nil_iff.mp hnil c hc)
    have hsplit : a = a.takeWhile (fun c => decide (c.toNat ≤ 0x20)) ++ (c :: r) := by
      rw [← hdrop, List.takeWhile_append_dropWhile]
    have hvisible : 0x20 < c.toNat := by
      have := head?_dropWhile (fun c => decide (c.toNat ≤ 0x20)) a c (by rw [hdrop]; rfl)
      exact Nat.lt_of_not_le (of_decide_eq_false this)
    obtain ⟨hscheme, hcolon⟩ := not_scheme_of_isBlank (ha c (by rw [hsplit]; simp))
    have hfront : ∀ d ∈ a.takeWhile (fun c => decide (c.toNat ≤ 0x20)), d.toNat ≤ 0x20 :=
      fun d hd => by simpa using List.mem_takeWhile_imp hd
    rw [hsplit, List.append_assoc, strip_append_of_control hfront]
    have hstrip := strip_append (List.cons_ne_nil c []) (by simpa using hvisible)
    rw [List.cons_append, ← List.singleton_append, hstrip]
    exact cutScheme_eq_none (List.forall_mem_nil _) hscheme hcolon _

/-! ### Addresses read with such a name -/

/-- An address that names no protocol is read with a name of one just as with the scheme, or else
not at all. -/
theorem parse_of_ofName? (h : Protocol.ofName? name = some p)
    (hmark : ¬"://".toList <:+: trimChars raw.toList) (hfull : trimChars raw.toList ≠ []) :
    (ReadsAs name p → parse raw name = parse raw p.scheme) ∧
      (¬ReadsAs name p → parse raw name = .error (.invalidHost raw (.url .withoutScheme))) := by
  have hempty : (trimChars raw.toList).isEmpty = false :=
    Bool.eq_false_iff.mpr fun e => hfull (List.isEmpty_iff.mp e)
  unfold parse
  rw [read_eq, read_eq, hempty, withProtocol, withProtocol, occurs_eq_false_iff.mpr hmark]
  simp only [Bool.false_eq_true, if_false]
  unfold Url.read
  refine ⟨fun hreads => ?_, fun hno => ?_⟩
  · rw [strip_of_readsAs hreads]
  · rw [cutScheme_of_not_readsAs h hno]
    rfl

end FleetScript.Host
