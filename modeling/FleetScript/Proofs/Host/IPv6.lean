import FleetScript.Proofs.Host.Hostnames
import FleetScript.Proofs.Host.Writing
import Mathlib.Data.List.Chain
import Mathlib.Data.Nat.Digits.Defs

/-!
IPv6 addresses are read back from what is written of them: each piece from its hexadecimal digits,
and the pieces that `::` leaves out as the zeros that they are. So the shortest text of an address
stands for this address and no other.
-/

namespace FleetScript.Host.IPv6

open Text

/-! ### Pieces -/

lemma isHexDigit_of_mem_hex {n : Nat} {c : Char} (h : c ∈ hex n) : isHexDigit c = true := by
  have hdigit : ∀ d < 16, isHexDigit d.digitChar = true := by decide
  by_contra hc
  refine not_mem_hex (fun d hd e => hc ?_) n h
  rw [e]
  exact hdigit d hd

lemma colon_not_mem_hex (n : Nat) : ':' ∉ hex n := not_mem_hex (by decide) n

lemma hex_ne_nil (n : Nat) : hex n ≠ [] := Nat.toDigits_ne_nil

lemma piece?_hex {p : Nat} (hp : p < 65536) : piece? (hex p) = some p := by
  have hlength : (hex p).length ≤ 4 := Nat.toDigits_length 16 p 4 (by decide) hp
  have hall : (hex p).all isHexDigit = true :=
    List.all_eq_true.mpr fun c hc => isHexDigit_of_mem_hex hc
  unfold piece?
  rw [if_pos ⟨hex_ne_nil p, hlength, hall⟩]
  exact congrArg some (numeral_toDigits (by decide) (by decide) p)

lemma groups?_map_hex {ps : List Nat} (hps : ∀ p ∈ ps, p < 65536) (ends : Bool) :
    groups? ends (ps.map hex) = some ps := by
  induction ps with
  | nil => rfl
  | cons p ps ih =>
    obtain ⟨hp, hrest⟩ := List.forall_mem_cons.mp hps
    cases ps with
    | nil =>
      simp only [List.map_cons, List.map_nil, groups?, piece?_hex hp]
    | cons q ps =>
      show (piece? (hex p)).bind (fun p => (groups? ends ((q :: ps).map hex)).bind fun ps =>
        some (p :: ps)) = some (p :: q :: ps)
      rw [piece?_hex hp, ih hrest]
      rfl

/-! ### Runs of pieces -/

lemma fields_writePieces {ps : List Nat} (h0 : ps ≠ []) :
    fields ':' (writePieces ps).toList = ps.map hex := by
  have hne : (ps.map fun p => String.ofList (hex p)) ≠ [] := by simpa using h0
  have hcolon : ∀ s ∈ ps.map fun p => String.ofList (hex p), ':' ∉ s.toList := by
    intro s hs
    obtain ⟨p, -, rfl⟩ := List.mem_map.mp hs
    rw [String.toList_ofList]
    exact colon_not_mem_hex p
  have hfields := fields_joinWith hne hcolon
  rw [List.map_map] at hfields
  refine hfields.trans (List.map_congr_left fun p _ => ?_)
  exact String.toList_ofList

lemma writePieces_ne_nil {ps : List Nat} (h0 : ps ≠ []) : (writePieces ps).toList ≠ [] := by
  intro he
  have hfields := fields_writePieces h0
  rw [he] at hfields
  have hmem : [] ∈ ps.map hex := hfields ▸ List.mem_singleton.mpr rfl
  obtain ⟨p, -, hp⟩ := List.mem_map.mp hmem
  exact hex_ne_nil p hp

lemma run?_writePieces {ps : List Nat} (hps : ∀ p ∈ ps, p < 65536) (ends : Bool) :
    run? ends (writePieces ps).toList = some ps := by
  by_cases h0 : ps = []
  · subst h0
    rfl
  · unfold run?
    rw [if_neg (by simpa using writePieces_ne_nil h0), fields_writePieces h0]
    exact groups?_map_hex hps ends

/-! ### Where the gap is cut -/

/-- Two characters next to each other that are not both colons. -/
def Apart (a b : Char) : Prop := a ≠ ':' ∨ b ≠ ':'

lemma isChain_of_not_mem {s : List Char} (h : ':' ∉ s) : s.IsChain Apart := by
  refine List.Pairwise.isChain (List.pairwise_of_forall_mem_list fun a ha b _ => .inl ?_)
  exact fun e => h (e ▸ ha)

lemma isChain_writePieces (ps : List Nat) : (writePieces ps).toList.IsChain Apart ∧
    (∀ c ∈ (writePieces ps).toList.head?, c ≠ ':') ∧
    ∀ c ∈ (writePieces ps).toList.getLast?, c ≠ ':' := by
  have hends {s : List Char} (h : ':' ∉ s) :
      (∀ c ∈ s.head?, c ≠ ':') ∧ ∀ c ∈ s.getLast?, c ≠ ':' :=
    ⟨fun c hc e => h (e ▸ List.mem_of_mem_head? hc),
      fun c hc e => h (e ▸ List.mem_of_mem_getLast? hc)⟩
  induction ps with
  | nil => exact ⟨.nil, nofun, nofun⟩
  | cons p ps ih =>
    have hhex := colon_not_mem_hex p
    cases ps with
    | nil =>
      have htext : (writePieces [p]).toList = hex p := String.toList_ofList
      rw [htext]
      exact ⟨isChain_of_not_mem hhex, hends hhex⟩
    | cons q ps =>
      obtain ⟨hchain, hhead, hlast⟩ := ih
      have htext : (writePieces (p :: q :: ps)).toList =
          hex p ++ ':' :: (writePieces (q :: ps)).toList := by
        simp [writePieces, joinWith]
      have hfull := writePieces_ne_nil (List.cons_ne_nil q ps)
      rw [htext]
      refine ⟨?_, ?_, ?_⟩
      · -- next to the colon between two pieces there is a digit on either side
        refine List.isChain_append.mpr ⟨isChain_of_not_mem hhex, ?_, fun a ha b _ => ?_⟩
        · exact List.isChain_cons.mpr ⟨fun c hc => .inr (hhead c hc), hchain⟩
        · exact .inl ((hends hhex).2 a ha)
      · rw [List.head?_append_of_ne_nil _ (hex_ne_nil p)]
        exact (hends hhex).1
      · rw [List.getLast?_append_of_ne_nil _ (List.cons_ne_nil _ _),
          List.getLast?_cons_of_ne_nil hfull]
        exact hlast

lemma cutGap_cons {c : Char} {s : List Char} (h : ∀ d ∈ s.head?, Apart c d) :
    cutGap (c :: s) = (cutGap s).map fun (a, b) => (c :: a, b) := by
  rw [cutGap]
  rintro rest rfl rfl
  rcases h ':' rfl with hc | hc <;> exact hc rfl

lemma cutGap_eq_none {s : List Char} (h : s.IsChain Apart) : cutGap s = none := by
  induction s with
  | nil => rfl
  | cons c s ih =>
    obtain ⟨hc, hs⟩ := List.isChain_cons.mp h
    rw [cutGap_cons hc, ih hs]
    rfl

lemma cutGap_append {s : List Char} (h : s.IsChain Apart) (hlast : ∀ c ∈ s.getLast?, c ≠ ':')
    (t : List Char) : cutGap (s ++ ':' :: ':' :: t) = some (s, t) := by
  induction s with
  | nil => rfl
  | cons c s ih =>
    obtain ⟨hc, hs⟩ := List.isChain_cons.mp h
    have hrest : ∀ d ∈ s.getLast?, d ≠ ':' := by
      intro d hd
      refine hlast d ?_
      rw [List.getLast?_cons_of_ne_nil (fun e => by simp [e] at hd)]
      exact hd
    have hnext : ∀ d ∈ (s ++ ':' :: ':' :: t).head?, Apart c d := by
      cases s with
      | nil => exact fun _ _ => .inl (hlast c rfl)
      | cons d s => exact hc
    rw [List.cons_append, cutGap_cons hnext, ih hs hrest]
    rfl

/-! ### The zeros that are left out -/

lemma eq_zeros_append {ps : List Nat} {n : Nat} (h : n ≤ leadingZeros ps) :
    ps = List.replicate n 0 ++ ps.drop n := by
  induction n generalizing ps with
  | zero => rfl
  | succ n ih =>
    cases ps with
    | nil => cases h
    | cons p ps =>
      unfold leadingZeros at h ih
      rw [List.takeWhile_cons] at h
      split at h
      · next hp =>
        have hrest := ih (Nat.le_of_succ_le_succ h)
        rw [List.replicate_succ, List.cons_append, List.drop_succ_cons, ← hrest]
        exact congrArg (· :: ps) (by simpa using hp)
      · cases h

lemma gap_le (ps : List Nat) :
    (longestGap ps).2 ≤ leadingZeros (ps.drop (longestGap ps).1) := by
  unfold longestGap
  refine List.foldlRecOn (motive := fun best : Nat × Nat =>
    best.2 ≤ leadingZeros (ps.drop best.1)) _ _ (Nat.zero_le _) fun best hbest i _ => ?_
  split
  · exact Nat.le_refl _
  · exact hbest

/-! ### Addresses -/

lemma ofPieces?_pieces (a : IPv6) : ofPieces? a.pieces = some a := by
  unfold ofPieces?
  rw [dif_pos a.length_pieces]

lemma read?_gap {a : IPv6} (ha : ∀ p ∈ a.pieces, p < 65536) {high low : List Nat} {n : Nat}
    (hn : 1 ≤ n) (h : a.pieces = high ++ (List.replicate n 0 ++ low)) :
    read? (writePieces high ++ "::" ++ writePieces low).toList = some a := by
  have htext : (writePieces high ++ "::" ++ writePieces low).toList =
      (writePieces high).toList ++ ':' :: ':' :: (writePieces low).toList := by
    simp
  obtain ⟨hchain, -, hlast⟩ := isChain_writePieces high
  have hhigh : run? false (writePieces high).toList = some high :=
    run?_writePieces (fun p hp => ha p (h ▸ List.mem_append_left _ hp)) false
  have hlow : run? true (writePieces low).toList = some low := by
    refine run?_writePieces (fun p hp => ha p (h ▸ ?_)) true
    exact List.mem_append_right _ (List.mem_append_right _ hp)
  have hlength := a.length_pieces
  rw [h, List.length_append, List.length_append, List.length_replicate] at hlength
  -- the gap is as long as the zeros that were left out
  have hshort : high.length + low.length ≤ 7 := by omega
  have hcount : 8 - high.length - low.length = n := by omega
  unfold read?
  rw [htext, cutGap_append hchain hlast]
  simp only [hhigh, hlow, bind, Option.bind_some, if_pos hshort, hcount]
  rw [List.append_assoc, ← h, ofPieces?_pieces]

/-- **A written address is read back.** -/
theorem read?_write {a : IPv6} (ha : ∀ p ∈ a.pieces, p < 65536) :
    read? a.write.toList = some a := by
  unfold write
  by_cases hgap : (longestGap a.pieces).2 < 2
  · have h0 : a.pieces ≠ [] := fun e => by simpa [e] using a.length_pieces
    rw [if_pos hgap]
    unfold read?
    rw [cutGap_eq_none (isChain_writePieces _).1, fields_writePieces h0]
    simp only [groups?_map_hex ha, Option.bind_some, ofPieces?_pieces]
  · rw [if_neg hgap]
    refine read?_gap ha (n := (longestGap a.pieces).2) (by omega) ?_
    rw [← List.drop_drop, ← eq_zeros_append (gap_le a.pieces), List.take_append_drop]

/-! ### Pieces that are read -/

lemma getD_hexValue?_lt (c : Char) : (hexValue? c).getD 0 < 16 := by
  have hle {x y : Char} (h : x ≤ y) : x.toNat ≤ y.toNat := h
  unfold hexValue?
  split
  · next h =>
    have := hle (by simpa using (Bool.and_eq_true_iff.mp h).2 : c ≤ '9')
    exact Nat.lt_of_le_of_lt (Nat.sub_le_sub_right this 48) (by decide)
  split
  · next h =>
    have := hle (by simpa using (Bool.and_eq_true_iff.mp h).2 : c ≤ 'f')
    exact Nat.lt_of_le_of_lt (Nat.sub_le_sub_right this 87) (by decide)
  split
  · next h =>
    have := hle (by simpa using (Bool.and_eq_true_iff.mp h).2 : c ≤ 'F')
    exact Nat.lt_of_le_of_lt (Nat.sub_le_sub_right this 55) (by decide)
  · decide

lemma numeral_lt (s : List Char) : numeral 16 s < 16 ^ s.length := by
  induction s using List.reverseRecOn with
  | nil => decide
  | append_singleton s c ih =>
    have hdigit := getD_hexValue?_lt c
    rw [numeral_concat, List.length_append, List.length_singleton, Nat.pow_succ]
    omega

lemma lt_of_piece? {s : List Char} {p : Nat} (h : piece? s = some p) : p < 65536 := by
  unfold piece? at h
  split at h
  · next hs =>
    obtain rfl := Option.some.inj h
    exact Nat.lt_of_lt_of_le (numeral_lt s) (Nat.pow_le_pow_right (by decide) hs.2.1)
  · cases h

lemma lt_of_octet? {s : List Char} {n : Nat} (h : octet? s = some n) : n < 256 := by
  unfold octet? at h
  split at h
  · next hs =>
    obtain rfl := Option.some.inj h
    exact hs.2.2.2
  · cases h

lemma lt_of_dotted? {s : List Char} {ps : List Nat} (h : dotted? s = some ps) :
    ∀ p ∈ ps, p < 65536 := by
  unfold dotted? at h
  split at h
  · next a b c d hoctets =>
    obtain rfl := Option.some.inj h
    have hmem {n : Nat} (hn : some n ∈ (fields '.' s).map octet?) : n < 256 := by
      obtain ⟨f, -, hf⟩ := List.mem_map.mp hn
      exact lt_of_octet? hf
    rw [hoctets] at hmem
    have ha : a < 256 := hmem (by simp)
    have hb : b < 256 := hmem (by simp)
    have hc : c < 256 := hmem (by simp)
    have hd : d < 256 := hmem (by simp)
    simp only [List.forall_mem_cons, List.not_mem_nil, false_imp_iff, implies_true, and_true]
    omega
  · cases h

lemma lt_of_groups? {ends : Bool} {gs : List (List Char)} {ps : List Nat}
    (h : groups? ends gs = some ps) : ∀ p ∈ ps, p < 65536 := by
  induction gs generalizing ps with
  | nil =>
    obtain rfl := Option.some.inj h
    exact nofun
  | cons g gs ih =>
    cases gs with
    | nil =>
      unfold groups? at h
      split at h
      · next p hp =>
        obtain rfl := Option.some.inj h
        exact List.forall_mem_singleton.mpr (lt_of_piece? hp)
      · split at h
        · exact lt_of_dotted? h
        · cases h
    | cons g' gs =>
      obtain ⟨p, hp, h⟩ := Option.bind_eq_some_iff.mp h
      obtain ⟨qs, hqs, h⟩ := Option.bind_eq_some_iff.mp h
      obtain rfl := Option.some.inj h
      exact List.forall_mem_cons.mpr ⟨lt_of_piece? hp, ih hqs⟩

lemma lt_of_run? {ends : Bool} {s : List Char} {ps : List Nat} (h : run? ends s = some ps) :
    ∀ p ∈ ps, p < 65536 := by
  unfold run? at h
  split at h
  · obtain rfl := Option.some.inj h
    exact nofun
  · exact lt_of_groups? h

lemma pieces_of_ofPieces? {ps : List Nat} {a : IPv6} (h : ofPieces? ps = some a) :
    a.pieces = ps := by
  unfold ofPieces? at h
  split at h
  · exact Option.some.inj h ▸ rfl
  · cases h

lemma lt_of_read? {s : List Char} {a : IPv6} (h : read? s = some a) :
    ∀ p ∈ a.pieces, p < 65536 := by
  unfold read? at h
  split at h
  · obtain ⟨ps, hps, h⟩ := Option.bind_eq_some_iff.mp h
    rw [pieces_of_ofPieces? h]
    exact lt_of_groups? hps
  · obtain ⟨high, hhigh, h⟩ := Option.bind_eq_some_iff.mp h
    obtain ⟨low, hlow, h⟩ := Option.bind_eq_some_iff.mp h
    split at h
    · rw [pieces_of_ofPieces? h]
      refine List.forall_mem_append.mpr ⟨List.forall_mem_append.mpr ⟨lt_of_run? hhigh, ?_⟩,
        lt_of_run? hlow⟩
      intro p hp
      rw [List.eq_of_mem_replicate hp]
      decide
    · cases h

/-- **The text of an address that was read is read as the same address.** -/
theorem read?_write_of_read? {s : List Char} {a : IPv6} (h : read? s = some a) :
    read? a.write.toList = some a :=
  read?_write (lt_of_read? h)

end FleetScript.Host.IPv6
