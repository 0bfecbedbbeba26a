import FleetScript.Proofs.Text.Cuts
import FleetScript.Proofs.Traversal
import FleetScript.Script

/-!
The grammar of scripts. `Starts` gives the piece that a text starts with, together with the text
behind it, so that a bare name is only a piece where no name character follows; `Spells` takes
pieces one after another. A text that is not spelled to its end comes to an opening brace that is
`Broken`. Reading a script succeeds if all its command lines are spelled with defined names, and
else fails with what is wrong with the first line that is not (`read_iff`).
-/

namespace FleetScript.Script

open Text

/-! ### Pieces of a line -/

/-- The piece that a text starts with, and the text behind it. -/
inductive Starts : List Char → Piece → List Char → Prop where
  | char {c : Char} {rest : List Char} (hc : c ≠ '$') : Starts (c :: rest) (.char c) rest
  | double {rest : List Char} : Starts ('$' :: '$' :: rest) (.char '$') rest
  | bare {name rest : List Char} (h0 : name ≠ []) (hn : ∀ c ∈ name, isNameChar c = true)
    (hr : ∀ c ∈ rest.head?, isNameChar c = false) :
    Starts ('$' :: (name ++ rest)) (.ref (String.ofList name)) rest
  | braced {name rest : List Char} (h0 : name ≠ []) (hn : ∀ c ∈ name, isNameChar c = true) :
    Starts ('$' :: '\x7b' :: (name ++ '\x7d' :: rest)) (.ref (String.ofList name)) rest
  | lone {rest : List Char}
    (hr : ∀ c ∈ rest.head?, c ≠ '$' ∧ c ≠ '\x7b' ∧ isNameChar c = false) :
    Starts ('$' :: rest) (.char '$') rest

/-- The pieces that a text starts with, and the text behind them. -/
inductive Spells : List Char → List Piece → List Char → Prop where
  | done {s : List Char} : Spells s [] s
  | step {s t rest : List Char} {p : Piece} {ps : List Piece} (hp : Starts s p t)
    (hps : Spells t ps rest) : Spells s (p :: ps) rest

/-- What is wrong behind an opening brace: there is no closing one, or what stands before the
first closing one is no name. -/
inductive Broken : List Char → Fault → Prop where
  | unterminated {s : List Char} (h : '\x7d' ∉ s) : Broken s .unterminated
  | invalidName {name rest : List Char} (h : '\x7d' ∉ name)
    (hn : name = [] ∨ ∃ c ∈ name, isNameChar c = false) :
    Broken (name ++ '\x7d' :: rest) (.invalidName (String.ofList name))

/-- The pieces of a text lead to an opening brace with something wrong behind it. -/
def Malformed (s : List Char) (f : Fault) : Prop :=
  ∃ ps t, Spells s ps ('$' :: '\x7b' :: t) ∧ Broken t f

/-! ### Taking pieces -/

lemma not_mem_of_name {name : List Char} (hn : ∀ c ∈ name, isNameChar c = true) :
    '\x7d' ∉ name := fun h => absurd (hn _ h) (by decide)

lemma pieces_brace {rest : List Char} :
    pieces ('$' :: '\x7b' :: rest) = match cut '\x7d' rest with
      | none => .error .unterminated
      | some (name, rest') =>
        if name.isEmpty || !name.all isNameChar then .error (.invalidName (String.ofList name))
        else (pieces rest').map (.ref (String.ofList name) :: ·) := by
  rw [pieces]
  split <;> next h => rw [h]

lemma pieces_of_starts {s t : List Char} {p : Piece} (h : Starts s p t) :
    pieces s = (pieces t).map (p :: ·) := by
  cases h with
  | char hc => rw [pieces] <;> simp [hc]
  | double => rw [pieces]
  | @bare name _ h0 hn hr =>
    obtain ⟨c, cs, rfl⟩ := List.exists_cons_of_ne_nil h0
    have hc : isNameChar c = true := hn c List.mem_cons_self
    -- a bare name goes as far as its characters do, and `Starts` says that none follows
    have hcs := span_append (fun d hd => hn d (List.mem_cons_of_mem c hd)) hr
    rw [List.cons_append, pieces, if_pos hc, hcs.1, hcs.2]
    · rintro rfl; exact absurd hc (by decide)
    · rintro rfl; exact absurd hc (by decide)
  | @braced name _ h0 hn =>
    have hname : (name.isEmpty || !name.all isNameChar) = false := by simpa [h0] using hn
    rw [pieces_brace, cut_append (not_mem_of_name hn)]
    simp only [hname, Bool.false_eq_true, if_false]
  | lone hr =>
    cases t with
    -- a dollar sign in front of nothing that a reference could start with
    | nil => simp [pieces]
    | cons c rest =>
      obtain ⟨h1, h2, h3⟩ := hr c rfl
      rw [pieces, h3]
      · rfl
      · exact h1
      · exact h2

lemma pieces_of_spells {s t : List Char} {ps : List Piece} (h : Spells s ps t) :
    pieces s = (pieces t).map (ps ++ ·) := by
  induction h with
  | done => cases h : pieces _ <;> rfl
  | step hp hps ih =>
    rw [pieces_of_starts hp, ih]
    cases pieces _ <;> rfl

lemma pieces_of_broken {s : List Char} {f : Fault} (h : Broken s f) :
    pieces ('$' :: '\x7b' :: s) = .error f := by
  cases h with
  | unterminated h => rw [pieces_brace, cut_eq_none h]
  | @invalidName name rest h hn =>
    have hname : (name.isEmpty || !name.all isNameChar) = true := by
      rcases hn with rfl | hn
      · rfl
      · simpa using .inr hn
    rw [pieces_brace, cut_append h]
    simp only [hname, if_true]

lemma Malformed.pieces_eq {s : List Char} {f : Fault} (h : Malformed s f) :
    pieces s = .error f := by
  obtain ⟨ps, t, hps, hf⟩ := h
  rw [pieces_of_spells hps, pieces_of_broken hf]
  rfl

/-! ### Every text is spelled or malformed -/

lemma Starts.length_lt {s t : List Char} {p : Piece} (h : Starts s p t) :
    t.length < s.length := by
  cases h <;> simp only [List.length_cons, List.length_append] <;> omega

lemma starts_bare {c : Char} (hc : isNameChar c = true) (s : List Char) :
    ∃ p t, Starts ('$' :: c :: s) p t := by
  have hs : (c :: s).takeWhile isNameChar ≠ [] := by simp [hc]
  have hstart := Starts.bare hs (fun d => List.mem_takeWhile_imp) (head?_dropWhile _ (c :: s))
  rw [List.takeWhile_append_dropWhile] at hstart
  exact ⟨_, _, hstart⟩

lemma starts_or_broken_brace (s : List Char) :
    (∃ p t, Starts ('$' :: '\x7b' :: s) p t) ∨ ∃ f, Broken s f := by
  rcases not_mem_or_eq_append '\x7d' s with h | ⟨name, rest, rfl, h⟩
  · exact .inr ⟨_, .unterminated h⟩
  · by_cases h0 : name = []
    · exact .inr ⟨_, .invalidName h (.inl h0)⟩
    by_cases hn : ∀ c ∈ name, isNameChar c = true
    · exact .inl ⟨_, _, .braced h0 hn⟩
    · exact .inr ⟨_, .invalidName h (.inr (by simpa using hn))⟩

/-- A text that goes on starts with a piece, or with an opening brace that is broken. -/
lemma starts_or_broken {s : List Char} (h : s ≠ []) :
    (∃ p t, Starts s p t) ∨ ∃ t f, s = '$' :: '\x7b' :: t ∧ Broken t f := by
  obtain ⟨c, s, rfl⟩ := List.exists_cons_of_ne_nil h
  by_cases hc : c = '$'
  · subst hc
    cases s with
    | nil => exact .inl ⟨_, _, .lone nofun⟩
    | cons d s =>
      by_cases h1 : d = '$'
      · subst h1
        exact .inl ⟨_, _, .double⟩
      by_cases h2 : d = '\x7b'
      · subst h2
        exact (starts_or_broken_brace s).imp_right fun ⟨f, hf⟩ => ⟨s, f, rfl, hf⟩
      by_cases h3 : isNameChar d = true
      · exact .inl (starts_bare h3 s)
      · -- what follows starts no reference, so the dollar sign stands for itself
        refine .inl ⟨_, _, .lone fun e he => ?_⟩
        obtain rfl := Option.some.inj he
        exact ⟨h1, h2, Bool.eq_false_iff.mpr h3⟩
  · exact .inl ⟨_, _, .char hc⟩

lemma spells_or_malformed (s : List Char) :
    (∃ ps, Spells s ps []) ∨ ∃ f, Malformed s f := by
  induction hn : s.length using Nat.strong_induction_on generalizing s with
  | _ n ih =>
    by_cases h0 : s = []
    · exact .inl ⟨[], h0 ▸ .done⟩
    rcases starts_or_broken h0 with ⟨p, t, hp⟩ | ⟨t, f, rfl, hf⟩
    · rcases ih t.length (hn ▸ hp.length_lt) t rfl with ⟨ps, hps⟩ | ⟨f, ps, u, hps, hf⟩
      · exact .inl ⟨p :: ps, .step hp hps⟩
      · exact .inr ⟨f, p :: ps, u, .step hp hps, hf⟩
    · exact .inr ⟨f, [], t, .done, hf⟩

theorem pieces_eq_ok_iff {s : List Char} {ps : List Piece} :
    pieces s = .ok ps ↔ Spells s ps [] := by
  have hend : ∀ {ps}, Spells s ps [] → pieces s = .ok ps := fun h => by
    rw [pieces_of_spells h, pieces]
    simp [Except.map]
  constructor
  · intro h
    rcases spells_or_malformed s with ⟨qs, hqs⟩ | ⟨f, hf⟩
    · rw [hend hqs] at h
      exact Except.ok.inj h ▸ hqs
    · rw [hf.pieces_eq] at h
      cases h
  · exact hend

theorem pieces_eq_error_iff {s : List Char} {f : Fault} :
    pieces s = .error f ↔ Malformed s f := by
  constructor
  · intro h
    rcases spells_or_malformed s with ⟨qs, hqs⟩ | ⟨g, hg⟩
    · rw [pieces_eq_ok_iff.mpr hqs] at h
      cases h
    · rw [hg.pieces_eq] at h
      exact Except.error.inj h ▸ hg
  · exact Malformed.pieces_eq

/-! ### Command lines -/

/-- The line of a text with the number `n`, counted from 1, is a command line, and reads `l` without
the white space around it. -/
inductive CommandLine (text : List Char) : Nat → List Char → Prop where
  | mk {i : Nat} {raw : List Char} (h : (Text.lines text)[i]? = some raw)
    (h0 : trimChars raw ≠ []) (hc : (trimChars raw).head? ≠ some '#') :
    CommandLine text (i + 1) (trimChars raw)

lemma mem_commandLines_iff {text l : List Char} {n : Nat} :
    (l, n) ∈ commandLines text ↔ CommandLine text n l := by
  unfold commandLines
  simp only [List.mem_filter, List.mem_map, Prod.mk.injEq, Prod.exists,
    List.mk_mem_zipIdx_iff_le_and_getElem?_sub]
  constructor
  · rintro ⟨⟨raw, m, ⟨hm, hraw⟩, rfl, rfl⟩, hl⟩
    obtain ⟨i, rfl⟩ := Nat.exists_eq_add_of_le' hm
    simp only [Bool.and_eq_true, Bool.not_eq_true', List.isEmpty_eq_false_iff,
      decide_eq_true_eq] at hl
    exact .mk hraw hl.1 hl.2
  · rintro ⟨hraw, h0, hc⟩
    exact ⟨⟨_, _, ⟨Nat.le_add_left 1 _, hraw⟩, rfl, rfl⟩, by simp [h0, hc]⟩

lemma increasing_commandLines (text : List Char) :
    (commandLines text).Pairwise fun a b => a.2 < b.2 := by
  have hrange : ((Text.lines text).zipIdx 1).Pairwise fun a b => a.2 < b.2 := by
    have := List.pairwise_lt_range' (s := 1) (n := (Text.lines text).length) 1
    rwa [← List.zipIdx_map_snd, List.pairwise_map] at this
  exact List.Pairwise.filter _ (List.pairwise_map.mpr hrange)

/-! ### Reading lines -/

/-- A line is spelled to its end, with a value for every name in it. -/
def Readable (vars : Variables) (l : List Char) : Prop :=
  ∃ ps, Spells l ps [] ∧ ∀ name, .ref name ∈ ps → vars.contains name = true

/-- What is wrong with the line number `n`: it is malformed, or else a name in it has no value,
and this is the first such name. -/
inductive Faulty (vars : Variables) (n : Nat) (l : List Char) : Error → Prop where
  | malformed {f : Fault} (h : Malformed l f) : Faulty vars n l (.malformed n f)
  | undefined {before after : List Piece} {name : String}
    (h : Spells l (before ++ .ref name :: after) [])
    (hb : ∀ other, .ref other ∈ before → vars.contains other = true)
    (hn : vars.contains name = false) : Faulty vars n l (.undefined n name)

def Piece.name? : Piece → Option String
  | ref name => some name
  | char _ => none

lemma names_eq (line : Line) : line.names = line.pieces.filterMap Piece.name? := by
  unfold Line.names
  congr

lemma name?_eq_some_iff {p : Piece} {name : String} : p.name? = some name ↔ p = .ref name := by
  cases p <;> simp [Piece.name?]

lemma mem_names_iff {line : Line} {name : String} :
    name ∈ line.names ↔ .ref name ∈ line.pieces := by
  simp [names_eq, name?_eq_some_iff]

lemma exists_pieces_of_names {line : Line} {before after : List String} {name : String}
    (h : line.names = before ++ name :: after) :
    ∃ ps qs, line.pieces = ps ++ .ref name :: qs ∧ ∀ other, .ref other ∈ ps → other ∈ before := by
  rw [names_eq] at h
  obtain ⟨ps, rest, hpieces, hps, hrest⟩ := List.filterMap_eq_append_iff.mp h
  obtain ⟨cs, p, qs, rfl, hcs, hp, -⟩ := List.filterMap_eq_cons_iff.mp hrest
  rw [name?_eq_some_iff] at hp
  subst hp
  refine ⟨ps ++ cs, qs, by rw [hpieces, List.append_assoc], fun other ho => ?_⟩
  rcases List.mem_append.mp ho with ho | ho
  · exact hps ▸ List.mem_filterMap.mpr ⟨_, ho, rfl⟩
  · cases hcs _ ho

variable {vars : Variables} {text : List Char} {n : Nat} {line : Line} {e : Error}

lemma readLine_of_readable (h : Spells text line.pieces [])
    (hn : ∀ name ∈ line.names, vars.contains name = true) :
    readLine vars text line.number = .ok line := by
  have hfind : line.names.find? (fun name => !vars.contains name) = none := by
    simpa [List.find?_eq_none] using hn
  unfold readLine
  rw [pieces_eq_ok_iff.mpr h]
  simp only [hfind]

lemma Faulty.readLine_eq (h : Faulty vars n text e) : readLine vars text n = .error e := by
  cases h with
  | malformed h =>
    unfold readLine
    rw [pieces_eq_error_iff.mpr h]
  | @undefined before after name h hb hn =>
    have hfind : (Line.mk n (before ++ .ref name :: after)).names.find?
        (fun name => !vars.contains name) = some name := by
      rw [names_eq, List.filterMap_append, List.find?_eq_some_iff_append]
      refine ⟨by simpa using hn, before.filterMap Piece.name?, after.filterMap Piece.name?, rfl,
        fun other ho => ?_⟩
      obtain ⟨p, hp, hname⟩ := List.mem_filterMap.mp ho
      rw [name?_eq_some_iff] at hname
      simp [hb other (hname ▸ hp)]
    unfold readLine
    rw [pieces_eq_ok_iff.mpr h]
    simp only [hfind]

/-- A line that is spelled to its end lacks a value for the first of some names, or for none. -/
lemma readable_or_faulty (vars : Variables) (n : Nat) (text : List Char) :
    (∃ line : Line, line.number = n ∧ Spells text line.pieces [] ∧
      ∀ name ∈ line.names, vars.contains name = true) ∨ ∃ e, Faulty vars n text e := by
  rcases spells_or_malformed text with ⟨ps, hps⟩ | ⟨f, hf⟩
  · cases hfind : (Line.mk n ps).names.find? fun name => !vars.contains name with
    | none => exact .inl ⟨⟨n, ps⟩, rfl, hps, by simpa [List.find?_eq_none] using hfind⟩
    | some name =>
      obtain ⟨hname, before, after, hnames, hb⟩ := List.find?_eq_some_iff_append.mp hfind
      obtain ⟨qs, rs, rfl, hqs⟩ := exists_pieces_of_names hnames
      refine .inr ⟨_, .undefined hps (fun other ho => ?_) (by simpa using hname)⟩
      simpa using hb other (hqs other ho)
  · exact .inr ⟨_, .malformed hf⟩

theorem readLine_eq_ok_iff : readLine vars text n = .ok line ↔
    line.number = n ∧ Spells text line.pieces [] ∧
      ∀ name ∈ line.names, vars.contains name = true := by
  constructor
  · intro h
    rcases readable_or_faulty vars n text with ⟨line', rfl, hs, hn⟩ | ⟨e, he⟩
    · rw [readLine_of_readable hs hn] at h
      exact Except.ok.inj h ▸ ⟨rfl, hs, hn⟩
    · rw [he.readLine_eq] at h
      cases h
  · rintro ⟨rfl, hs, hn⟩
    exact readLine_of_readable hs hn

theorem readLine_eq_error_iff : readLine vars text n = .error e ↔ Faulty vars n text e := by
  constructor
  · intro h
    rcases readable_or_faulty vars n text with ⟨line', rfl, hs, hn⟩ | ⟨e', he⟩
    · rw [readLine_of_readable hs hn] at h
      cases h
    · rw [he.readLine_eq] at h
      exact Except.error.inj h ▸ he
  · exact Faulty.readLine_eq

lemma readable_iff : (∃ line, readLine vars text n = .ok line) ↔ Readable vars text := by
  simp only [readLine_eq_ok_iff, mem_names_iff]
  exact ⟨fun ⟨line, _, hs, hn⟩ => ⟨line.pieces, hs, hn⟩, fun ⟨ps, hs, hn⟩ => ⟨⟨n, ps⟩, rfl, hs, hn⟩⟩

/-! ### Reading scripts -/

lemma read_eq (source : String) (vars : Variables) : read source vars =
    ((commandLines source.toList).mapM fun x => readLine vars x.1 x.2).map fun lines =>
      { lines, vars } := by
  show ((commandLines source.toList).mapM fun x => readLine vars x.1 x.2) >>=
    (fun lines => pure (Script.mk lines vars)) = _
  cases (commandLines source.toList).mapM fun x => readLine vars x.1 x.2 <;> rfl

/-- A script is read with all its command lines, each as it is read by itself. -/
theorem read_eq_ok_iff {source : String} {s : Script} : read source vars = .ok s ↔
    s.vars = vars ∧ List.Forall₂ (fun x line => readLine vars x.1 x.2 = .ok line)
      (commandLines source.toList) s.lines := by
  rw [read_eq, ← mapM_eq_ok_iff]
  cases (commandLines source.toList).mapM fun x => readLine vars x.1 x.2 with
  | error e => simp [Except.map]
  | ok lines =>
    obtain ⟨lines', vars'⟩ := s
    simp [Except.map, eq_comm, and_comm]

theorem read_eq_error_iff {source : String} : read source vars = .error e ↔
    (commandLines source.toList).mapM (fun x => readLine vars x.1 x.2) = .error e := by
  rw [read_eq]
  cases (commandLines source.toList).mapM fun x => readLine vars x.1 x.2 <;> simp [Except.map]

theorem exists_read_eq_ok_iff {source : String} : (∃ s, read source vars = .ok s) ↔
    ∃ lines, (commandLines source.toList).mapM (fun x => readLine vars x.1 x.2) = .ok lines := by
  rw [read_eq]
  cases (commandLines source.toList).mapM fun x => readLine vars x.1 x.2 <;> simp [Except.map]

/-- Of command lines in their order, those before one are those with a smaller number. -/
lemma mem_before_iff {before after : List (List Char × Nat)} {x y : List Char × Nat}
    (h : (before ++ x :: after).Pairwise fun a b => a.2 < b.2) :
    y ∈ before ↔ y ∈ before ++ x :: after ∧ y.2 < x.2 := by
  obtain ⟨-, hafter, hbefore⟩ := List.pairwise_append.mp h
  constructor
  · exact fun hy => ⟨List.mem_append_left _ hy, hbefore y hy x List.mem_cons_self⟩
  · rintro ⟨hy, hlt⟩
    rcases List.mem_append.mp hy with hy | hy
    · exact hy
    rcases List.mem_cons.mp hy with rfl | hy
    · exact absurd hlt (Nat.lt_irrefl _)
    · exact absurd hlt (Nat.lt_asymm ((List.pairwise_cons.mp hafter).1 y hy))

/-- **A script can be read if all its command lines can.** Otherwise its error is that of the
first command line that cannot. -/
theorem read_iff (source : String) (vars : Variables) :
    ((∃ s, read source vars = .ok s) ↔
      ∀ n l, CommandLine source.toList n l → Readable vars l) ∧
    ∀ e, read source vars = .error e ↔
      ∃ n l, CommandLine source.toList n l ∧ Faulty vars n l e ∧
        ∀ m k, CommandLine source.toList m k → m < n → Readable vars k := by
  constructor
  · rw [exists_read_eq_ok_iff, exists_mapM_eq_ok_iff]
    simp only [readable_iff, Prod.forall, mem_commandLines_iff]
    exact forall_comm
  · intro e
    -- numbers increase, so the lines before one are those with a smaller number
    have hinc := increasing_commandLines source.toList
    rw [read_eq_error_iff, mapM_eq_error_iff]
    simp only [readable_iff, readLine_eq_error_iff, Prod.forall, Prod.exists]
    constructor
    · rintro ⟨before, l, n, after, hlines, hb, he⟩
      refine ⟨n, l, mem_commandLines_iff.mp ?_, he, fun m k hk hm => hb k m ?_⟩
      · rw [hlines]
        exact List.mem_append_right _ List.mem_cons_self
      · rw [hlines] at hinc
        rw [mem_before_iff hinc, ← hlines]
        exact ⟨mem_commandLines_iff.mpr hk, hm⟩
    · rintro ⟨n, l, hl, he, hb⟩
      obtain ⟨before, after, hlines⟩ := List.append_of_mem (mem_commandLines_iff.mpr hl)
      refine ⟨before, l, n, after, hlines, fun k m hk => ?_, he⟩
      rw [hlines] at hinc
      rw [mem_before_iff hinc, ← hlines] at hk
      exact hb m k (mem_commandLines_iff.mp hk.1) hk.2

end FleetScript.Script
