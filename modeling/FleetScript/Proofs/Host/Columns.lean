import FleetScript.Proofs.Host.Table
import Mathlib.Data.List.Forall2

/-!
What rows of a table leave behind when none of them fails: one entry for each row that starts a
group of rows of one host, and for each column of each host the cells of the host's rows in their
order. Columns of one name give their cells to one variable, each row those of all of them.
-/

namespace FleetScript.Host

/-! ### Answers -/

section Answers

variable {σ : Type} {ask : Resolver σ}

lemma keys_of_answerPairs {ps qs : List (String × List String)} {s s' : σ}
    (h : answerPairs ask ps s = (.ok qs, s')) : qs.map (·.1) = ps.map (·.1) := by
  induction ps generalizing qs s with
  | nil =>
    cases h
    rfl
  | cons p ps ih =>
    obtain ⟨k, vs⟩ := p
    rw [answerPairs] at h
    rcases hvs : answerValues ask k vs s with ⟨_ | as, t⟩
    · rw [hvs] at h
      cases h
    rcases hps : answerPairs ask ps t with ⟨_ | rest, u⟩
    · simp only [hvs, hps] at h
      cases h
    · simp only [hvs, hps] at h
      cases h
      rw [List.map_cons, List.map_cons, ih hps]

/-- Answers are given for values, so the names stay. -/
lemma get?_of_answerAll {vars vars' : Variables} {s s' : σ}
    (h : answerAll ask vars s = (.ok vars', s')) {k : String} (hk : vars.get? k = none) :
    vars'.get? k = none := by
  unfold answerAll at h
  rcases hps : answerPairs ask vars.pairs s with ⟨_ | ps, t⟩
  · rw [hps] at h
    cases h
  · rw [hps] at h
    cases h
    rw [Bindings.get?_ofList, Bindings.lookup_eq_none_iff, List.map_reverse, List.mem_reverse,
      keys_of_answerPairs hps]
    exact Bindings.lookup_eq_none_iff.mp hk

end Answers

namespace Table

/-! ### Rows of a host -/

/-- The host that a text names. -/
def hostOf? (raw : String) : Option String :=
  (parse raw defaultProtocol).toOption.map (·.hostname)

def Row.hostname? (row : Row) : Option String := hostOf? row.raw

/-- The rows of a host. -/
def rowsOf (h : String) (rows : List Row) : List Row := rows.filter (·.hostname? = some h)

/-- The rows that start a group: those of another host than the row before. -/
def starts (last : Option String) : List Row → List Row
  | [] => []
  | row :: rows =>
    if row.hostname? = last then starts last rows else row :: starts row.hostname? rows

/-- The cell of a row in a column; a short row has the empty text there. -/
def Row.cell (names : List String) (row : Row) (name : String) : String :=
  row.cells[names.idxOf name]?.getD ""

def Row.cellsIn (names : List String) (row : Row) (name : String) : List String :=
  (names.idxsOf name).map fun n => row.cells[n]?.getD ""

/-- A variable with more values at the end; one without values stays so if it gets none. -/
def extend (old : Option (List String)) (values : List String) : Option (List String) :=
  if values = [] then old else some (old.getD [] ++ values)

lemma hostname?_of_parse {row : Row} {address : Address}
    (h : parse row.raw defaultProtocol = .ok address) : row.hostname? = some address.hostname := by
  rw [Row.hostname?, hostOf?, h]
  rfl

lemma parse_of_hostname? {row : Row} {h : String} (hr : row.hostname? = some h) :
    ∃ address, parse row.raw defaultProtocol = .ok address ∧ address.hostname = h := by
  unfold Row.hostname? hostOf? at hr
  cases ha : parse row.raw defaultProtocol with
  | error e =>
    rw [ha] at hr
    cases hr
  | ok address =>
    rw [ha] at hr
    exact ⟨address, rfl, Option.some.inj hr⟩

lemma mem_of_mem_starts {last : Option String} {rows : List Row} {row : Row}
    (h : row ∈ starts last rows) : row ∈ rows := by
  induction rows generalizing last with
  | nil => exact h
  | cons first rows ih =>
    rw [starts] at h
    split at h
    · exact List.mem_cons_of_mem _ (ih h)
    · rcases List.mem_cons.mp h with rfl | h
      · exact List.mem_cons_self
      · exact List.mem_cons_of_mem _ (ih h)

/-- The host of the last row, or of the row before all if there is none. -/
def lastHost (last : Option String) : List Row → Option String
  | [] => last
  | row :: rows => lastHost row.hostname? rows

lemma starts_append (last : Option String) (before after : List Row) :
    starts last (before ++ after) = starts last before ++ starts (lastHost last before) after := by
  induction before generalizing last with
  | nil => rfl
  | cons row before ih =>
    rw [List.cons_append, starts, starts, lastHost]
    split
    · next hr => rw [ih, hr]
    · rw [ih, List.cons_append]

lemma lastHost_eq_or_mem (last : Option String) (rows : List Row) :
    lastHost last rows = last ∨ ∃ row ∈ rows, lastHost last rows = row.hostname? := by
  induction rows generalizing last with
  | nil => exact .inl rfl
  | cons row rows ih =>
    rw [lastHost]
    rcases ih row.hostname? with h | ⟨row', hr, h⟩
    · exact .inr ⟨row, List.mem_cons_self, h⟩
    · exact .inr ⟨row', List.mem_cons_of_mem _ hr, h⟩

lemma starts_of_forall {last : Option String} {rows : List Row}
    (h : ∀ row ∈ rows, row.hostname? = last) :
    starts last rows = [] ∧ lastHost last rows = last := by
  induction rows with
  | nil => exact ⟨rfl, rfl⟩
  | cons row rows ih =>
    have hr := h row List.mem_cons_self
    rw [starts, lastHost, if_pos hr, hr]
    exact ih fun row hr => h row (List.mem_cons_of_mem _ hr)

/-- Rows of one host that stand next to each other start one group. -/
lemma starts_group {h : String} {before after rest : List Row} {first : Row}
    (hfirst : first.hostname? = some h) (hrest : ∀ row ∈ rest, row.hostname? = some h)
    (hbefore : ∀ row ∈ before, row.hostname? ≠ some h) :
    starts none (before ++ first :: rest ++ after) =
      starts none before ++ first :: starts (some h) after := by
  have hlast : first.hostname? ≠ lastHost none before := by
    rw [hfirst]
    rcases lastHost_eq_or_mem none before with hl | ⟨row, hr, hl⟩
    · rw [hl]
      exact Option.some_ne_none h
    · rw [hl]
      exact (hbefore row hr).symm
  obtain ⟨hstarts, hlast'⟩ := starts_of_forall hrest
  rw [List.append_assoc, starts_append, List.cons_append, starts, if_neg hlast, hfirst,
    starts_append, hstarts, hlast', List.nil_append]

/-! ### Values of columns -/

@[simp] lemma extend_nil (old : Option (List String)) : extend old [] = old := if_pos rfl

@[simp] lemma getD_extend (old : Option (List String)) (values : List String) :
    (extend old values).getD [] = old.getD [] ++ values := by
  unfold extend
  split <;> simp_all

lemma extend_extend (old : Option (List String)) (values more : List String) :
    extend (extend old values) more = extend old (values ++ more) := by
  unfold extend
  by_cases hv : values = [] <;> by_cases hm : more = [] <;> simp [hv, hm]

@[simp] lemma length_cellsIn (names : List String) (row : Row) (name : String) :
    (row.cellsIn names name).length = names.count name := by
  rw [Row.cellsIn, List.length_map, List.length_idxsOf]

lemma idxsOf_cons_eq (n : String) (names : List String) (name : String) :
    (n :: names).idxsOf name =
      (if n = name then [0] else []) ++ (names.idxsOf name).map (· + 1) := by
  rw [List.idxsOf_cons, List.idxsOf_start]
  by_cases hname : n = name <;> simp [hname]

lemma cellsIn_of_nodup {names : List String} (hn : names.Nodup) (row : Row) (name : String) :
    row.cellsIn names name = if name ∈ names then [row.cell names name] else [] := by
  have hidxs : names.idxsOf name = if name ∈ names then [names.idxOf name] else [] := by
    induction names with
    | nil => rfl
    | cons n names ih =>
      obtain ⟨hnot, hrest⟩ := List.nodup_cons.mp hn
      rw [idxsOf_cons_eq, ih hrest]
      by_cases hname : n = name
      · subst hname
        simp [hnot]
      · have hne : name ≠ n := Ne.symm hname
        by_cases hmem : name ∈ names <;> simp [hname, hne, hmem, List.idxOf_cons_ne _ hname]
  unfold Row.cellsIn Row.cell
  rw [hidxs]
  split <;> rfl

lemma hostValues?_appendCells (names : List String) (s : Scopes) (hostname : String)
    (cells : List String) (h name : String) :
    (appendCells hostname names cells s).hostValues? h name =
      if h = hostname then
        extend (s.hostValues? h name) ((names.idxsOf name).map fun n => cells[n]?.getD "")
      else s.hostValues? h name := by
  induction names generalizing cells s with
  | nil => simp [appendCells]
  | cons n names ih =>
    rw [appendCells, ih, Scopes.hostValues?_append, idxsOf_cons_eq]
    by_cases hh : h = hostname
    · subst hh
      by_cases hname : n = name
      · subst hname
        have hfirst (value : String) :
            some ((s.hostValues? h n).getD [] ++ [value]) = extend (s.hostValues? h n) [value] :=
          rfl
        simp [hfirst, extend_extend, List.head?_eq_getElem?, Function.comp_def]
      · simp [hname, Ne.symm hname, Function.comp_def]
    · simp [hh]

lemma globals_appendCells (hostname : String) (names cells : List String) (s : Scopes) :
    (appendCells hostname names cells s).globals = s.globals := by
  induction names generalizing cells s with
  | nil => rfl
  | cons name names ih =>
    rw [appendCells, ih]
    rfl

section Rows

variable {σ : Type} {ask : Resolver σ} {path : String} {names seen seen' : List String}
  {row : Row} {rows : List Row} {i j : Intake σ}

/-- What an entry holds that is registered for a row. -/
def Registers (ask : Resolver σ) (row : Row) (entry : Entry) : Prop :=
  entry.raw = row.raw ∧ ∃ address s s', parse row.raw defaultProtocol = .ok address ∧
    answerAll ask address.vars s = (.ok entry.queryVars, s')

/-- The query of a row gets all the answers that it asks for. -/
def Answered (ask : Resolver σ) (row : Row) : Prop :=
  ∀ address, parse row.raw defaultProtocol = .ok address →
    ∀ s, ∃ queryVars s', answerAll ask address.vars s = (.ok queryVars, s')

lemma Took.hostname?_eq (ht : Took ask path names seen row i seen' j) :
    seen'.head? = row.hostname? := by
  cases ht with
  | again ha hs => rw [hostname?_of_parse ha, hs]
  | first ha hs hq => rw [hostname?_of_parse ha, List.head?_cons]

/-- A row of the host before it registers nothing, and any other an entry with the answers to its
query. -/
lemma Took.registers (ht : Took ask path names seen row i seen' j) :
    if row.hostname? = seen.head? then
      j.registry.entries = i.registry.entries ∧ j.asker = i.asker
    else ∃ address queryVars, parse row.raw defaultProtocol = .ok address ∧
      answerAll ask address.vars i.asker = (.ok queryVars, j.asker) ∧
        j.registry.entries = i.registry.entries ++ [{ raw := row.raw, queryVars }] := by
  cases ht with
  | again ha hs =>
    rw [if_pos (by rw [hostname?_of_parse ha, hs])]
    exact ⟨rfl, rfl⟩
  | @first address queryVars s ha hs hq =>
    rw [if_neg (by rw [hostname?_of_parse ha]; exact Ne.symm hs)]
    exact ⟨address, queryVars, ha, hq, by simp [give, register]⟩

lemma Took.scopes (ht : Took ask path names seen row i seen' j) :
    ∃ g, row.hostname? = some g ∧
      j.registry.scopes = appendCells g names row.cells i.registry.scopes := by
  cases ht with
  | again ha hs => exact ⟨_, hostname?_of_parse ha, rfl⟩
  | first ha hs hq => exact ⟨_, hostname?_of_parse ha, by simp [give, register]⟩

lemma Took.hostValues? (ht : Took ask path names seen row i seen' j) (h name : String) :
    j.registry.scopes.hostValues? h name = extend (i.registry.scopes.hostValues? h name)
      (if row.hostname? = some h then row.cellsIn names name else []) := by
  obtain ⟨g, hg, hj⟩ := ht.scopes
  rw [hj, hostValues?_appendCells, hg]
  by_cases hh : h = g
  · simp [hh, Row.cellsIn]
  · simp [hh, Ne.symm hh]

lemma Took.globals (ht : Took ask path names seen row i seen' j) :
    j.registry.scopes.globals = i.registry.scopes.globals := by
  obtain ⟨g, -, hj⟩ := ht.scopes
  rw [hj, globals_appendCells]

/-! ### Runs of rows -/

lemma takeRow_ok (i : Intake σ) (hr : row.hostname?.isSome)
    (hask : row.hostname? = seen.head? ∨ Answered ask row) :
    ∃ seen' j, takeRow ask path names seen row i = (.ok seen', j) := by
  obtain ⟨h, hh⟩ := Option.isSome_iff_exists.mp hr
  obtain ⟨address, ha, rfl⟩ := parse_of_hostname? hh
  unfold takeRow
  rw [ha]
  by_cases hs : seen.head? = some address.hostname
  · exact ⟨_, _, if_pos hs⟩
  · obtain ⟨queryVars, s, hq⟩ := (hask.resolve_left fun e => hs (e ▸ hh)) address ha
      (warn path seen address.hostname i).asker
    unfold Intake.addHost
    simp only [if_neg hs, ha, hq]
    exact ⟨_, _, rfl⟩

/-- No row fails if all can be read and those that start a group get their answers. -/
theorem takeRows_ok (i : Intake σ) (hrows : ∀ row ∈ rows, row.hostname?.isSome)
    (hask : ∀ row ∈ starts seen.head? rows, Answered ask row) :
    ∃ seen' j, takeRows ask path names seen rows i = (.ok seen', j) := by
  induction rows generalizing seen i with
  | nil => exact ⟨seen, i, rfl⟩
  | cons row rows ih =>
    -- a row that goes on with a group asks nothing
    have hfirst : row.hostname? = seen.head? ∨ Answered ask row := by
      by_cases hs : row.hostname? = seen.head?
      · exact .inl hs
      · refine .inr (hask row ?_)
        rw [starts, if_neg hs]
        exact List.mem_cons_self
    obtain ⟨seen₁, i₁, h₁⟩ : ∃ seen₁ i₁, takeRow ask path names seen row i = (.ok seen₁, i₁) :=
      takeRow_ok i (hrows row List.mem_cons_self) hfirst
    have hhead := (took_of_takeRow h₁).hostname?_eq
    rw [takeRows, h₁]
    -- whether the next row starts a group depends on the host of this one
    refine ih i₁ (fun row hr => hrows row (List.mem_cons_of_mem _ hr)) fun row' hr => hask row' ?_
    rw [hhead] at hr
    rw [starts]
    split
    · next hs => rwa [← hs]
    · exact List.mem_cons_of_mem _ hr

lemma takeRows_cons (h : takeRows ask path names seen (row :: rows) i = (.ok seen', j)) :
    ∃ seen₁ i₁, Took ask path names seen row i seen₁ i₁ ∧
      takeRows ask path names seen₁ rows i₁ = (.ok seen', j) := by
  rw [takeRows] at h
  rcases h₁ : takeRow ask path names seen row i with ⟨_ | seen₁, i₁⟩
  · rw [h₁] at h
    cases h
  · rw [h₁] at h
    exact ⟨seen₁, i₁, took_of_takeRow h₁, h⟩

/-- The entries of rows that are registered one after another: each holds the answers that are
given then. -/
inductive Registered (ask : Resolver σ) : List Row → σ → List Entry → σ → Prop where
  | nil (s : σ) : Registered ask [] s [] s
  | cons {row : Row} {rows : List Row} {address : Address} {queryVars : Variables}
    {entries : List Entry} {s t u : σ} (ha : parse row.raw defaultProtocol = .ok address)
    (hq : answerAll ask address.vars s = (.ok queryVars, t))
    (hrest : Registered ask rows t entries u) :
    Registered ask (row :: rows) s ({ raw := row.raw, queryVars } :: entries) u

lemma Registered.forall₂ {entries : List Entry} {s t : σ} (h : Registered ask rows s entries t) :
    List.Forall₂ (Registers ask) rows entries := by
  induction h with
  | nil => exact .nil
  | cons ha hq _ ih => exact .cons ⟨rfl, _, _, _, ha, hq⟩ ih

theorem registered_of_takeRows (h : takeRows ask path names seen rows i = (.ok seen', j)) :
    ∃ entries, j.registry.entries = i.registry.entries ++ entries ∧
      Registered ask (starts seen.head? rows) i.asker entries j.asker := by
  induction rows generalizing seen i with
  | nil =>
    cases h
    exact ⟨[], (List.append_nil _).symm, .nil _⟩
  | cons row rows ih =>
    obtain ⟨seen₁, i₁, ht, hrest⟩ := takeRows_cons h
    obtain ⟨entries, hj, hentries⟩ := ih hrest
    have hi := ht.registers
    rw [ht.hostname?_eq] at hentries
    rw [starts]
    split at hi
    · -- the row goes on with a group
      next hs =>
      obtain ⟨hi, hasker⟩ := hi
      rw [if_pos hs, ← hs, ← hasker]
      exact ⟨entries, hi ▸ hj, hentries⟩
    · -- the row starts a group, with an entry of its own
      next hs =>
      obtain ⟨address, queryVars, ha, hq, hi⟩ := hi
      rw [if_neg hs]
      exact ⟨_, by rw [hj, hi, List.append_assoc]; rfl, .cons ha hq hentries⟩

theorem entries_of_takeRows (h : takeRows ask path names seen rows i = (.ok seen', j)) :
    ∃ entries, j.registry.entries = i.registry.entries ++ entries ∧
      List.Forall₂ (Registers ask) (starts seen.head? rows) entries := by
  obtain ⟨entries, hj, hentries⟩ := registered_of_takeRows h
  exact ⟨entries, hj, hentries.forall₂⟩

theorem extended_of_takeRows (h : takeRows ask path names seen rows i = (.ok seen', j))
    (g name : String) : j.registry.scopes.hostValues? g name =
      extend (i.registry.scopes.hostValues? g name)
        ((rowsOf g rows).flatMap (·.cellsIn names name)) := by
  induction rows generalizing seen i with
  | nil =>
    cases h
    simp [rowsOf]
  | cons row rows ih =>
    obtain ⟨seen₁, i₁, ht, hrest⟩ := takeRows_cons h
    rw [ih hrest, ht.hostValues?, extend_extend]
    by_cases hg : row.hostname? = some g <;> simp [rowsOf, hg]

theorem hostValues?_of_takeRows (h : takeRows ask path names seen rows i = (.ok seen', j))
    (hn : names.Nodup) (g name : String) :
    j.registry.scopes.hostValues? g name =
      if rowsOf g rows ≠ [] ∧ name ∈ names then
        some ((i.registry.scopes.hostValues? g name).getD [] ++
          (rowsOf g rows).map (·.cell names name))
      else i.registry.scopes.hostValues? g name := by
  rw [extended_of_takeRows h]
  simp only [cellsIn_of_nodup hn]
  by_cases hname : name ∈ names
  · have hcells : (rowsOf g rows).flatMap (fun row => [row.cell names name]) =
        (rowsOf g rows).map (·.cell names name) := List.map_eq_flatMap.symm
    simp only [hname, if_true, and_true, hcells, extend, List.map_eq_nil_iff, ne_eq, ite_not]
  · have hnone : (rowsOf g rows).flatMap (fun _ => ([] : List String)) = [] := by simp
    simp only [hname, if_false, and_false, hnone, extend_nil]

end Rows

end Table

end FleetScript.Host
