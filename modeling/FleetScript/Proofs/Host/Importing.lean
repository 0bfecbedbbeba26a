import FleetScript.Proofs.Host.Columns
import FleetScript.Proofs.Host.Hostnames
import FleetScript.Proofs.Host.Tabs

/-!
The import of a table, whatever its text and whoever answers. A text without a header changes
nothing. Of any other the rows are taken in their order up to the first that fails, and the registry
holds afterwards what the taken rows leave (`Leaves`): the row that fails and those behind it leave
nothing, and nothing that was there before is lost.
-/

namespace FleetScript.Host.Table

section Rows

variable {σ : Type} {ask : Resolver σ} {path : String} {names seen seen' : List String}
  {row : Row} {rows : List Row} {i j k : Intake σ} {e : Error}

/-! ### Rows that fail -/

/-- A row fails if its host cannot be read, or if it is not of the host before it and its query does
not get an answer. -/
inductive Fails (ask : Resolver σ) (last : Option String) (row : Row) (s : σ) (e : Error) :
    Prop where
  | invalid (ha : parse row.raw defaultProtocol = .error e)
  | unanswered {address : Address} {t : σ} (ha : parse row.raw defaultProtocol = .ok address)
    (hlast : last ≠ some address.hostname) (hq : answerAll ask address.vars s = (.error e, t))

lemma fails_of_takeRow (h : takeRow ask path names seen row i = (.error e, k)) :
    Fails ask seen.head? row i.asker e ∧ k.registry = i.registry := by
  unfold takeRow at h
  cases ha : parse row.raw defaultProtocol with
  | error e' =>
    rw [ha] at h
    cases h
    exact ⟨.invalid ha, rfl⟩
  | ok address =>
    rw [ha] at h
    dsimp only at h
    split at h
    · cases h
    next hs =>
    unfold Intake.addHost at h
    rw [ha] at h
    rcases hq : answerAll ask address.vars i.asker with ⟨e' | queryVars, t⟩
    · simp only [asker_warn, hq] at h
      cases h
      exact ⟨.unanswered ha hs hq, registry_warn _⟩
    · simp only [asker_warn, hq] at h
      cases h

lemma head?_of_takeRows (h : takeRows ask path names seen rows i = (.ok seen', j)) :
    seen'.head? = lastHost seen.head? rows := by
  induction rows generalizing seen i with
  | nil =>
    cases h
    rfl
  | cons row rows ih =>
    obtain ⟨seen₁, i₁, ht, hrest⟩ := takeRows_cons h
    rw [ih hrest, ht.hostname?_eq, lastHost]

/-! ### Rows that are taken -/

/-- What rows that are taken leave: the rows of another host than the row before are registered one
after another, and each variable of a host gets the cells of the host's rows in all columns of its
name. -/
structure Leaves (ask : Resolver σ) (names : List String) (rows : List Row) (i : Intake σ)
    (s : σ) (reg : Registry) : Prop where
  hosts : ∀ row ∈ rows, ∃ h, row.hostname? = some h ∧ h ≠ ""
  entries : ∃ entries, reg.entries = i.registry.entries ++ entries ∧
    Registered ask (starts none rows) i.asker entries s
  values : ∀ g name, reg.scopes.hostValues? g name =
    extend (i.registry.scopes.hostValues? g name) ((rowsOf g rows).flatMap (·.cellsIn names name))
  globals : reg.scopes.globals = i.registry.scopes.globals

lemma hosts_of_takeRows (h : takeRows ask path names seen rows i = (.ok seen', j)) :
    ∀ row ∈ rows, ∃ g, row.hostname? = some g ∧ g ≠ "" := by
  induction rows generalizing seen i with
  | nil => exact List.forall_mem_nil _
  | cons row rows ih =>
    obtain ⟨seen₁, i₁, ht, hrest⟩ := takeRows_cons h
    refine List.forall_mem_cons.mpr ⟨?_, ih hrest⟩
    cases ht with
    | again ha hs | first ha hs hq => exact ⟨_, hostname?_of_parse ha, hostname_ne_empty ha⟩

lemma globals_of_takeRows (h : takeRows ask path names seen rows i = (.ok seen', j)) :
    j.registry.scopes.globals = i.registry.scopes.globals := by
  induction rows generalizing seen i with
  | nil =>
    cases h
    rfl
  | cons row rows ih =>
    obtain ⟨seen₁, i₁, ht, hrest⟩ := takeRows_cons h
    rw [ih hrest, ht.globals]

theorem leaves_of_takeRows (h : takeRows ask path names [] rows i = (.ok seen', j)) :
    Leaves ask names rows i j.asker j.registry where
  hosts := hosts_of_takeRows h
  entries := registered_of_takeRows h
  values := extended_of_takeRows h
  globals := globals_of_takeRows h

/-- A variable grows by one cell for each row of the host and each column of its name. -/
lemma Leaves.length_values {s : σ} {reg : Registry} (h : Leaves ask names rows i s reg)
    (g name : String) : ((reg.scopes.hostValues? g name).getD []).length =
      ((i.registry.scopes.hostValues? g name).getD []).length +
        (rowsOf g rows).length * names.count name := by
  rw [h.values, getD_extend, List.length_append, List.length_flatMap]
  simp

end Rows

/-! ### The import -/

variable {σ : Type}

/-- **The import of a table.** If the first line is no header, nothing changes. Else the rows are
those of the lines behind it that are not blank; they are taken in their order up to the first that
fails, with whose error the import ends, and the registry is what the taken rows leave of it. Every
list of values grows by as many as the host has rows, times the columns of that name. -/
theorem addTable_leaves (ask : Resolver σ) {disk : Disk} {path text : String}
    (htext : Intake.readList disk path = .ok text) (i : Intake σ) :
    ((∀ names, ¬Heads names (headerOf text.toList)) →
      ∃ fault, Intake.addTable ask disk path i = (.error (.header fault), i)) ∧
    ∀ names, Heads names (headerOf text.toList) →
      ∃ taken rest s result j, List.Forall₂ Holds (rowLines text.toList) (taken ++ rest) ∧
        Intake.addTable ask disk path i = (result, j) ∧ Leaves ask names taken i s j.registry ∧
        (∀ g name, ((j.registry.scopes.hostValues? g name).getD []).length =
          ((i.registry.scopes.hostValues? g name).getD []).length +
            (rowsOf g taken).length * names.count name) ∧
        (rest = [] ∧ result = .ok () ∨ ∃ row later e, rest = row :: later ∧
          Fails ask (lastHost none taken) row s e ∧ result = .error e) := by
  refine ⟨fun hnone => ?_, fun names hheads => ?_⟩
  · obtain ⟨fault, hfault⟩ := exists_fault_of_read hnone
    exact ⟨fault, by simp only [Intake.addTable, htext, hfault]⟩
  · have hread := read_eq_ok_iff.mpr ⟨hheads, rfl⟩
    have hadd : Intake.addTable ask disk path i =
        addRows ask path names [] ((Text.lines text.toList).tail.filterMap row?) i := by
      simp only [Intake.addTable, htext, hread]
    have hlines := forall₂_holds (Text.lines text.toList).tail
    rw [hadd, addRows_eq]
    -- from here on only the rows count, and no longer how the text spells them
    generalize (Text.lines text.toList).tail.filterMap row? = rows at hlines ⊢
    obtain ⟨seen, j, hj, ⟨hall, hrun⟩ | ⟨row, later, e, k, hrows, hrow, hrun⟩⟩ :=
      taken_spec ask path names [] rows i
    · have hl := leaves_of_takeRows hj
      rw [hrun]
      rw [hall] at hl
      exact ⟨rows, [], j.asker, _, j, by rwa [List.append_nil], rfl, hl, hl.length_values,
        .inl ⟨rfl, rfl⟩⟩
    · have hl := leaves_of_takeRows hj
      obtain ⟨hfails, hkeep⟩ := fails_of_takeRow hrow
      rw [head?_of_takeRows hj] at hfails
      rw [← hkeep] at hl
      rw [hrun]
      exact ⟨_, row :: later, j.asker, _, k, by rwa [← hrows], rfl, hl, hl.length_values,
        .inr ⟨row, later, e, rfl, hfails, rfl⟩⟩

/-- Two rows of one host, the second of them short, with a blank line between them, and a row whose
query gets no answer. -/
theorem addTable_leaves_two_rows :
    let text := "hostname\tport\tport\nr1\ta\tb\n \nssh://r1:22\tc\nr2?q=\x7bq\x7d\td\nr1\te"
    let disk := ({} : Disk).withFile "t" (Text.toBytes text)
    let i : Intake Unit := { registry := {}, asker := () }
    (∃ taken rest s result j, List.Forall₂ Holds (rowLines text.toList) (taken ++ rest) ∧
      Intake.addTable noAnswers disk "t" i = (result, j) ∧
      Leaves noAnswers ["port", "port"] taken i s j.registry ∧
      (rest = [] ∧ result = .ok () ∨ ∃ row later e, rest = row :: later ∧
        Fails noAnswers (lastHost none taken) row s e ∧ result = .error e)) ∧
    (Intake.addTable noAnswers disk "t" i).1 =
      .error (.unanswered "q" "interactive input is disabled") ∧
    (Intake.addTable noAnswers disk "t" i).2.registry.entries.map (·.raw) = ["r1"] ∧
    (Intake.addTable noAnswers disk "t" i).2.registry.scopes.hostValues? "r1" "port" =
      some ["a", "b", "c", ""] := by
  intro text disk i
  have htext : Intake.readList disk "t" = .ok text := by decide +kernel
  have hheads : Heads ["port", "port"] (headerOf text.toList) :=
    columns_eq_ok_iff.mp (by decide +kernel)
  obtain ⟨taken, rest, s, result, j, hrows, hadd, hl, -, hend⟩ :=
    (addTable_leaves noAnswers htext i).2 ["port", "port"] hheads
  exact ⟨⟨taken, rest, s, result, j, hrows, hadd, hl, hend⟩, by decide +kernel, by decide +kernel,
    by decide +kernel⟩

/-- Where two columns have one name, its list grows by two for one row of the host. -/
theorem two_values_of_one_row :
    let text := "hostname\tx\tx\nr1\tA\tA\n"
    let disk := ({} : Disk).withFile "t.tsv" (Text.toBytes text)
    let i : Intake Unit := { registry := {}, asker := () }
    ¬∀ names taken j, Heads names (headerOf text.toList) →
      List.Forall₂ Holds (rowLines text.toList) taken →
      Intake.addTable noAnswers disk "t.tsv" i = (.ok (), j) →
      ∀ g, ∀ name ∈ names, ((j.registry.scopes.hostValues? g name).getD []).length =
        ((i.registry.scopes.hostValues? g name).getD []).length + (rowsOf g taken).length := by
  intro text disk i h
  have hheads : Heads ["x", "x"] (headerOf text.toList) :=
    columns_eq_ok_iff.mp (by decide +kernel)
  have hrows := forall₂_holds (Text.lines text.toList).tail
  have hgrows := h _ _ (Intake.addTable noAnswers disk "t.tsv" i).2 hheads hrows
    (Prod.ext (by decide +kernel) rfl) "r1" "x" List.mem_cons_self
  revert hgrows
  decide +kernel

end FleetScript.Host.Table
