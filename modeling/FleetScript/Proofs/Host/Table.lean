import FleetScript.Host.Table
import FleetScript.Proofs.Scopes.Changes

/-!
Tables row by row. `takeRow` is what the import does with one row, and `takeRows` goes on to the
first row that fails; the rows before it are `taken`. A row that is taken gives its cells to its
host, and a host that the row before did not have is registered with it (`Took`).
-/

namespace FleetScript.Host.Table

open Change

/-! ### One row -/

section Rows

variable {σ : Type} (ask : Resolver σ) (path : String) (names : List String)

def give (hostname : String) (row : Row) (i : Intake σ) : Intake σ :=
  { i with registry := { i.registry with
      scopes := appendCells hostname names row.cells i.registry.scopes } }

/-- The warning for a host that stands apart from its rows before. -/
def warn (seen : List String) (hostname : String) (i : Intake σ) : Intake σ :=
  if seen.contains hostname then { i with warnings := i.warnings ++ [scattered hostname path] }
  else i

/-- Takes one row: gives the hosts of the rows with its own. -/
def takeRow (seen : List String) (row : Row) (i : Intake σ) :
    Except Error (List String) × Intake σ :=
  match parse row.raw defaultProtocol with
  | .error e => (.error e, i)
  | .ok address =>
    if seen.head? = some address.hostname then (.ok seen, give names address.hostname row i)
    else
      match Intake.addHost ask row.raw (warn path seen address.hostname i) with
      | (.error e, i) => (.error e, i)
      | (.ok (), i) => (.ok (address.hostname :: seen), give names address.hostname row i)

/-- Takes rows up to the first that fails. -/
def takeRows (seen : List String) : List Row → Intake σ → Except Error (List String) × Intake σ
  | [], i => (.ok seen, i)
  | row :: rows, i =>
    match takeRow ask path names seen row i with
    | (.error e, i) => (.error e, i)
    | (.ok seen, i) => takeRows seen rows i

lemma addRows_cons (seen : List String) (row : Row) (rows : List Row) (i : Intake σ) :
    addRows ask path names seen (row :: rows) i =
      match takeRow ask path names seen row i with
      | (.error e, i) => (.error e, i)
      | (.ok seen, i) => addRows ask path names seen rows i := by
  rw [addRows, takeRow]
  cases parse row.raw defaultProtocol with
  | error e => rfl
  | ok address =>
    by_cases hs : seen.head? = some address.hostname
    · simp only [if_pos hs]
      rfl
    · simp only [if_neg hs]
      change (match Intake.addHost ask row.raw (warn path seen address.hostname i) with
        | (Except.error e, i) => (Except.error e, i)
        | (Except.ok (), i) => addRows ask path names (address.hostname :: seen) rows
            (give names address.hostname row i)) = _
      rcases Intake.addHost ask row.raw (warn path seen address.hostname i) with ⟨_ | _, j⟩ <;> rfl

theorem addRows_eq (seen : List String) (rows : List Row) (i : Intake σ) :
    addRows ask path names seen rows i =
      ((takeRows ask path names seen rows i).1.map fun _ => (),
        (takeRows ask path names seen rows i).2) := by
  induction rows generalizing seen i with
  | nil => rfl
  | cons row rows ih =>
    rw [addRows_cons, takeRows]
    rcases takeRow ask path names seen row i with ⟨_ | seen, j⟩
    · rfl
    · exact ih seen j

/-- The rows before the first that fails. -/
def taken (seen : List String) : List Row → Intake σ → List Row
  | [], _ => []
  | row :: rows, i =>
    match takeRow ask path names seen row i with
    | (.error _, _) => []
    | (.ok seen, i) => row :: taken seen rows i

/-- The taken rows are rows from the first on; either they are all, or the next one fails. -/
theorem taken_spec (seen : List String) (rows : List Row) (i : Intake σ) :
    ∃ seen' j, takeRows ask path names seen (taken ask path names seen rows i) i = (.ok seen', j) ∧
      (taken ask path names seen rows i = rows ∧
          takeRows ask path names seen rows i = (.ok seen', j) ∨
        ∃ row rest e k, rows = taken ask path names seen rows i ++ row :: rest ∧
          takeRow ask path names seen' row j = (.error e, k) ∧
          takeRows ask path names seen rows i = (.error e, k)) := by
  induction rows generalizing seen i with
  | nil => exact ⟨seen, i, rfl, .inl ⟨rfl, rfl⟩⟩
  | cons row rows ih =>
    rcases htake : takeRow ask path names seen row i with ⟨e | seen₁, i₁⟩
    · refine ⟨seen, i, by simp [taken, htake, takeRows], .inr ⟨row, rows, e, i₁, ?_⟩⟩
      simp [taken, takeRows, htake]
    · obtain ⟨seen', j, hj, hall | ⟨next, rest, e, k, hrows, hnext, he⟩⟩ := ih seen₁ i₁
      · refine ⟨seen', j, by simpa [taken, htake, takeRows] using hj, .inl ?_⟩
        simpa [taken, takeRows, htake] using hall
      · refine ⟨seen', j, by simpa [taken, htake, takeRows] using hj,
          .inr ⟨next, rest, e, k, ?_, hnext, by simpa [takeRows, htake] using he⟩⟩
        simpa [taken, htake] using hrows

/-! ### What taking a row does -/

/-- A host registered for a row, with the answers to its query. -/
def register (seen : List String) (hostname : String) (entry : Entry) (s : σ) (i : Intake σ) :
    Intake σ :=
  let i := warn path seen hostname i
  { i with registry := { i.registry with entries := i.registry.entries ++ [entry] }, asker := s }

/-- What a row that is taken does: one of the same host as the row before gives its cells, and any
other is registered first. -/
inductive Took (seen : List String) (row : Row) (i : Intake σ) : List String → Intake σ → Prop where
  | again {address : Address} (ha : parse row.raw defaultProtocol = .ok address)
    (hs : seen.head? = some address.hostname) :
    Took seen row i seen (give names address.hostname row i)
  | first {address : Address} {queryVars : Variables} {s : σ}
    (ha : parse row.raw defaultProtocol = .ok address) (hs : seen.head? ≠ some address.hostname)
    (hq : answerAll ask address.vars i.asker = (.ok queryVars, s)) :
    Took seen row i (address.hostname :: seen) (give names address.hostname row
      (register path seen address.hostname { raw := row.raw, queryVars } s i))

variable {ask path names} {seen seen' : List String} {row : Row} {i j : Intake σ} {e : Error}

@[simp] lemma asker_warn (hostname : String) : (warn path seen hostname i).asker = i.asker := by
  unfold warn
  split <;> rfl

@[simp] lemma registry_warn (hostname : String) :
    (warn path seen hostname i).registry = i.registry := by
  unfold warn
  split <;> rfl

variable (ask) in
lemma addHost_cases (raw : String) (i : Intake σ) :
    (∃ e s, Intake.addHost ask raw i = (.error e, { i with asker := s })) ∨
      ∃ address queryVars s, parse raw defaultProtocol = .ok address ∧
        answerAll ask address.vars i.asker = (.ok queryVars, s) ∧
        Intake.addHost ask raw i = (.ok (), { i with
          registry := { i.registry with entries := i.registry.entries ++ [{ raw, queryVars }] }
          asker := s }) := by
  unfold Intake.addHost
  cases parse raw defaultProtocol with
  | error e => exact .inl ⟨e, i.asker, rfl⟩
  | ok address =>
    rcases hq : answerAll ask address.vars i.asker with ⟨e | queryVars, s⟩
    · exact .inl ⟨e, s, by simp only [hq]⟩
    · exact .inr ⟨address, queryVars, s, rfl, hq, by simp only [hq]⟩

variable (ask path names) in
/-- A row that fails leaves the registry as it is, and any other is taken. -/
theorem takeRow_cases (seen : List String) (row : Row) (i : Intake σ) :
    (∃ e j, takeRow ask path names seen row i = (.error e, j) ∧ j.registry = i.registry) ∨
      ∃ seen' j, takeRow ask path names seen row i = (.ok seen', j) ∧
        Took ask path names seen row i seen' j := by
  rw [takeRow]
  cases ha : parse row.raw defaultProtocol with
  | error e => exact .inl ⟨e, i, rfl, rfl⟩
  | ok address =>
    by_cases hs : seen.head? = some address.hostname
    · simp only [if_pos hs]
      exact .inr ⟨_, _, rfl, .again ha hs⟩
    simp only [if_neg hs]
    rcases addHost_cases ask row.raw (warn path seen address.hostname i) with
      ⟨e, s, he⟩ | ⟨address', queryVars, s, ha', hq, he⟩
    · rw [he]
      exact .inl ⟨e, _, rfl, registry_warn _⟩
    · obtain rfl := Except.ok.inj (ha.symm.trans ha')
      rw [asker_warn] at hq
      rw [he]
      exact .inr ⟨_, _, rfl, .first ha hs hq⟩

lemma took_of_takeRow (h : takeRow ask path names seen row i = (.ok seen', j)) :
    Took ask path names seen row i seen' j := by
  rcases takeRow_cases ask path names seen row i with
    ⟨e, k, hk, -⟩ | ⟨seen'', k, hk, ht⟩
  · rw [hk] at h
    cases h
  · rw [hk] at h
    cases h
    exact ht

end Rows

/-! ### Changes to variables -/

/-- The changes that a row brings: each column's cell for its host. -/
def rowChanges (names : List String) (row : Row) : List Change :=
  match parse row.raw defaultProtocol with
  | .error _ => []
  | .ok address =>
    names.mapIdx fun n name => .append address.hostname name (row.cells[n]?.getD "")

lemma reflects_appendCells {s : Scopes} {cs : List Change} (h : s.Reflects cs) (hostname : String)
    (names cells : List String) : (appendCells hostname names cells s).Reflects
      (cs ++ names.mapIdx fun n name => .append hostname name (cells[n]?.getD "")) := by
  induction names generalizing cs cells s with
  | nil => simpa [appendCells] using h
  | cons name names ih =>
    have hrest := ih (h.append hostname name (cells.head?.getD "")) cells.tail
    rw [List.append_assoc, List.singleton_append] at hrest
    simpa [appendCells, List.mapIdx_cons, List.head?_eq_getElem?] using hrest

section Rows

variable {σ : Type} {ask : Resolver σ} {path : String} {names seen seen' : List String}
  {i j : Intake σ} {cs : List Change}

lemma Took.reflects {row : Row} (ht : Took ask path names seen row i seen' j)
    (h : i.registry.scopes.Reflects cs) :
    j.registry.scopes.Reflects (cs ++ rowChanges names row) := by
  cases ht with
  | again ha hs =>
    rw [rowChanges, ha]
    exact reflects_appendCells h _ _ _
  | first ha hs hq =>
    rw [rowChanges, ha]
    refine reflects_appendCells ?_ _ _ _
    rw [register, registry_warn]
    exact h

/-- The scopes after rows reflect the changes of those that were taken. -/
theorem reflects_addRows (h : i.registry.scopes.Reflects cs) (rows : List Row) :
    (addRows ask path names seen rows i).2.registry.scopes.Reflects
      (cs ++ (taken ask path names seen rows i).flatMap (rowChanges names)) := by
  induction rows generalizing seen i cs with
  | nil => simpa [addRows, taken] using h
  | cons row rows ih =>
    rw [addRows_cons, taken]
    rcases takeRow_cases ask path names seen row i with
      ⟨e, j, hj, hr⟩ | ⟨seen', j, hj, ht⟩
    · rw [hj]
      simpa [hr] using h
    · rw [hj]
      simpa using ih (ht.reflects h)

end Rows

/-- The changes that a table brings: those of the rows that are taken, and none if the table
cannot be read. -/
def changes {σ : Type} (ask : Resolver σ) (disk : Disk) (path : String) (i : Intake σ) :
    List Change :=
  match Intake.readList disk path with
  | .error _ => []
  | .ok text =>
    match read text.toList with
    | .error _ => []
    | .ok (names, rows) => (taken ask path names [] rows i).flatMap (rowChanges names)

theorem reflects_addTable {σ : Type} {ask : Resolver σ} {i : Intake σ} {cs : List Change}
    (h : i.registry.scopes.Reflects cs) (disk : Disk) (path : String) :
    (Intake.addTable ask disk path i).2.registry.scopes.Reflects
      (cs ++ changes ask disk path i) := by
  unfold Intake.addTable changes
  cases Intake.readList disk path with
  | error e => simpa using h
  | ok text =>
    simp only []
    cases read text.toList with
    | error fault => simpa using h
    | ok table => exact reflects_addRows h table.2

end FleetScript.Host.Table
