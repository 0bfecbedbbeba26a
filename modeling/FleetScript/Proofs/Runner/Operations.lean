import FleetScript.Proofs.Runner.History

/-!
Histories of a runner as lists of operations, those that fail included. A failed registration
keeps the hosts before the one that failed, and a failed load keeps the script that was loaded.
Nothing takes hosts or variables away again: `Grown` says so of any operations one after another,
and that every host that came in is one whose address can be read.
-/

namespace FleetScript

/-! ### Operations -/

/-- Where hosts come from: a list, a file with one host to a line, or a table. -/
inductive Host.Source where
  | hosts (raws : List String)
  | file (disk : Disk) (path : String)
  | table (disk : Disk) (path : String)

def Host.Source.take {σ : Type} (ask : Host.Resolver σ) (source : Host.Source)
    (i : Host.Intake σ) : Except Host.Error Unit × Host.Intake σ :=
  match source with
  | .hosts raws => Host.Intake.addHosts ask raws i
  | .file disk path => Host.Intake.addFile ask disk path i
  | .table disk path => Host.Intake.addTable ask disk path i

/-- An operation on a runner. Registering hosts may ask for values, which someone in some state
answers. -/
inductive Operation : Type 1 where
  | define (vars : List (String × String))
  | defineHost (hostname : String) (vars : List (String × String))
  | append (hostname key value : String)
  | register {σ : Type} (ask : Host.Resolver σ) (asker : σ) (source : Host.Source)
  | load (code : String)
  | loadFile (disk : Disk) (path : String)

namespace Operation

/-- Whether an operation loads a script. -/
def isLoad : Operation → Bool
  | load _ | loadFile _ _ => true
  | _ => false

/-- A load leaves the runner as it is if it fails. -/
def ofLoad (r : Runner) : Except RunnerError Runner → Except RunnerError Unit × Runner
  | .error e => (.error e, r)
  | .ok r => (.ok (), r)

/-- What an operation comes to, and the runner that it leaves. -/
def perform (op : Operation) (r : Runner) : Except RunnerError Unit × Runner :=
  match op with
  | define vars => (.ok (), r.define vars)
  | defineHost hostname vars => (.ok (), r.defineHost hostname vars)
  | append hostname key value => (.ok (), { r with registry := { r.registry with
      scopes := r.registry.scopes.append hostname key value } })
  | register ask asker source =>
    let (result, i) := source.take ask { registry := r.registry, asker }
    (result.mapError .host, { r with registry := i.registry })
  | load code => ofLoad r (r.load code)
  | loadFile disk path => ofLoad r (r.loadFile disk path)

/-- The runner after operations. -/
def after (ops : List Operation) (r : Runner) : Runner :=
  ops.foldl (fun r op => (op.perform r).2) r

lemma after_cons (op : Operation) (ops : List Operation) (r : Runner) :
    after (op :: ops) r = after ops (op.perform r).2 := rfl

end Operation

/-! ### What grows -/

namespace Scopes

/-- Whatever has a value in `s` has one in `s'` too. -/
structure Kept (s s' : Scopes) : Prop where
  globals (key : String) (h : (s.globals.get? key).isSome) : (s'.globals.get? key).isSome
  values (hostname key : String) (h : (s.hostValues? hostname key).isSome) :
    (s'.hostValues? hostname key).isSome

namespace Kept

variable {s s' s'' : Scopes}

lemma refl (s : Scopes) : Kept s s := ⟨fun _ h => h, fun _ _ h => h⟩

lemma trans (h : Kept s s') (h' : Kept s' s'') : Kept s s'' where
  globals key hk := h'.globals key (h.globals key hk)
  values hostname key hk := h'.values hostname key (h.values hostname key hk)

lemma define (s : Scopes) (vars : List (String × String)) : Kept s (s.define vars) where
  globals key hk := by
    unfold Scopes.define
    rw [Bindings.get?_insertAll, Option.isSome_or, hk, Bool.or_true]
  values _ _ hk := hk

lemma defineHost (s : Scopes) (hostname : String) (vars : List (String × String)) :
    Kept s (s.defineHost hostname vars) where
  globals _ hk := hk
  values h key hk := by
    rw [hostValues?_defineHost]
    split
    · rw [Option.isSome_or, hk, Bool.or_true]
    · exact hk

lemma append (s : Scopes) (hostname key value : String) :
    Kept s (s.append hostname key value) where
  globals _ hk := hk
  values h k hk := by
    rw [hostValues?_append]
    split
    · rfl
    · exact hk

lemma appendCells (hostname : String) (names cells : List String) (s : Scopes) :
    Kept s (Host.Table.appendCells hostname names cells s) := by
  induction names generalizing cells s with
  | nil => exact .refl s
  | cons name names ih => exact (append s _ _ _).trans (ih _ _)

end Kept

end Scopes

namespace Host

/-- A registry `g'` that came about from `g`: more hosts, all of whose addresses can be read, stand
behind those that were registered, and no variable has lost its values. -/
structure Grown (g g' : Registry) : Prop where
  entries : ∃ more, g'.entries = g.entries ++ more ∧
    ∀ entry ∈ more, ∃ address, parse entry.raw defaultProtocol = .ok address
  scopes : g.scopes.Kept g'.scopes

namespace Grown

variable {g g' g'' : Registry}

lemma of_scopes {s : Scopes} (h : g.scopes.Kept s) : Grown g { g with scopes := s } where
  entries := ⟨[], (List.append_nil _).symm, nofun⟩
  scopes := h

lemma refl (g : Registry) : Grown g g := of_scopes (.refl _)

lemma trans (h : Grown g g') (h' : Grown g' g'') : Grown g g'' where
  entries := by
    obtain ⟨more, heq, hmore⟩ := h.entries
    obtain ⟨more', heq', hmore'⟩ := h'.entries
    refine ⟨more ++ more', ?_, List.forall_mem_append.mpr ⟨hmore, hmore'⟩⟩
    rw [heq', heq, List.append_assoc]
  scopes := h.scopes.trans h'.scopes

lemma concat (g : Registry) {entry : Entry} {address : Address}
    (h : parse entry.raw defaultProtocol = .ok address) :
    Grown g { g with entries := g.entries ++ [entry] } where
  entries := by
    refine ⟨[entry], rfl, fun e he => ?_⟩
    obtain rfl := List.mem_singleton.mp he
    exact ⟨address, h⟩
  scopes := .refl _

variable {σ : Type} (ask : Resolver σ)

lemma addHost (raw : String) (i : Intake σ) :
    Grown i.registry (Intake.addHost ask raw i).2.registry := by
  rcases Table.addHost_cases ask raw i with ⟨e, s, h⟩ | ⟨address, queryVars, s, ha, -, h⟩
  · rw [h]
    exact refl _
  · rw [h]
    exact concat _ ha

lemma addHosts (raws : List String) (i : Intake σ) :
    Grown i.registry (Intake.addHosts ask raws i).2.registry := by
  induction raws generalizing i with
  | nil => exact refl _
  | cons raw raws ih =>
    have hfirst := addHost ask raw i
    rw [Intake.addHosts]
    rcases h : Intake.addHost ask raw i with ⟨_ | _, j⟩
    · rw [h] at hfirst
      exact hfirst
    · rw [h] at hfirst
      exact hfirst.trans (ih j)

lemma addFile (disk : Disk) (path : String) (i : Intake σ) :
    Grown i.registry (Intake.addFile ask disk path i).2.registry := by
  unfold Intake.addFile
  cases Intake.readList disk path with
  | error e => exact refl _
  | ok text => exact addHosts ask _ i

/-- A row that is taken gives its cells, after its host if that is registered with it. -/
lemma took {path : String} {names seen seen' : List String} {row : Table.Row} {i j : Intake σ}
    (h : Table.Took ask path names seen row i seen' j) : Grown i.registry j.registry := by
  cases h with
  | again ha hs => exact of_scopes (.appendCells _ _ _ _)
  | @first address queryVars s ha hs hq =>
    have hregister : Grown (Table.warn path seen address.hostname i).registry
        (Table.register path seen address.hostname { raw := row.raw, queryVars } s i).registry :=
      concat _ ha
    rw [Table.registry_warn] at hregister
    exact hregister.trans (of_scopes (.appendCells _ _ _ _))

lemma addRows (path : String) (names seen : List String) (rows : List Table.Row) (i : Intake σ) :
    Grown i.registry (Table.addRows ask path names seen rows i).2.registry := by
  induction rows generalizing seen i with
  | nil => exact refl _
  | cons row rows ih =>
    rw [Table.addRows_cons]
    rcases Table.takeRow_cases ask path names seen row i with
      ⟨e, j, hj, hregistry⟩ | ⟨seen', j, hj, ht⟩
    · rw [hj]
      show Grown i.registry j.registry
      rw [hregistry]
      exact refl _
    · rw [hj]
      exact (took ask ht).trans (ih seen' j)

lemma addTable (disk : Disk) (path : String) (i : Intake σ) :
    Grown i.registry (Intake.addTable ask disk path i).2.registry := by
  unfold Intake.addTable
  cases Intake.readList disk path with
  | error e => exact refl _
  | ok text =>
    simp only []
    cases Table.read text.toList with
    | error fault => exact refl _
    | ok table => exact addRows ask path _ [] _ i

lemma take (source : Source) (i : Intake σ) :
    Grown i.registry (source.take ask i).2.registry := by
  cases source with
  | hosts raws => exact addHosts ask raws i
  | file disk path => exact addFile ask disk path i
  | table disk path => exact addTable ask disk path i

end Grown

end Host

/-! ### Runners after operations -/

namespace Operation

variable {op : Operation} {r : Runner}

lemma perform_of_failed_load (hop : op.isLoad = true) {e : RunnerError}
    (h : (op.perform r).1 = .error e) : (op.perform r).2 = r := by
  have hkept : ∀ loaded, (ofLoad r loaded).1 = .error e → (ofLoad r loaded).2 = r := by
    intro loaded hfails
    cases loaded with
    | error e => rfl
    | ok r' => cases hfails
  cases op with
  | load code => exact hkept _ h
  | loadFile disk path => exact hkept _ h
  | define _ | defineHost _ _ | append _ _ _ | register _ _ _ => cases hop

/-- A load that succeeds has read its script with the variables that it checks against. -/
lemma exists_loadScript_of_load (hop : op.isLoad = true) (h : (op.perform r).1 = .ok ()) :
    ∃ code filename, r.loadScript code filename = .ok (op.perform r).2 := by
  have hkept : ∀ loaded, (ofLoad r loaded).1 = .ok () → loaded = .ok (ofLoad r loaded).2 := by
    intro loaded hok
    cases loaded with
    | error e => cases hok
    | ok r' => rfl
  cases op with
  | load code => exact ⟨code, none, hkept _ h⟩
  | loadFile disk path =>
    have hload := hkept (r.loadFile disk path) h
    show ∃ code filename, r.loadScript code filename = .ok (ofLoad r (r.loadFile disk path)).2
    generalize (ofLoad r (r.loadFile disk path)).2 = r' at hload ⊢
    unfold Runner.loadFile at hload
    split at hload
    · cases hload
    · exact ⟨_, _, hload⟩
  | define _ | defineHost _ _ | append _ _ _ | register _ _ _ => cases hop

lemma registry_of_isLoad (hop : op.isLoad = true) : (op.perform r).2.registry = r.registry := by
  cases h : (op.perform r).1 with
  | error e => rw [perform_of_failed_load hop h]
  | ok _ =>
    obtain ⟨code, filename, hload⟩ := exists_loadScript_of_load hop h
    rw [Runner.eq_of_loadScript hload]

lemma grown_perform (op : Operation) (r : Runner) :
    Host.Grown r.registry (op.perform r).2.registry := by
  cases op with
  | define vars => exact .of_scopes (.define _ vars)
  | defineHost hostname vars => exact .of_scopes (.defineHost _ hostname vars)
  | append hostname key value => exact .of_scopes (.append _ hostname key value)
  | register ask asker source => exact Host.Grown.take ask source { registry := r.registry, asker }
  | load _ | loadFile _ _ =>
    rw [registry_of_isLoad rfl]
    exact .refl _

theorem grown_after (ops : List Operation) (r : Runner) :
    Host.Grown r.registry (after ops r).registry := by
  induction ops generalizing r with
  | nil => exact .refl _
  | cons op ops ih => exact (grown_perform op r).trans (ih _)

lemma script_after {ops : List Operation} (h : ∀ op ∈ ops, op.isLoad = false) (r : Runner) :
    (after ops r).script = r.script := by
  induction ops generalizing r with
  | nil => rfl
  | cons op ops ih =>
    obtain ⟨hop, hops⟩ := List.forall_mem_cons.mp h
    have hfirst : (op.perform r).2.script = r.script := by
      cases op with
      | load _ | loadFile _ _ => cases hop
      | define _ | defineHost _ _ | append _ _ _ | register _ _ _ => rfl
    rw [after_cons, ih hops, hfirst]

end Operation

end FleetScript
