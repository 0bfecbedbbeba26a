import FleetScript.Proofs.Host.Columns
import FleetScript.Proofs.Host.Schemes
import FleetScript.Proofs.Runner.Compile
import FleetScript.Proofs.Script.Rendering
import FleetScript.Proofs.Traversal

/-!
Hosts of a table. Where the rows of a host stand together, the table registers the host once, each
column is a variable with one value for each row, and a command line that refers to columns makes
one command from each row (`addTable_renders`).
-/

namespace FleetScript.Runner

open Host Host.Table

/-- The rows of a table of which those of a host, one or more, stand together. -/
inductive Together (h : String) (first : Row) (rest : List Row) : List Row → Prop where
  | mk {before after : List Row} (hgroup : ∀ row ∈ first :: rest, row.hostname? = some h)
    (hothers : ∀ row ∈ before ++ after, ∃ g, row.hostname? = some g ∧ g ≠ h) :
    Together h first rest (before ++ first :: rest ++ after)

/-- Names of columns that differ and that no variable of another scope hides. -/
structure Unhidden (names : List String) (query : Variables) : Prop where
  nodup : names.Nodup
  computed : ∀ name ∈ names, name ∉ [Variables.hostnameKey, Variables.filenameKey,
    Variables.runnerKey, Variables.parentKey]
  query : ∀ name ∈ names, query.get? name = none

variable {h : String} {first : Row} {rest rows : List Row} {names : List String}

lemma Together.rowsOf_eq (ht : Together h first rest rows) : rowsOf h rows = first :: rest := by
  obtain @⟨before, after, hgroup, hothers⟩ := ht
  have hnone {part : List Row} (hp : part ⊆ before ++ after) : rowsOf h part = [] := by
    refine List.filter_eq_nil_iff.mpr fun row hr => ?_
    obtain ⟨g, hg, hne⟩ := hothers row (hp hr)
    simp [hg, hne]
  have hall : rowsOf h (first :: rest) = first :: rest :=
    List.filter_eq_self.mpr fun row hr => by simp [hgroup row hr]
  unfold rowsOf at *
  rw [List.filter_append, List.filter_append, hall, hnone (List.subset_append_left _ _),
    hnone (List.subset_append_right _ _), List.nil_append, List.append_nil]

lemma Together.starts_eq (ht : Together h first rest rows) : ∃ before after,
    starts none rows = before ++ first :: after ∧
      ∀ row ∈ before ++ after, ∃ g, row.hostname? = some g ∧ g ≠ h := by
  obtain @⟨before, after, hgroup, hothers⟩ := ht
  refine ⟨starts none before, starts (some h) after, starts_group (hgroup _ List.mem_cons_self)
    (fun row hr => hgroup row (List.mem_cons_of_mem _ hr)) (fun row hr => ?_), fun row hr => ?_⟩
  · obtain ⟨g, hg, hne⟩ := hothers row (List.mem_append_left _ hr)
    rw [hg]
    exact fun he => hne (Option.some.inj he)
  · rcases List.mem_append.mp hr with hr | hr
    · exact hothers row (List.mem_append_left _ (mem_of_mem_starts hr))
    · exact hothers row (List.mem_append_right _ (mem_of_mem_starts hr))

lemma Together.isSome_hostname? (ht : Together h first rest rows) :
    ∀ row ∈ rows, row.hostname?.isSome := by
  obtain @⟨before, after, hgroup, hothers⟩ := ht
  have hother (row : Row) (hr : row ∈ before ++ after) : row.hostname?.isSome := by
    obtain ⟨g, hg, -⟩ := hothers row hr
    simp [hg]
  intro row hr
  rcases List.mem_append.mp hr with hr | hr
  · rcases List.mem_append.mp hr with hr | hr
    · exact hother row (List.mem_append_left _ hr)
    · simp [hgroup row hr]
  · exact hother row (List.mem_append_right _ hr)

lemma Together.hostname?_first (ht : Together h first rest rows) : first.hostname? = some h := by
  obtain @⟨before, after, hgroup, hothers⟩ := ht
  exact hgroup first List.mem_cons_self

/-! ### What the table leaves -/

section Intake

variable {σ : Type} {ask : Resolver σ} {disk : Disk} {path text : String} {i : Intake σ}

/-- Of a table whose rows can all be taken, what is left is what taking them leaves. -/
lemma exists_takeRows_of_addTable (htext : Intake.readList disk path = .ok text)
    (hread : Table.read text.toList = .ok (names, rows))
    (hrows : ∀ row ∈ rows, row.hostname?.isSome)
    (hask : ∀ row ∈ starts none rows, Answered ask row) :
    ∃ seen j, takeRows ask path names [] rows i = (.ok seen, j) ∧
      Intake.addTable ask disk path i = (.ok (), j) := by
  obtain ⟨seen, j, hj⟩ : ∃ seen j, takeRows ask path names [] rows i = (.ok seen, j) :=
    takeRows_ok i hrows hask
  refine ⟨seen, j, hj, ?_⟩
  unfold Intake.addTable
  simp only [htext, hread, addRows_eq, hj]
  rfl

lemma hostOf?_of_registers {row : Row} {entry : Entry} (hr : Registers ask row entry) :
    hostOf? entry.raw = row.hostname? := by
  rw [hr.1]
  rfl

lemma Together.entries {path : String} {seen : List String} {j : Intake σ}
    (ht : Together h first rest rows)
    (hj : takeRows ask path names [] rows i = (.ok seen, j)) :
    ∃ before entry after, j.registry.entries = i.registry.entries ++ (before ++ entry :: after) ∧
      Registers ask first entry ∧ ∀ e ∈ before ++ after, hostOf? e.raw ≠ some h := by
  obtain ⟨entries, hentries, hall⟩ := entries_of_takeRows hj
  obtain ⟨before, after, hstarts, hothers⟩ := ht.starts_eq
  rw [List.head?_nil, hstarts] at hall
  obtain ⟨es, es', rfl, hbefore, hrest⟩ := exists_append_of_forall₂ hall
  obtain ⟨entry, es', hentry, hafter, rfl⟩ := List.forall₂_cons_left_iff.mp hrest
  have hother {e : Entry} {part : List Row} {es : List Entry} (hp : part ⊆ before ++ after)
      (hes : List.Forall₂ (Registers ask) part es) (he : e ∈ es) : hostOf? e.raw ≠ some h := by
    obtain ⟨row, hr, hreg⟩ := exists_of_mem_right hes he
    obtain ⟨g, hg, hne⟩ := hothers row (hp hr)
    rw [hostOf?_of_registers hreg, hg]
    exact fun e => hne (Option.some.inj e)
  refine ⟨es, entry, es', hentries, hentry, fun e he => ?_⟩
  rcases List.mem_append.mp he with he | he
  · exact hother (List.subset_append_left _ _) hbefore he
  · exact hother (List.subset_append_right _ _) hafter he

lemma Together.get?_column {path : String} {seen : List String} {j : Intake σ} {entry : Entry}
    {address : Address} (ht : Together h first rest rows)
    (hj : takeRows ask path names [] rows i = (.ok seen, j))
    (ha : parse first.raw defaultProtocol = .ok address) (hn : Unhidden names address.vars)
    (hfree : ∀ key, i.registry.scopes.hostValues? h key = none)
    (hentry : Registers ask first entry) {name : String} (hname : name ∈ names) (domain : String)
    (res : Variables.Reserved) :
    ((j.registry.scopes.merge h entry.queryVars domain).reserve res).get? name =
      some ((first :: rest).map (·.cell names name)) := by
  have hquery : entry.queryVars.get? name = none := by
    obtain ⟨-, address', s, s', ha', hq⟩ := hentry
    obtain rfl := Except.ok.inj (ha.symm.trans ha')
    exact get?_of_answerAll hq (hn.query name hname)
  have hkeys := hn.computed name hname
  simp only [List.mem_cons, List.not_mem_nil, or_false, not_or] at hkeys
  obtain ⟨hhost, hfile, hrunner, hparent⟩ := hkeys
  rw [Variables.get?_reserve, if_neg hfile, if_neg hrunner, if_neg hparent, Scopes.get?_merge,
    if_neg hhost, hquery, hostValues?_of_takeRows hj hn.nodup, ht.rowsOf_eq,
    if_pos ⟨List.cons_ne_nil _ _, hname⟩, hfree]
  rfl

/-! ### Rendering -/

/-- **The commands of a table's host.** A table in which the rows of a host stand together
registers the host once. Whatever protocol is the default, the entry is the host's, and its
script makes of each line that refers to columns, and else only to variables with one value, one
command for each row, filled from that row. -/
theorem addTable_renders {address : Address} (htext : Intake.readList disk path = .ok text)
    (hread : Table.read text.toList = .ok (names, rows)) (ht : Together h first rest rows)
    (ha : parse first.raw defaultProtocol = .ok address) (hn : Unhidden names address.vars)
    (hask : ∀ row ∈ starts none rows, Answered ask row)
    (hfree : ∀ key, i.registry.scopes.hostValues? h key = none) :
    ∃ j before entry after, Intake.addTable ask disk path i = (.ok (), j) ∧
      j.registry.entries = i.registry.entries ++ (before ++ entry :: after) ∧
      entry.raw = first.raw ∧ (∀ e ∈ before ++ after, hostOf? e.raw ≠ some h) ∧
      (∀ o : Options, (∀ name ∈ o.protocol, ∃ p : Protocol, name = p.scheme) →
        ∃ a, addressOf entry o = .ok a ∧ a.hostname = h) ∧
      ∀ (r : Runner) (disk : Disk) (ctx : RunContext) (o : Options) (a : Address),
        r.registry = j.registry → addressOf entry o = .ok a → a.hostname = h →
        (∀ loaded script p, r.script = some loaded →
          scriptFor loaded o disk (r.variablesOf ctx entry o loaded a) = .ok script →
          Protocol.ofScheme? a.protocol = some p →
          r.compile disk ctx entry o = .ok (.plan (r.planFor ctx o a p script))) ∧
        ∀ p, r.compile disk ctx entry o = .ok (.plan p) →
          p.script.commands = .ok (p.script.lines.flatMap (·.render p.script.vars)) ∧
          ∀ l ∈ p.script.lines, (∃ name ∈ l.names, name ∈ names) → ∀ value : String → String,
            (∀ name ∈ l.names, name ∉ names → p.script.get? name = some [value name]) →
            l.render p.script.vars = (first :: rest).map fun row => l.fill fun name =>
              if name ∈ names then row.cell names name else value name := by
  obtain ⟨seen, j, hj, hadd⟩ :=
    exists_takeRows_of_addTable (i := i) htext hread ht.isSome_hostname? hask
  obtain ⟨before, entry, after, hentries, hentry, hothers⟩ := ht.entries hj
  refine ⟨j, before, entry, after, hadd, hentries, hentry.1, hothers, fun o ho => ?_,
    fun r disk ctx o a hr haddress hhost => ⟨fun loaded script p hl hs hp => ?_, fun p hp => ?_⟩⟩
  · -- the protocol of the options changes nothing about the hostname
    have hfirst : address.hostname = h :=
      Option.some.inj ((hostname?_of_parse ha).symm.trans ht.hostname?_first)
    unfold addressOf
    rw [hentry.1]
    cases hp : o.protocol with
    | none => exact ⟨address, ha, hfirst⟩
    | some name =>
      obtain ⟨p, rfl⟩ := ho name hp
      obtain ⟨b, hb, hhost⟩ := hostname_of_parse (p := p) ha
      exact ⟨b, hb, hhost.trans hfirst⟩
  · rw [compile_of_some _ _ _ _ _ hl, haddress]
    simp only [hs, hp]
  · have hc := compiles r disk ctx entry o
    rw [hp] at hc
    cases hc with
    | @plan loaded a' script protocol hl ha' hs hscheme =>
      obtain rfl := Except.ok.inj (haddress.symm.trans ha')
      obtain ⟨text, hscript⟩ := exists_read_of_scriptFor hs
      have hvars : script.vars = r.variablesOf ctx entry o loaded a := vars_of_scriptFor hs
      refine ⟨Script.commands_of_read hscript, fun l hl hsome value hvalue => ?_⟩
      refine Script.Line.render_rows (List.cons_ne_nil _ _) hsome (fun name _ hcol => ?_) hvalue
      show script.vars.get? name = _
      rw [hvars, variablesOf, hr, hhost]
      exact ht.get?_column hj ha hn hfree hentry hcol _ _

end Intake

/-- A host with two rows, spelled in two ways and the second one short, between two others. -/
theorem addTable_renders_two_rows :
    let loaded : Loaded := { code := "$port $vlan $hostname", filename := none }
    let text := "hostname\tport\tvlan\nr0\tge9\t1\nssh://r1:22\tge0\t7\n\nr1\tge1\nr2\tx\n"
    ∃ j entry p,
      Intake.addTable noAnswers (({} : Disk).withFile "ports" (Text.toBytes text)) "ports"
        { registry := {}, asker := () } = (.ok (), j) ∧
      j.registry.entries.length = 3 ∧ entry ∈ j.registry.entries ∧
      ({ registry := j.registry, script := some loaded } : Runner).compile {} oneThread entry {} =
        .ok (.plan p) ∧
      p.script.commands = .ok ["ge0 7 r1", "ge1  r1"] := by
  intro loaded text
  let first : Row := { raw := "ssh://r1:22", cells := ["ge0", "7"] }
  let second : Row := { raw := "r1", cells := ["ge1"] }
  let others : List Row := [{ raw := "r0", cells := ["ge9", "1"] }, { raw := "r2", cells := ["x"] }]
  let disk := ({} : Disk).withFile "ports" (Text.toBytes text)
  let address : Address := ⟨"ssh", none, none, "r1", some 22, ∅⟩
  have htext : Intake.readList disk "ports" = .ok text := by decide +kernel
  have hread : Table.read text.toList = .ok (["port", "vlan"],
      [others[0]] ++ first :: [second] ++ [others[1]]) := by decide +kernel
  have ht : Together "r1" first [second] ([others[0]] ++ first :: [second] ++ [others[1]]) :=
    .mk (by decide +kernel) (List.forall_mem_cons.mpr ⟨⟨"r0", by decide +kernel, by decide⟩,
      List.forall_mem_cons.mpr ⟨⟨"r2", by decide +kernel, by decide⟩, nofun⟩⟩)
  have hask : ∀ row ∈ starts none ([others[0]] ++ first :: [second] ++ [others[1]]),
      Answered noAnswers row := by
    intro row hr a ha s
    have hvars : ∀ row ∈ [others[0]] ++ first :: [second] ++ [others[1]],
        (parse row.raw defaultProtocol).map (·.vars) = .ok ∅ := by decide +kernel
    have hrow := hvars row (mem_of_mem_starts hr)
    rw [ha] at hrow
    rw [show a.vars = ∅ from Except.ok.inj hrow]
    exact ⟨∅, s, rfl⟩
  have haddress : parse first.raw defaultProtocol = .ok address := by decide +kernel
  obtain ⟨j, before, entry, after, hadd, hentries, hraw, -, -, hrun⟩ :=
    addTable_renders (i := { registry := {}, asker := () }) htext hread ht haddress
      ⟨by decide, by decide, fun _ _ => rfl⟩ hask (fun _ => rfl)
  have hj : (Intake.addTable noAnswers disk "ports" { registry := {}, asker := () }).2.registry =
      { entries := [⟨"r0", ∅⟩, ⟨"ssh://r1:22", ∅⟩, ⟨"r2", ∅⟩]
        scopes := {
          overlays := .ofList [
            ("r0", .ofList [("port", ["ge9"]), ("vlan", ["1"])]),
            ("r1", .ofList [("port", ["ge0", "ge1"]), ("vlan", ["7", ""])]),
            ("r2", .ofList [("port", ["x"]), ("vlan", [""])])] } } := by decide +kernel
  rw [hadd] at hj
  have hmem : entry ∈ j.registry.entries := by
    rw [hentries]
    simp
  obtain rfl : entry = ⟨"ssh://r1:22", ∅⟩ := by
    rw [hj] at hmem
    simp only [List.mem_cons, List.not_mem_nil, or_false] at hmem
    rcases hmem with rfl | rfl | rfl
    · exact absurd hraw (by decide)
    · rfl
    · exact absurd hraw (by decide)
  let r : Runner := { registry := j.registry, script := some loaded }
  obtain ⟨hplan, hcommands⟩ := hrun r {} oneThread {} address rfl (by decide +kernel) rfl
  let line : Script.Line :=
    { number := 1
      pieces := [.ref "port", .char ' ', .ref "vlan", .char ' ', .ref "hostname"] }
  let vars := r.variablesOf oneThread ⟨"ssh://r1:22", ∅⟩ {} loaded address
  have hvars : vars =
      (j.registry.scopes.merge "r1" ∅ "").reserve (reserved loaded {} oneThread) := rfl
  rw [hj] at hvars
  have hp := hplan loaded { lines := [line], vars } (.ssh none) rfl (by
    show Script.read loaded.code vars = _
    rw [hvars]
    decide +kernel) rfl
  obtain ⟨hflat, hlines⟩ := hcommands _ hp
  have hline : line.render vars = [first, second].map fun row => line.fill fun name =>
      if name ∈ ["port", "vlan"] then row.cell ["port", "vlan"] name else "r1" :=
    hlines line List.mem_cons_self ⟨"port", by decide, by decide⟩ (fun _ => "r1") (by
      show ∀ name ∈ line.names, name ∉ ["port", "vlan"] → vars.get? name = some ["r1"]
      rw [hvars]
      decide +kernel)
  have hrender : line.render vars = ["ge0 7 r1", "ge1  r1"] := hline.trans (by decide +kernel)
  refine ⟨j, _, _, hadd, by rw [hj]; rfl, hmem, hp, hflat.trans ?_⟩
  exact congrArg (fun commands => Except.ok (commands ++ [])) hrender

end FleetScript.Runner
