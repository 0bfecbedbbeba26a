import FleetScript.Proofs.Dispatch.Handling
import FleetScript.Proofs.Host.Schemes
import FleetScript.Proofs.Runner.Operations

/-!
What stops a dispatch. A script that is not loaded stops it before the first host. After that only a
host whose address cannot be read does; such a host could be registered, since then its address was
read with another default protocol. This takes a protocol in the options that is no plain scheme,
and an address without a scheme of its own.
-/

namespace FleetScript

open Host Text

/-! ### Addresses that can no longer be read -/

namespace Runner

/-- Whether the address of a host cannot be read with the protocol of the options. -/
def Misread (o : Options) (entry : Host.Entry) : Prop := ∃ cause, addressOf entry o = .error cause

/-- A host that could be registered is misread only if it takes the protocol of the options, and
that is no scheme that keeps hosts as they are. -/
lemma Misread.protocol {o : Options} {entry : Host.Entry} {address : Address}
    (h : parse entry.raw defaultProtocol = .ok address) (hm : Misread o entry) :
    ∃ protocol, o.protocol = some protocol ∧ ¬KeepsHosts protocol ∧
      occurs "://".toList (trimChars entry.raw.toList) = false := by
  obtain ⟨cause, hcause⟩ := hm
  unfold addressOf at hcause
  cases hp : o.protocol with
  | none =>
    rw [hp] at hcause
    cases h.symm.trans hcause
  | some protocol =>
    rw [hp] at hcause
    refine ⟨protocol, rfl, fun hkeeps => ?_, ?_⟩
    · obtain ⟨address', haddress', -⟩ := hkeeps.hostname_of_parse h
      cases haddress'.symm.trans hcause
    · refine Bool.eq_false_iff.mpr fun hoccurs => ?_
      rw [parse_of_occurs hoccurs _ defaultProtocol] at hcause
      cases h.symm.trans hcause

end Runner

/-- A host stops the dispatch of a loaded script if its address cannot be read. -/
lemma Handled.stop?_eq_some_iff {r : Runner} {loaded : Loaded} (hl : r.script = some loaded)
    {disk : Disk} {ctx : RunContext} {o : Options} {x : Handled}
    (h : r.compile disk ctx x.entry o = x.outcome) {cause : RunnerError} :
    x.stop? = some cause ↔
      ∃ host, Runner.addressOf x.entry o = .error host ∧ cause = .host host := by
  have hc := Runner.compiles r disk ctx x.entry o
  rw [h] at hc
  obtain ⟨entry, outcome⟩ := x
  cases hc with
  | notLoaded hnone => cases hl.symm.trans hnone
  | host _ ha => simp [stop?, ha, eq_comm]
  | script _ ha _ => simp [stop?, ha]
  | unsupported _ ha _ _ => simp [stop?, ha]
  | plan _ ha _ _ => simp [stop?, ha]

namespace Dispatch

open Operation

variable {σ : Type} {r : Runner} {o : Options} {name : String} {t : Transport σ} {threads : Nat}
  {disk : Disk} {d d' : Dispatch σ}

/-! ### Without a script -/

lemma stopped_of_leads (hl : r.script = none)
    (h : Leads r o name t (start r threads disk) d) : d.stopped = some .notLoaded := by
  induction h with
  | refl =>
    unfold start
    rw [hl]
    rfl
  | step _ e he ih =>
    cases takes_of_step? he with
    | handle _ hs =>
      rw [hs] at ih
      cases ih
    | reserve | run | move | collect => exact ih
  | ends _ _ _ _ _ ih => exact ih

/-! ### With a script -/

section Loaded

variable {loaded : Loaded} {xs : List Handled} {es : List (Queue.Event Sequence)}

/-- A host that has been handled stopped the dispatch if its address cannot be read. -/
lemma Account.stop?_iff (hl : r.script = some loaded)
    (h : Account r o name t threads disk d xs es) {x : Handled} (hx : x ∈ xs)
    {cause : RunnerError} :
    x.stop? = some cause ↔
      ∃ host, Runner.addressOf x.entry o = .error host ∧ cause = .host host := by
  obtain ⟨n, hn⟩ := List.mem_iff_getElem?.mp hx
  obtain ⟨d₀, -, -, -, -, -, hcompile⟩ := h.turns n x hn
  exact Handled.stop?_eq_some_iff hl hcompile

lemma Account.not_misread (hl : r.script = some loaded)
    (h : Account r o name t threads disk d xs es) {x : Handled} (hx : x ∈ xs)
    (hnone : x.stop? = none) : ¬Runner.Misread o x.entry := by
  rintro ⟨host, hhost⟩
  have hstop := (h.stop?_iff hl hx).mpr ⟨host, hhost, rfl⟩
  rw [hnone] at hstop
  cases hstop

/-- A dispatch that comes to an error has met the first host that is misread. -/
lemma Account.misread_of_error (hl : r.script = some loaded)
    (h : Account r o name t threads disk d xs es) {cause : RunnerError}
    (hresult : d.result = .error cause) :
    ∃ before entry later host, r.registry.entries = before ++ entry :: later ∧
      (∀ e ∈ before, ¬Runner.Misread o e) ∧ Runner.addressOf entry o = .error host ∧
      cause = .host host := by
  obtain ⟨before, x, rfl, hx, hbefore, -⟩ := h.result_error hresult
  obtain ⟨host, hhost, hcause⟩ := (h.stop?_iff hl (by simp)).mp hx
  refine ⟨before.map Handled.entry, x.entry, d.hosts, host, ?_, fun e he => ?_, hhost, hcause⟩
  · rw [← h.hosts]
    simp
  · obtain ⟨y, hy, rfl⟩ := List.mem_map.mp he
    exact h.not_misread hl (List.mem_append_left _ hy) (hbefore y hy)

/-- A dispatch that comes to no error has handled all hosts, none of which is misread. -/
lemma Account.not_misread_of_ok (hl : r.script = some loaded)
    (h : Account r o name t threads disk d xs es) (hdone : d.stopped.isSome ∨ d.hosts = [])
    {summary : Summary} (hresult : d.result = .ok summary) :
    (∀ entry ∈ r.registry.entries, ¬Runner.Misread o entry) ∧
      summary.submitted + summary.skipped.length + summary.failed.length =
        r.registry.entries.length := by
  obtain ⟨-, hnone, hcount⟩ := h.result_ok hresult
  have hnil : d.hosts = [] := by
    refine hdone.resolve_left fun hstopped => ?_
    obtain ⟨cause, hcause⟩ := Option.isSome_iff_exists.mp hstopped
    unfold result at hresult
    rw [hcause] at hresult
    cases hresult
  have hentries : xs.map Handled.entry = r.registry.entries := by
    rw [← h.hosts, hnil, List.append_nil]
  refine ⟨fun entry hentry => ?_, ?_⟩
  · rw [← hentries] at hentry
    obtain ⟨x, hx, rfl⟩ := List.mem_map.mp hentry
    exact h.not_misread hl hx (hnone x hx)
  · rw [hcount, ← hentries, List.length_map]

end Loaded

/-! ### Dispatches after any operations -/

/-- **What stops a dispatch**: a script that is not loaded, or else the first host that is misread.
With the hosts of a runner this takes a protocol in the options that is no plain scheme. -/
theorem stopped_by_misread (s : Settings) (ops : List Operation) (hr : r = after ops (.new s))
    (h : Leads r o name t (start r threads disk) d) :
    (∃ d', Reaches r o name t d d' ∧ Over d') ∧
    (d.stopped.isSome ∨ d.hosts = [] →
      (r.script = none → d.result = .error .notLoaded) ∧
      (r.script.isSome →
        ((∃ summary, d.result = .ok summary) ↔
          ∀ entry ∈ r.registry.entries, ¬Runner.Misread o entry) ∧
        (∀ summary, d.result = .ok summary →
          summary.submitted + summary.skipped.length + summary.failed.length =
            r.registry.entries.length) ∧
        ∀ cause, d.result = .error cause →
          ∃ before entry later host, r.registry.entries = before ++ entry :: later ∧
            (∀ e ∈ before, ¬Runner.Misread o e) ∧ Runner.addressOf entry o = .error host ∧
            cause = .host host)) ∧
    ∀ entry ∈ r.registry.entries, Runner.Misread o entry →
      ∃ protocol, o.protocol = some protocol ∧ ¬KeepsHosts protocol ∧
        occurs "://".toList (trimChars entry.raw.toList) = false := by
  refine ⟨exists_over (ready_of_leads h), fun hdone => ⟨fun hnone => ?_, fun hl => ?_⟩,
    fun entry hentry hm => ?_⟩
  · unfold result
    rw [stopped_of_leads hnone h]
  · obtain ⟨xs, es, ha⟩ := account_of_leads hl h
    obtain ⟨loaded, hl⟩ := Option.isSome_iff_exists.mp hl
    refine ⟨⟨?_, fun hall => ?_⟩, fun summary hresult => ?_, fun cause hresult => ?_⟩
    · rintro ⟨summary, hresult⟩
      exact (ha.not_misread_of_ok hl hdone hresult).1
    · cases hresult : d.result with
      | ok summary => exact ⟨summary, rfl⟩
      | error cause =>
        obtain ⟨before, entry, later, host, hentries, -, hhost, -⟩ :=
          ha.misread_of_error hl hresult
        exact absurd ⟨host, hhost⟩ (hall entry (by rw [hentries]; simp))
    · exact (ha.not_misread_of_ok hl hdone hresult).2
    · exact ha.misread_of_error hl hresult
  · -- all hosts were registered by the operations
    obtain ⟨more, hmore, hparsed⟩ := (grown_after ops (.new s)).entries
    rw [hr, hmore] at hentry
    obtain ⟨address, haddress⟩ := hparsed entry hentry
    exact hm.protocol haddress

/-- Under a protocol that sessions speak all hosts are handled. -/
theorem stopped_by_misread_never :
    let r := after [.register noAnswers () (.hosts ["r1", "ssh://r2"]), .load "show version"]
      (.new {})
    let o : Options := { protocol := some "ssh" }
    ∃ d : Dispatch DryRun.State, Leads r o "tool" DryRun.transport (start r 1 {}) d ∧
      d.hosts = [] ∧ ∃ summary, d.result = .ok summary ∧
        summary.submitted + summary.skipped.length + summary.failed.length =
          r.registry.entries.length := by
  intro r o
  obtain ⟨d, hd, hhosts⟩ :
      ∃ d ∈ dryRun r o 1 {} (handleEvents 2), d.hosts = [] := by
    decide +kernel
  have hlead := (reaches_of_dryRun hd).leads
  obtain ⟨-, hover, hmisread⟩ := stopped_by_misread _ _ rfl hlead
  obtain ⟨hok, hcount, -⟩ := (hover (.inr hhosts)).2 (by decide +kernel)
  obtain ⟨summary, hsummary⟩ := hok.mpr fun entry hentry hm => by
    obtain ⟨protocol, hprotocol, hkeeps, -⟩ := hmisread entry hentry hm
    obtain rfl := Option.some.inj hprotocol
    exact hkeeps (keepsHosts_scheme (.ssh none))
  exact ⟨d, hlead, hhosts, summary, hsummary, hcount summary hsummary⟩

/-- A protocol with a blank at its end is part of no address, and stops the dispatch of a host that
takes it; the host after that is not handled. -/
theorem stopped_by_blank_in_protocol :
    let r := after [.register noAnswers () (.hosts ["r1", "ssh://r2"]), .load "show version"]
      (.new {})
    let o : Options := { protocol := some "ssh " }
    r.registry.entries = [⟨"r1", ∅⟩, ⟨"ssh://r2", ∅⟩] ∧ r.script.isSome ∧
      ∃ d : Dispatch DryRun.State, Reaches r o "tool" DryRun.transport (start r 1 {}) d ∧ Over d ∧
        d.result = .error (.host (.invalidHost "r1" (.url .withoutScheme))) ∧
        d.hosts = [⟨"ssh://r2", ∅⟩] ∧ d.summary = {} := by
  intro r o
  obtain ⟨d, hd, hstopped⟩ :
      ∃ d ∈ dryRun r o 1 {} (handleEvents 1),
        Over d ∧ d.result = .error (.host (.invalidHost "r1" (.url .withoutScheme))) ∧
          d.hosts = [⟨"ssh://r2", ∅⟩] ∧ d.summary = {} := by
    decide +kernel
  exact ⟨by decide +kernel, by decide +kernel, d, reaches_of_dryRun hd, hstopped⟩

end Dispatch

end FleetScript
