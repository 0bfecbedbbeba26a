import FleetScript.Proofs.Runner.Compile
import FleetScript.Proofs.Session.Passwords

/-!
Runs with two passwords. The options of a run give a password to a plan and to nothing else, so
hosts compile alike with any two of them, and the sessions of the plans differ in what a telnet
client reads from its input (`passwords_reach_input_only`).
-/

namespace FleetScript

open Session

/-! ### Plans -/

/-- Plans that differ in a given password of their login at most. -/
structure Plan.AlikeButPassword (p q : Plan) : Prop where
  name : p.name = q.name
  connect : p.connect = q.connect
  authentication : Option.Rel Authentication.AlikeButPassword p.authentication q.authentication
  script : p.script = q.script
  log : p.log = q.log

lemma Plan.AlikeButPassword.sequence {p q : Plan} (h : p.AlikeButPassword q) :
    p.sequence.AlikeButPassword q.sequence :=
  ⟨h.name, h.connect, h.authentication, congrArg (·.commands.mapError (·.message)) h.script, h.log⟩

/-- Compiling comes to the same failure, to the same protocol that is not spoken, or to plans that
differ in a given password at most. -/
inductive CompiledAlike : Except RunnerError Compiled → Except RunnerError Compiled → Prop where
  | failed (e : RunnerError) : CompiledAlike (.error e) (.error e)
  | unsupported (protocol : String) :
    CompiledAlike (.ok (.unsupported protocol)) (.ok (.unsupported protocol))
  | plan {p q : Plan} (h : p.AlikeButPassword q) : CompiledAlike (.ok (.plan p)) (.ok (.plan q))

namespace Runner

variable (r : Runner) (disk : Disk) (ctx : RunContext) (entry : Host.Entry) (o : Options)
  (a b : String)

/-- The password of an address comes before that of the options, and a key before both. -/
lemma authentication_alike (address : Host.Address) :
    Option.Rel Authentication.AlikeButPassword
      (authentication address { o with password := some a })
      (authentication address { o with password := some b }) := by
  unfold authentication
  dsimp only
  split
  · exact .none
  · split
    · exact .some (.refl _)
    · cases address.password with
      | some given => exact .some (.refl _)
      | none => exact .some (.password _ a b _)

lemma planFor_alike (address : Host.Address) (protocol : Protocol) (script : Script) :
    (r.planFor ctx { o with password := some a } address protocol script).AlikeButPassword
      (r.planFor ctx { o with password := some b } address protocol script) where
  name := rfl
  connect := rfl
  authentication := authentication_alike o a b address
  script := rfl
  log := rfl

/-- No part of compiling looks at the password of the options. -/
lemma compile_alike :
    CompiledAlike (r.compile disk ctx entry { o with password := some a })
      (r.compile disk ctx entry { o with password := some b }) := by
  cases hl : r.script with
  | none =>
    rw [compile_of_none _ _ _ _ _ hl, compile_of_none _ _ _ _ _ hl]
    exact .failed _
  | some loaded =>
    rw [compile_of_some _ _ _ _ _ hl, compile_of_some _ _ _ _ _ hl]
    have haddress : addressOf entry { o with password := some b } =
        addressOf entry { o with password := some a } := rfl
    have hscript (vars : Variables) : scriptFor loaded { o with password := some b } disk vars =
        scriptFor loaded { o with password := some a } disk vars := rfl
    have hvars (address : Host.Address) :
        r.variablesOf ctx entry { o with password := some b } loaded address =
          r.variablesOf ctx entry { o with password := some a } loaded address := rfl
    rw [haddress]
    split
    · exact .failed _
    · rw [hvars, hscript]
      split
      · exact .failed _
      · split
        · exact .unsupported _
        · exact .plan (planFor_alike r ctx o a b _ _ _)

/-- **A password reaches the input of a telnet client only.** With any two passwords in the options
a host compiles alike. A dry run of the plans then comes to the same. Clients are started with the
same arguments; if they are not telnet they also read the same, and the sessions come to the same;
and so they do with telnet, as long as the client itself does not look at what it reads. -/
theorem passwords_reach_input_only :
    CompiledAlike (r.compile disk ctx entry { o with password := some a })
        (r.compile disk ctx entry { o with password := some b }) ∧
      ∀ p q, r.compile disk ctx entry { o with password := some a } = .ok (.plan p) →
        r.compile disk ctx entry { o with password := some b } = .ok (.plan q) →
        ∀ disk' : Disk,
          (run DryRun.transport p.sequence disk').Alike Eq
            (run DryRun.transport q.sequence disk') ∧
          ∀ programs : Client.Programs,
            (∀ c, c ∈ (run (Client.transport programs) p.sequence disk').state.clients ∨
                c ∈ (run (Client.transport programs) q.sequence disk').state.clients →
              c.client = p.connect.protocol.client ∧
                c.args = Client.arguments p.connect p.authentication) ∧
            (p.connect.protocol ≠ .telnet →
              (run (Client.transport programs) p.sequence disk').Alike
                (fun s v => s.clients = v.clients)
                (run (Client.transport programs) q.sequence disk')) ∧
            (Client.IgnoresInput programs →
              (run (Client.transport programs) p.sequence disk').Alike
                (fun s v => List.Forall₂ Client.StartedAlike s.clients v.clients)
                (run (Client.transport programs) q.sequence disk')) := by
  have halike := compile_alike r disk ctx entry o a b
  refine ⟨halike, ?_⟩
  intro p q hp hq disk'
  have hplans : p.AlikeButPassword q := by
    rw [hp, hq] at halike
    cases halike with
    | plan h => exact h
  have hsequence := hplans.sequence
  refine ⟨DryRun.run_alike_of_password hsequence disk', fun programs => ⟨?_, ?_, ?_⟩⟩
  · rintro c (hc | hc)
    · exact Client.started_of_mem_clients hc
    · obtain ⟨hclient, hargs⟩ := Client.started_of_mem_clients hc
      rw [hplans.connect, Client.arguments_alike q.connect hplans.authentication]
      exact ⟨hclient, hargs⟩
  · intro hssh
    refine ((Client.overlooks_nothing programs).run_alike hsequence
      (Client.logins_of_not_telnet hssh) disk').imp fun hclients => ?_
    rwa [List.forall₂_eq_eq_eq] at hclients
  · intro hignores
    exact hignores.overlooks.run_alike hsequence (Client.logins_anything _) disk'

/-- An ssh host with two passwords: the plans hold them, and no session shows them. -/
theorem passwords_reach_input_only_ssh :
    let entry : Host.Entry := { raw := "ssh://ops@r1", queryVars := ∅ }
    let r : Runner := .ofHosts [entry] "show version"
    ∃ p q, r.compile {} oneThread entry { password := some "abc" } = .ok (.plan p) ∧
      r.compile {} oneThread entry { password := some "xyz" } = .ok (.plan q) ∧
      p.authentication = some (.password (some "ops") (some "abc") true) ∧
      q.authentication = some (.password (some "ops") (some "xyz") true) ∧
      (run DryRun.transport p.sequence {}).Alike Eq (run DryRun.transport q.sequence {}) ∧
      ∀ programs, (run (Client.transport programs) p.sequence {}).Alike
        (fun s v => s.clients = v.clients) (run (Client.transport programs) q.sequence {}) := by
  intro entry r
  obtain ⟨p, hp, hclient, hpassword⟩ :
      ∃ p ∈ r.plan? {} oneThread entry { password := some "abc" },
        p.connect.protocol ≠ .telnet ∧
        p.authentication = some (.password (some "ops") (some "abc") true) := by
    decide +kernel
  obtain ⟨q, hq, hpassword'⟩ : ∃ q ∈ r.plan? {} oneThread entry { password := some "xyz" },
      q.authentication = some (.password (some "ops") (some "xyz") true) := by
    decide +kernel
  have hp := compile_of_plan? hp
  have hq := compile_of_plan? hq
  obtain ⟨hdry, hclients⟩ :=
    (passwords_reach_input_only r {} oneThread entry {} "abc" "xyz").2 p q hp hq {}
  exact ⟨p, q, hp, hq, hpassword, hpassword', hdry, fun programs => (hclients programs).2.1 hclient⟩

end Runner

end FleetScript
