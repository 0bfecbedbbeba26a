import FleetScript.Proofs.Disk.Places
import FleetScript.Proofs.Json.Printing
import FleetScript.Proofs.Settings.Loading

/-!
Saved settings are read back. The form of settings as JSON holds whole numbers alone, so its text is
read back as that form, and each of its members is read into its field, whatever their order.
-/

namespace FleetScript.Settings

open Json

/-! ### The form as JSON -/

lemma whole_strings (l : List (String × String)) :
    WholeMembers (l.map fun (k, v) => (k, Json.string v)) := by
  induction l with
  | nil => trivial
  | cons p l ih => exact ⟨trivial, ih⟩

lemma normal_strings (m : Bindings String) :
    normal (.object (m.pairs.map fun (k, v) => (k, Json.string v))) =
      .object (m.pairs.map fun (k, v) => (k, Json.string v)) := by
  have hmembers (l : List (String × String)) :
      normalMembers (l.map fun (k, v) => (k, Json.string v)) =
        l.map fun (k, v) => (k, Json.string v) := by
    induction l with
    | nil => rfl
    | cons p l ih => exact congrArg _ ih
  rw [normal, hmembers]
  exact congrArg (fun b => Json.object b.pairs) (Bindings.ofList_pairs (m.map fun _ => .string))

variable {s : Settings}

lemma whole_toJson (hversion : s.version ≤ 0xFFFFFFFF)
    (hthreads : s.maxThreads ≤ Number.maxNatural) : s.toJson.Whole := by
  have hmax : (0xFFFFFFFF : Nat) ≤ Number.maxNatural := by decide
  refine ⟨hversion.trans hmax, trivial, ?_, trivial, hthreads, trivial, whole_strings _, trivial⟩
  cases s.logdir <;> trivial

lemma exists_members (hversion : s.version ≤ 0xFFFFFFFF)
    (hthreads : s.maxThreads ≤ Number.maxNatural) :
    ∃ members, s.toJson.normal = ofMembers members ∧
      members.map (·.1) = slots.map Slot.key ∧
        ∀ f ∈ slots, f.Takes {} s (members.reverse.lookup f.key) := by
  have hdefines : asStrings (normal (.object (s.defines.pairs.map fun (k, v) => (k, .string v)))) =
      .ok s.defines := by
    rw [normal_strings, asStrings_strings]
  refine ⟨normalMembers _, rfl, rfl, ?_⟩
  simp only [slots, List.forall_mem_cons, List.not_mem_nil, false_imp_iff, implies_true, and_true]
  refine ⟨if_pos hversion, rfl, ?_, rfl, if_pos hthreads, rfl, hdefines⟩
  obtain ⟨version, domain, _ | dir, overwriteLogs, maxThreads, protocol, defines⟩ := s <;> rfl

/-- **Settings are read back from their form as JSON.** -/
theorem ofJson_toJson (hversion : s.version ≤ 0xFFFFFFFF)
    (hthreads : s.maxThreads ≤ Number.maxNatural) : ofJson s.toJson.normal = .ok s := by
  obtain ⟨members, hmembers, hkeys, htakes⟩ := exists_members hversion hthreads
  have hgiven : "version" ∈ slots.map Slot.key := by decide
  rw [hmembers, ofJson_ofMembers_iff, hkeys]
  exact ⟨fun _ => id, hgiven, htakes⟩

/-! ### The file -/

lemma ofText_print (path : String) (hversion : s.version ≤ 0xFFFFFFFF)
    (hthreads : s.maxThreads ≤ Number.maxNatural) (hvalid : s.validate = .ok ()) :
    ofText path (print s.toJson) = .ok s := by
  unfold ofText
  rw [read_print (whole_toJson hversion hthreads)]
  simp only [ofJson_toJson hversion hthreads, hvalid]

/-- Saving ends with writing the form of the settings, on the disk that the backup leaves. -/
lemma exists_write_of_save {path : String} {disk disk' : Disk}
    (h : save s path disk = (.ok (), disk')) :
    ∃ d : Disk, d.write path .replace (Text.toBytes (print s.toJson)) = .ok disk' := by
  unfold save at h
  split at h
  · cases h
  split at h
  · cases h
  next d _ =>
  split at h
  · cases h
  next d' hwrite =>
  obtain rfl : d' = disk' := congrArg Prod.snd h
  exact ⟨d, hwrite⟩

/-- **Saved settings are read back.** -/
theorem load_of_save {path : String} {disk disk' : Disk} (hversion : s.version ≤ 0xFFFFFFFF)
    (hthreads : s.maxThreads ≤ Number.maxNatural) (hvalid : s.validate = .ok ())
    (h : save s path disk = (.ok (), disk')) : load disk' path = .ok s := by
  obtain ⟨d, hwrite⟩ := exists_write_of_save h
  have hfind := Disk.find_of_write hwrite
  have htext : disk'.readText path = .ok (print s.toJson) := by
    unfold Disk.readText Disk.read
    rw [hfind]
    simp only [Disk.written, bind, Except.bind, pure, Except.pure, Text.decode?_toBytes]
  have hhas : disk'.has path = true := by
    unfold Disk.has
    rw [hfind]
    rfl
  unfold load
  rw [if_pos hhas, htext]
  exact ofText_print path hversion hthreads hvalid

/-- Text that looks like comments, quotes or escapes, control characters and the greatest numbers
are read back, also over a file that held no settings. -/
theorem load_of_save_over_file :
    let s : Settings :=
      { version := 0xFFFFFFFF
        domain := "// no comment /* at all */"
        logdir := some ""
        overwriteLogs := true
        maxThreads := Json.Number.maxNatural
        protocol := " ssh2\t"
        defines := .ofList
          [("", "null"), ("\"\\u0041\"", "\x00\x1f\x7f\r\n"), ("naïve 😀", "],\u2028")] }
    let disk := ({} : Disk).withFile "etc/config.json" (Text.toBytes "[1, \"old\"] // list")
    load (save s "etc/config.json" disk).2 "etc/config.json" = .ok s := by
  intro s disk
  have hok : (save s "etc/config.json" disk).1.isOk = true := by decide +kernel
  have h : save s "etc/config.json" disk = (.ok (), (save s "etc/config.json" disk).2) := by
    rcases hs : save s "etc/config.json" disk with ⟨_ | _, d⟩
    · rw [hs] at hok
      cases hok
    · rfl
  exact load_of_save (by decide) (by decide) (by decide +kernel) h

end FleetScript.Settings
