import FleetScript.Proofs.Disk.Places
import FleetScript.Proofs.Json.Printing
import FleetScript.Proofs.Json.Records
import FleetScript.Settings.File

/-!
Which settings a file gives. An object describes settings when its keys are known, each of its
values has the type of its field, and the limits are kept; the fields whose keys are left out have
their defaults. A file that holds such an object is loaded as these settings, but for two cases: the
version may not be left out, and a number beyond the greatest passes for a string.
-/

namespace FleetScript.Settings

open Json

/-! ### Fields -/

lemma makeUp_slots : MakeUp slots where
  nodup := by decide
  apart := by
    intro f hf g hg hkey x a
    simp only [slots, List.mem_cons, List.not_mem_nil, or_false] at hf hg
    rcases hf with rfl | rfl | rfl | rfl | rfl | rfl | rfl <;>
      rcases hg with rfl | rfl | rfl | rfl | rfl | rfl | rfl <;>
        first | rfl | exact absurd rfl hkey
  all := by
    intro a b h
    simp only [slots, List.forall_mem_cons] at h
    obtain ⟨hversion, hdomain, hlogdir, hoverwrite, hthreads, hprotocol, hdefines, -⟩ := h
    cases a
    cases b
    simp_all

/-- Members are read as settings if their keys are those of fields, the version among them, and each
field takes what is given for it. -/
lemma ofJson_ofMembers_iff {members : List (String × Json)} {s : Settings} :
    ofJson (ofMembers members) = .ok s ↔
      (∀ k ∈ members.map (·.1), k ∈ slots.map Slot.key) ∧ "version" ∈ members.map (·.1) ∧
        ∀ f ∈ slots, f.Takes {} s (members.reverse.lookup f.key) := by
  have hread : ofJson (ofMembers members) = .ok s ↔ _ :=
    asRecord_ofMembers_iff makeUp_slots "struct Config" ["version"]
  rwa [List.forall_mem_singleton] at hread

/-! ### Objects that describe settings -/

/-- An object describes settings, with a notion of which documents are texts: its keys are known,
each field has the value that is given for it, or else its default, and the limits are kept. -/
structure Describes (T : Document → String → Prop) (ms : List (String × Document)) (s : Settings) :
    Prop where
  known : ∀ m ∈ ms, m.1 ∈ ["version", "domain", "logdir", "overwrite_logs", "max_threads",
    "protocol", "defines"]
  version : Holds (IsNatural 0xFFFFFFFF) ({} : Settings).version (given ms "version") s.version
  domain : Holds T ({} : Settings).domain (given ms "domain") s.domain
  logdir : Holds (IsOptional T) ({} : Settings).logdir (given ms "logdir") s.logdir
  overwriteLogs : Holds IsTruth ({} : Settings).overwriteLogs (given ms "overwrite_logs")
    s.overwriteLogs
  maxThreads : Holds (IsNatural Number.maxNatural) ({} : Settings).maxThreads
    (given ms "max_threads") s.maxThreads
  protocol : Holds T ({} : Settings).protocol (given ms "protocol") s.protocol
  defines : Holds (IsMap T) ({} : Settings).defines (given ms "defines") s.defines
  threads : 1 ≤ s.maxThreads
  supported : (Protocol.ofName? s.protocol).isSome = true

variable {ms : List (String × Document)} {s : Settings}

lemma validate_eq_ok_iff :
    s.validate = .ok () ↔ 1 ≤ s.maxThreads ∧ (Protocol.ofName? s.protocol).isSome = true := by
  unfold validate
  by_cases hthreads : s.maxThreads = 0
  · simp [hthreads]
  · have hpos : 1 ≤ s.maxThreads := by omega
    cases Protocol.ofName? s.protocol <;> simp [hthreads, hpos]

lemma takes_iff (given? : String → Option Document) :
    (∀ f ∈ slots, f.Takes {} s ((given? f.key).map Document.value)) ↔
      Holds (IsNatural 0xFFFFFFFF) ({} : Settings).version (given? "version") s.version ∧
      Holds ReadsAsText ({} : Settings).domain (given? "domain") s.domain ∧
      Holds (IsOptional ReadsAsText) ({} : Settings).logdir (given? "logdir") s.logdir ∧
      Holds IsTruth ({} : Settings).overwriteLogs (given? "overwrite_logs") s.overwriteLogs ∧
      Holds (IsNatural Number.maxNatural) ({} : Settings).maxThreads (given? "max_threads")
        s.maxThreads ∧
      Holds ReadsAsText ({} : Settings).protocol (given? "protocol") s.protocol ∧
      Holds (IsMap ReadsAsText) ({} : Settings).defines (given? "defines") s.defines := by
  simp only [slots, List.forall_mem_cons, List.not_mem_nil, false_imp_iff, implies_true, and_true]
  refine and_congr (Slot.takes_iff ?_ _) <| and_congr (Slot.takes_iff ?_ _) <|
    and_congr (Slot.takes_iff ?_ _) <| and_congr (Slot.takes_iff ?_ _) <|
    and_congr (Slot.takes_iff ?_ _) <| and_congr (Slot.takes_iff ?_ _) (Slot.takes_iff ?_ _)
  · exact fun d x => asNatural_value_iff (by decide)
  · exact fun d x => asString_value_iff
  · exact fun d x => asOptional_value_iff
  · exact fun d x => asBool_value_iff
  · exact fun d x => asNatural_value_iff le_rfl
  · exact fun d x => asString_value_iff
  · exact fun d x => asStrings_value_iff

/-- **An object is read as valid settings** if it gives the version and describes them. -/
theorem ofJson_value_iff :
    ofJson (Document.object ms).value = .ok s ∧ s.validate = .ok () ↔
      (given ms "version").isSome = true ∧ Describes ReadsAsText ms s := by
  have hkeys : (memberValues ms).map (·.1) = ms.map (·.1) := by
    rw [memberValues_eq, List.map_map]
    rfl
  rw [Document.value, ofJson_ofMembers_iff, hkeys, validate_eq_ok_iff, given_isSome_iff]
  simp only [lookup_memberValues, takes_iff, List.forall_mem_map]
  constructor
  · rintro ⟨⟨hkeys, hgiven, hfields⟩, hthreads, hsupported⟩
    obtain ⟨hversion, hdomain, hlogdir, hoverwrite, hmax, hprotocol, hdefines⟩ := hfields
    exact ⟨hgiven, hkeys, hversion, hdomain, hlogdir, hoverwrite, hmax, hprotocol, hdefines,
      hthreads, hsupported⟩
  · rintro ⟨hgiven, h⟩
    exact ⟨⟨h.known, hgiven, h.version, h.domain, h.logdir, h.overwriteLogs, h.maxThreads,
      h.protocol, h.defines⟩, h.threads, h.supported⟩

/-- The settings of a text are those that its object describes, if it gives the version. -/
lemma ofText_eq_ok_iff (path : String) {text : String}
    (h : (Document.object ms).FileText text.toList) :
    ofText path text = .ok s ↔
      (given ms "version").isSome = true ∧ Describes ReadsAsText ms s := by
  rw [← ofJson_value_iff]
  unfold ofText
  simp only [read_of_fileText h]
  cases ofJson (Document.object ms).value with
  | error cause => simp
  | ok c =>
    simp only [Except.ok.injEq]
    cases hvalid : c.validate with
    | error limit =>
      refine ⟨nofun, ?_⟩
      rintro ⟨rfl, hok⟩
      rw [hvalid] at hok
      cases hok
    | ok =>
      constructor
      · intro h
        obtain rfl : c = s := Except.ok.inj h
        exact ⟨rfl, hvalid⟩
      · rintro ⟨rfl, -⟩
        rfl

/-! ### Numbers in the place of texts -/

/-- A number stands where a text is to stand. -/
def NumberForText (ms : List (String × Document)) : Prop :=
  (∃ k ∈ ["domain", "logdir", "protocol"], ∃ p, given ms k = some (.number p)) ∨
    ∃ defines k p, given ms "defines" = some (.object defines) ∧ given defines k = some (.number p)

lemma isText_of_readsAsText {d : Document} {t : String} (h : ReadsAsText d t)
    (hnumber : ∀ p, d ≠ .number p) : IsText d t := by
  rcases h with h | ⟨p, rfl, -⟩
  · exact h
  · exact absurd rfl (hnumber p)

lemma isOptional_mono {T T' : Document → String → Prop} {d : Document} {o : Option String}
    (h : IsOptional T d o) (hT : ∀ t, T d t → T' d t) : IsOptional T' d o := by
  cases o with
  | none => exact h
  | some t => exact hT t h

lemma isMap_mono {T T' : Document → String → Prop} {d : Document} {m : Bindings String}
    (h : IsMap T d m)
    (hT : ∀ ds k, d = .object ds → ∀ x ∈ given ds k, ∀ t, T x t → T' x t) : IsMap T' d m := by
  obtain ⟨ds, rfl, hall⟩ := h
  refine ⟨ds, rfl, fun k => ?_⟩
  have hT := hT ds k rfl
  cases hgiven : given ds k <;> cases hm : m.get? k <;> have hrel := hall k <;>
    simp only [hgiven, hm] at hrel
  · exact .none
  · cases hrel
  · cases hrel
  · cases hrel with
    | some h => exact .some (hT _ hgiven _ h)

/-- Texts may be read more widely. -/
lemma Describes.readsAsText (h : Describes IsText ms s) : Describes ReadsAsText ms s :=
  { h with
    domain := h.domain.mono fun _ _ => Or.inl
    logdir := h.logdir.mono fun _ _ hd => isOptional_mono hd fun _ => Or.inl
    protocol := h.protocol.mono fun _ _ => Or.inl
    defines := h.defines.mono fun _ _ hd =>
      isMap_mono hd fun _ _ _ _ _ _ => Or.inl }

lemma Describes.isText (h : Describes ReadsAsText ms s) (hnumber : ¬NumberForText ms) :
    Describes IsText ms s := by
  have hkey (k : String) (hk : k ∈ ["domain", "logdir", "protocol"]) :
      ∀ d ∈ given ms k, ∀ p, d ≠ .number p := by
    rintro d hd p rfl
    exact hnumber (.inl ⟨k, hk, p, hd⟩)
  have hdefine : ∀ d ∈ given ms "defines", ∀ ds k, d = .object ds →
      ∀ x ∈ given ds k, ∀ p, x ≠ .number p := by
    rintro d hd ds k rfl x hx p rfl
    exact hnumber (.inr ⟨ds, k, p, hd, hx⟩)
  exact
    { h with
      domain := h.domain.mono fun d hd hx => isText_of_readsAsText hx (hkey _ (by simp) d hd)
      logdir := h.logdir.mono fun d hd hx =>
        isOptional_mono hx fun _ ht => isText_of_readsAsText ht (hkey _ (by simp) d hd)
      protocol := h.protocol.mono fun d hd hx => isText_of_readsAsText hx (hkey _ (by simp) d hd)
      defines := h.defines.mono fun d hd hx => isMap_mono hx fun ds k hds x hx _ ht =>
        isText_of_readsAsText ht (hdefine d hd ds k hds x hx) }

lemma Describes.not_numberForText (h : Describes IsText ms s) : ¬NumberForText ms := by
  rintro (⟨k, hk, p, hgiven⟩ | ⟨ds, k, p, hdefines, hgiven⟩)
  · simp only [List.mem_cons, List.not_mem_nil, or_false] at hk
    rcases hk with rfl | rfl | rfl
    · have hdomain := h.domain
      rw [hgiven] at hdomain
      cases hdomain
    · have hlogdir := h.logdir
      rw [hgiven] at hlogdir
      cases hs : s.logdir <;> rw [hs] at hlogdir <;> cases hlogdir
    · have hprotocol := h.protocol
      rw [hgiven] at hprotocol
      cases hprotocol
  · have hmap := h.defines
    rw [hdefines] at hmap
    obtain ⟨ds', hds, hall⟩ := hmap
    obtain rfl := Document.object.inj hds
    have hrel := hall k
    rw [hgiven] at hrel
    generalize s.defines.get? k = t? at hrel
    cases hrel with
    | some ht => cases ht

/-! ### Files -/

/-- An object that is not loaded although it describes settings, or is loaded although it describes
none. -/
def Misjudged (ms : List (String × Document)) : Prop :=
  ((given ms "version").isNone = true ∧ ∃ s, Describes IsText ms s) ∨
    ((given ms "version").isSome = true ∧ NumberForText ms ∧ ∃ s, Describes ReadsAsText ms s)

lemma has_of_readText {disk : Disk} {path text : String} (h : disk.readText path = .ok text) :
    disk.has path = true := by
  obtain ⟨bytes, hr⟩ := Disk.exists_read_of_readText h
  exact Disk.has_of_read hr

/-- **Which files are loaded.** A file that holds an object is loaded as the settings that the
object describes, if it gives the version, and with numbers beyond the greatest read as texts. It is
loaded just as the object says if neither makes a difference. -/
theorem load_object_iff {disk : Disk} {path text : String} (htext : disk.readText path = .ok text)
    (hspelled : (Document.object ms).FileText text.toList) :
    (∀ s, load disk path = .ok s ↔
      (given ms "version").isSome = true ∧ Describes ReadsAsText ms s) ∧
    ((∀ s, load disk path = .ok s ↔ Describes IsText ms s) ↔ ¬Misjudged ms) := by
  have hload (s : Settings) : load disk path = .ok s ↔
      (given ms "version").isSome = true ∧ Describes ReadsAsText ms s := by
    rw [← ofText_eq_ok_iff path hspelled]
    unfold load
    rw [if_pos (has_of_readText htext), htext]
  refine ⟨hload, ?_, ?_⟩
  · -- each of the two misjudgements is an object on which reading and meaning differ
    rintro hagree (⟨hversion, s, hs⟩ | ⟨hversion, hnumber, s, hs⟩)
    · have hgiven := ((hload s).mp ((hagree s).mpr hs)).1
      rw [Option.isNone_iff_eq_none.mp hversion] at hgiven
      cases hgiven
    · have hstrict := (hagree s).mp ((hload s).mpr ⟨hversion, hs⟩)
      exact hstrict.not_numberForText hnumber
  · intro hnot s
    rw [hload s]
    constructor
    · rintro ⟨hversion, hs⟩
      exact hs.isText fun hnumber => hnot (.inr ⟨hversion, hnumber, s, hs⟩)
    · intro hs
      refine ⟨?_, hs.readsAsText⟩
      by_contra hversion
      exact hnot (.inl ⟨by simpa using hversion, s, hs⟩)

/-- An object without members describes the default settings, but a file that holds it is not
loaded: the version is missing. -/
theorem empty_object_refused :
    let text := "\x7b\x7d"
    let disk := ({} : Disk).withFile "c.json" (Text.toBytes text)
    disk.readText "c.json" = .ok text ∧ (Document.object []).FileText text.toList ∧
      Describes IsText [] {} ∧
      (load disk "c.json").mapError FileError.message = .error
        ("Invalid configuration in c.json. Check for unknown fields or invalid values.: " ++
          "missing field `version`") := by
  intro text disk
  have hspelled : (Document.object []).FileText text.toList := by
    refine ⟨[], ['{', '}'], [], ?_, .nil, ⟨[], rfl, .inl ⟨rfl, .nil⟩⟩, .gap .nil⟩
    decide +kernel
  refine ⟨by decide +kernel, hspelled, ?_, by decide +kernel⟩
  exact
    { known := nofun
      version := rfl
      domain := rfl
      logdir := rfl
      overwriteLogs := rfl
      maxThreads := rfl
      protocol := rfl
      defines := rfl
      threads := le_rfl
      supported := by decide }

def greatNumber : NumberParts :=
  { NumberParts.ofDecimal false 1 with
    power := some ('e', [], (Text.decimal 400).toList)
    power_digits := by
      rintro p ⟨⟩
      exact ⟨.inl rfl, List.mem_cons_self, digits_decimal 400⟩ }

/-- A file whose domain is a number beyond the greatest is loaded with the text of that number. -/
theorem load_great_domain :
    let text := "\x7b\"version\":2,\"domain\":1e400\x7d"
    let ms := [("version", .number (.ofDecimal false 2)), ("domain", .number greatNumber)]
    let disk := ({} : Disk).withFile "c.json" (Text.toBytes text)
    disk.readText "c.json" = .ok text ∧ (Document.object ms).FileText text.toList ∧
      load disk "c.json" = .ok { version := 2, domain := "1e400" } ∧ Misjudged ms := by
  intro text ms disk
  have htext : disk.readText "c.json" = .ok text := by decide +kernel
  have hspelled : (Document.object ms).FileText text.toList := by
    have hversion : Quoted "\"version\"".toList "version" := quoted_printString "version"
    have hdomain : Quoted "\"domain\"".toList "domain" := quoted_printString "domain"
    refine ⟨[], text.toList, [], by simp, .nil, ⟨"\"version\":2,\"domain\":1e400".toList,
      by decide +kernel, .inr ?_⟩, .gap .nil⟩
    refine ⟨[], [], _, [], [], _, ",\"domain\":1e400".toList, ?_, .nil, .nil, hversion, .nil, .nil,
      rfl, [], [], _, [], [], _, [], ?_, .nil, .nil, hdomain, .nil, .nil, rfl, .nil⟩ <;>
      decide +kernel
  have hdescribes : Describes ReadsAsText ms { version := 2, domain := "1e400" } :=
    { known := by decide
      version := ⟨.ofDecimal false 2, rfl, rfl, rfl, rfl, rfl, by decide⟩
      domain := .inr ⟨greatNumber, rfl, by rfl, by rfl⟩
      logdir := rfl
      overwriteLogs := rfl
      maxThreads := rfl
      protocol := rfl
      defines := rfl
      threads := le_rfl
      supported := by decide }
  have hloaded := ((load_object_iff htext hspelled).1 _).mpr ⟨rfl, hdescribes⟩
  have hnumber : NumberForText ms := .inl ⟨"domain", by simp, greatNumber, rfl⟩
  exact ⟨htext, hspelled, hloaded, .inr ⟨rfl, hnumber, _, hdescribes⟩⟩

end FleetScript.Settings
