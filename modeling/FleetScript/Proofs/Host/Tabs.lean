import FleetScript.Host.Table
import FleetScript.Proofs.Text.Cuts
import Mathlib.Data.List.DropRight

/-!
Tables as texts. A header is `hostname` with names behind it and a tab before each, and no other
line is one. A row is a host with cells behind it and a tab before each; carriage returns at the
end of its line are no part of it, and every line that is not blank holds a row.
-/

namespace FleetScript.Host.Table

open Text

variable {first line header : List Char} {cells names : List String} {row : Row}

/-! ### Fields behind tabs -/

/-- A text with more texts behind it, and a tab before each of them. -/
def tabbed (first : List Char) (cells : List String) : List Char :=
  first ++ cells.flatMap fun cell => '\t' :: cell.toList

lemma fields_tabbed (hfirst : '\t' ∉ first) (hcells : ∀ cell ∈ cells, '\t' ∉ cell.toList) :
    fields '\t' (tabbed first cells) = first :: cells.map (·.toList) := by
  induction cells generalizing first with
  | nil => simpa [tabbed] using fields_of_not_mem hfirst
  | cons cell cells ih =>
    obtain ⟨hcell, hcells⟩ := List.forall_mem_cons.mp hcells
    have hsplit : tabbed first (cell :: cells) = first ++ '\t' :: tabbed cell.toList cells := by
      simp [tabbed]
    rw [hsplit, fields_append_cons, fields_of_not_mem hfirst, ih hcell hcells]
    rfl

lemma exists_tabbed (line : List Char) : ∃ first cells, line = tabbed first cells ∧
    '\t' ∉ first ∧ ∀ cell ∈ cells, '\t' ∉ cell.toList := by
  induction hn : line.length using Nat.strong_induction_on generalizing line with
  | h n ih =>
    rcases not_mem_or_eq_append '\t' line with h | ⟨a, b, rfl, ha⟩
    · exact ⟨line, [], by simp [tabbed], h, by simp⟩
    · rw [List.length_append, List.length_cons] at hn
      obtain ⟨first, cells, rfl, hfirst, hcells⟩ := ih b.length (by omega) b rfl
      refine ⟨a, String.ofList first :: cells, by simp [tabbed], ha, ?_⟩
      simpa using ⟨hfirst, hcells⟩

/-! ### Headers -/

/-- A header with these columns. -/
structure Heads (names : List String) (header : List Char) : Prop where
  eq : header = tabbed Variables.hostnameKey.toList names
  named : ∀ name ∈ names, name ≠ "" ∧ '\t' ∉ name.toList

lemma tab_not_mem_hostnameKey : '\t' ∉ Variables.hostnameKey.toList := by decide

theorem columns_eq_ok_iff : columns header = .ok names ↔ Heads names header := by
  constructor
  · intro h
    obtain ⟨first, cells, rfl, hfirst, hcells⟩ := exists_tabbed header
    unfold columns at h
    dsimp only at h
    -- a word that only begins like the name of the first column makes no header
    split at h
    · cases h
    rw [fields_tabbed hfirst hcells] at h
    dsimp only at h
    split at h
    · next hkey =>
      obtain rfl : cells = names := by simpa [Function.comp_def] using Except.ok.inj h
      simp only [Bool.and_eq_true, decide_eq_true_eq, List.all_eq_true, List.mem_map,
        forall_exists_index, and_imp, forall_apply_eq_imp_iff₂] at hkey
      obtain ⟨rfl, hall⟩ := hkey
      refine ⟨rfl, fun name hname => ⟨?_, hcells name hname⟩⟩
      rintro rfl
      exact absurd (hall "" hname) (by decide)
    · cases h
  · rintro ⟨rfl, hnamed⟩
    -- the name of the first column ends where the text or its tab does
    have hnext : ((tabbed Variables.hostnameKey.toList names).drop
        Variables.hostnameKey.toList.length).head?.any
          (fun c => isAlphanumeric c || c = '_') = false := by
      rw [tabbed, List.drop_left]
      cases names with
      | nil => rfl
      | cons name names =>
        rw [List.flatMap_cons, List.cons_append, List.head?_cons, Option.any_some]
        decide +kernel
    have hstarts : Variables.hostnameKey.toList.isPrefixOf
        (tabbed Variables.hostnameKey.toList names) = true :=
      List.isPrefixOf_iff_prefix.mpr (List.prefix_append _ _)
    unfold columns
    dsimp only
    rw [if_neg (by rw [hstarts, hnext]; decide),
      fields_tabbed tab_not_mem_hostnameKey fun name hname => (hnamed name hname).2]
    dsimp only
    rw [if_pos]
    · simp [Function.comp_def]
    · simpa using fun name hname => (hnamed name hname).1

/-! ### Rows -/

def endsLine (c : Char) : Bool := c = '\r' || c = '\n'

/-- A line holds a row: the host with blanks around it, the cells, and line ends. -/
def Holds (line : List Char) (row : Row) : Prop :=
  ∃ first ends, line = tabbed first row.cells ++ ends ∧ row.raw = String.ofList (trimChars first) ∧
    '\t' ∉ first ∧ (∀ cell ∈ row.cells, '\t' ∉ cell.toList) ∧ (∀ c ∈ ends, endsLine c = true) ∧
      ∀ c ∈ (tabbed first row.cells).getLast?, endsLine c = false

lemma isBlank_of_endsLine {c : Char} (h : endsLine c = true) : isBlank c = true := by
  simp only [endsLine, Bool.or_eq_true, decide_eq_true_eq] at h
  rcases h with rfl | rfl <;> decide

lemma row?_eq (line : List Char) :
    row? line = if (trimChars (line.rdropWhile endsLine)).isEmpty then none
      else match fields '\t' (line.rdropWhile endsLine) with
        | first :: cells => some
            { raw := String.ofList (trimChars first), cells := cells.map String.ofList }
        | [] => none := rfl

lemma rdropWhile_append {s ends : List Char} (hends : ∀ c ∈ ends, endsLine c = true)
    (hlast : ∀ c ∈ s.getLast?, endsLine c = false) : (s ++ ends).rdropWhile endsLine = s := by
  have hs := span_append (p := endsLine) (a := ends.reverse) (b := s.reverse)
    (fun c hc => hends c (List.mem_reverse.mp hc)) (by rwa [List.head?_reverse])
  rw [List.rdropWhile, List.reverse_append, hs.2, List.reverse_reverse]

lemma exists_ends (line : List Char) : ∃ s ends, line = s ++ ends ∧
    (∀ c ∈ ends, endsLine c = true) ∧ ∀ c ∈ s.getLast?, endsLine c = false := by
  refine ⟨(line.reverse.dropWhile endsLine).reverse, (line.reverse.takeWhile endsLine).reverse, ?_,
    fun c hc => List.mem_takeWhile_imp (List.mem_reverse.mp hc), ?_⟩
  · rw [← List.reverse_append, List.takeWhile_append_dropWhile, List.reverse_reverse]
  · rw [List.getLast?_reverse]
    exact head?_dropWhile _ _

lemma trimChars_eq_nil_iff {s : List Char} : trimChars s = [] ↔ ∀ c ∈ s, isBlank c = true := by
  constructor
  · intro h
    obtain ⟨a, b, hs, ha, hb⟩ := exists_append_trimChars s
    rw [h, List.append_nil] at hs
    intro c hc
    rw [hs] at hc
    exact (List.mem_append.mp hc).elim (ha c) (hb c)
  · intro h
    have hstart : trimStartChars s = [] := List.dropWhile_eq_nil_iff.mpr h
    rw [trimChars, hstart]
    rfl

lemma trimChars_eq_nil_iff_append {s ends : List Char} (hends : ∀ c ∈ ends, endsLine c = true) :
    trimChars s = [] ↔ ∀ c ∈ s ++ ends, isBlank c = true := by
  rw [trimChars_eq_nil_iff, List.forall_mem_append]
  exact (and_iff_left fun c hc => isBlank_of_endsLine (hends c hc)).symm

theorem row?_eq_none_iff : row? line = none ↔ ∀ c ∈ line, isBlank c = true := by
  obtain ⟨s, ends, rfl, hends, hlast⟩ := exists_ends line
  obtain ⟨first, cells, rfl, hfirst, hcells⟩ := exists_tabbed s
  rw [row?_eq, rdropWhile_append hends hlast, fields_tabbed hfirst hcells,
    ← trimChars_eq_nil_iff_append hends, ← List.isEmpty_iff]
  split <;> simp_all

theorem row?_eq_some_iff :
    row? line = some row ↔ (∃ c ∈ line, isBlank c = false) ∧ Holds line row := by
  obtain ⟨s, ends, rfl, hends, hlast⟩ := exists_ends line
  obtain ⟨first, cells, rfl, hfirst, hcells⟩ := exists_tabbed s
  have hblank : (∃ c ∈ tabbed first cells ++ ends, isBlank c = false) ↔
      ¬(trimChars (tabbed first cells)).isEmpty = true := by
    rw [List.isEmpty_iff, trimChars_eq_nil_iff_append hends]
    simp
  rw [row?_eq, rdropWhile_append hends hlast, hblank, fields_tabbed hfirst hcells]
  constructor
  · intro h
    split at h
    · cases h
    next hempty =>
    obtain rfl := Option.some.inj h
    have hstrings : (cells.map (·.toList)).map String.ofList = cells := by simp [Function.comp_def]
    refine ⟨hempty, first, ends, ?_, rfl, hfirst, ?_, hends, ?_⟩ <;>
      dsimp only <;> rw [hstrings] <;> assumption
  · rintro ⟨hempty, first', ends', htext, hraw, hfirst', hcells', hends', hlast'⟩
    -- cut at other line ends, the line has the same fields
    have hsame : tabbed first cells = tabbed first' row.cells := by
      rw [← rdropWhile_append hends hlast, htext, rdropWhile_append hends' hlast']
    have hfields := fields_tabbed hfirst hcells
    rw [hsame, fields_tabbed hfirst' hcells'] at hfields
    obtain ⟨rfl, hmap⟩ := List.cons.inj hfields
    rw [if_neg hempty]
    dsimp only
    rw [← hmap, ← hraw, List.map_map]
    simp [Function.comp_def]

/-- The lines that hold rows. -/
def rowLines (text : List Char) : List (List Char) :=
  (lines text).tail.filter fun line => line.any (!isBlank ·)

/-- The rows of lines are those of the lines that are not blank, one of each. -/
lemma forall₂_holds (ls : List (List Char)) :
    List.Forall₂ Holds (ls.filter fun line => line.any (!isBlank ·)) (ls.filterMap row?) := by
  induction ls with
  | nil => exact .nil
  | cons line ls ih =>
    cases h : row? line with
    | none =>
      have hblank := row?_eq_none_iff.mp h
      rw [List.filterMap_cons_none h, List.filter_cons_of_neg (by simpa using hblank)]
      exact ih
    | some row =>
      obtain ⟨hfull, hrow⟩ := row?_eq_some_iff.mp h
      rw [List.filterMap_cons_some h, List.filter_cons_of_pos (by simpa using hfull)]
      exact .cons hrow ih

/-! ### Reading -/

/-- The first line of a text without white space behind it. -/
def headerOf (text : List Char) : List Char := trimEndChars ((lines text).head?.getD [])

/-- A table is read if its first line is a header, and has the rows of the other lines. -/
theorem read_eq_ok_iff {text : List Char} {rows : List Row} : read text = .ok (names, rows) ↔
    Heads names (headerOf text) ∧ rows = (lines text).tail.filterMap row? := by
  unfold read headerOf
  rw [← columns_eq_ok_iff]
  dsimp only
  split
  · next fault h => simp [h]
  · next names' h =>
    rw [h, Except.ok.injEq, Except.ok.injEq, Prod.mk.injEq]
    exact and_congr_right' eq_comm

lemma exists_fault_of_read {text : List Char} (h : ∀ names, ¬Heads names (headerOf text)) :
    ∃ fault, read text = .error fault := by
  cases hr : read text with
  | error fault => exact ⟨fault, rfl⟩
  | ok table => exact absurd (read_eq_ok_iff.mp hr).1 (h table.1)

end FleetScript.Host.Table
