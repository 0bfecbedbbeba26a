import FleetScript.Runner.Overview
import Mathlib.Data.List.Sort

/-!
The rows of an overview. There is one for each report, failed host and skipped host, so the counts
that are shown are those of the rows. The rows of sessions come sorted by host; so the order in
which reports came in shows at most in the order of rows of one host, and not in the column of
hosts.
-/

namespace FleetScript.Overview

open Session

variable {reports reports' : List Report}

/-! ### Rows of sessions -/

def sessionRows (reports : List Report) : List Row :=
  (reports.map reportRow).mergeSort (fun a b => a.host ≤ b.host)

lemma rows_eq (reports : List Report) (s : Summary) :
    rows reports s = sessionRows reports ++ s.failed.map failedRow ++ s.skipped.map skippedRow :=
  rfl

lemma sessionRows_perm (reports : List Report) :
    (sessionRows reports).Perm (reports.map reportRow) := List.mergeSort_perm _ _

lemma pairwise_sessionRows (reports : List Report) :
    (sessionRows reports).Pairwise fun a b => a.host ≤ b.host := by
  have htrans : ∀ a b c : Row, decide (a.host ≤ b.host) = true → decide (b.host ≤ c.host) = true →
      decide (a.host ≤ c.host) = true := by
    intro a b c hab hbc
    exact decide_eq_true (String.le_trans (of_decide_eq_true hab) (of_decide_eq_true hbc))
  have htotal : ∀ a b : Row, (decide (a.host ≤ b.host) || decide (b.host ≤ a.host)) = true := by
    intro a b
    rcases String.le_total a.host b.host with h | h
    · simp [h]
    · simp [h]
  exact (List.pairwise_mergeSort htrans htotal (reports.map reportRow)).imp of_decide_eq_true

/-- Reports that came in another order give the same hosts in the same order. -/
lemma map_host_sessionRows (h : reports.Perm reports') :
    (sessionRows reports).map Row.host = (sessionRows reports').map Row.host := by
  have hperm : ((sessionRows reports).map Row.host).Perm ((sessionRows reports').map Row.host) :=
    ((sessionRows_perm reports).trans <|
      (h.map reportRow).trans (sessionRows_perm reports').symm).map Row.host
  have hsorted (reports : List Report) :
      ((sessionRows reports).map Row.host).Pairwise fun a b => a ≤ b :=
    List.pairwise_map.mpr (pairwise_sessionRows reports)
  exact List.Perm.eq_of_pairwise (fun _ _ _ _ => String.le_antisymm) (hsorted reports)
    (hsorted reports') hperm

/-- **The order in which reports come in changes no host in the rows**, and what stands there only
by the order of rows. -/
theorem rows_of_perm (h : reports.Perm reports') (s : Summary) :
    (rows reports s).Perm (rows reports' s) ∧
      (rows reports s).map Row.host = (rows reports' s).map Row.host := by
  have hsessions : (sessionRows reports).Perm (sessionRows reports') :=
    (sessionRows_perm reports).trans <| (h.map reportRow).trans (sessionRows_perm reports').symm
  simp only [rows_eq, List.map_append, map_host_sessionRows h, and_true]
  exact (hsessions.append_right _).append_right _

/-! ### Counts -/

variable (reports : List Report) (s : Summary)

lemma rows_perm : (rows reports s).Perm
    (reports.map reportRow ++ s.failed.map failedRow ++ s.skipped.map skippedRow) :=
  ((sessionRows_perm reports).append_right _).append_right _

/-- The subtraction of the failed ones never goes below zero. -/
lemma failed_le : failed reports s ≤ reports.length + s.failed.length := by
  have hle : (reports.filter (!·.isSuccess)).length ≤ reports.length := List.length_filter_le _ _
  unfold failed
  omega

lemma failed_eq : failed reports s = reports.countP (!·.isSuccess) + s.failed.length := by
  unfold failed
  rw [List.countP_eq_length_filter]

lemma succeeded_eq : succeeded reports s = reports.countP (·.isSuccess) := by
  have hsplit := List.length_eq_countP_add_countP (·.isSuccess) (l := reports)
  unfold succeeded failed
  rw [← List.countP_eq_length_filter, hsplit]
  simp only [Bool.not_eq_true, Bool.decide_eq_false]
  omega

/-- Sessions that ran and hosts whose script failed are the hosts that succeeded or failed. -/
lemma failed_add_succeeded :
    failed reports s + succeeded reports s = reports.length + s.failed.length := by
  have hle := failed_le reports s
  unfold succeeded
  omega

lemma countP_rows (p : Row → Bool) : (rows reports s).countP p =
    reports.countP (p ∘ reportRow) + s.failed.countP (p ∘ failedRow) +
      s.skipped.countP (p ∘ skippedRow) := by
  rw [(rows_perm reports s).countP_eq, List.countP_append, List.countP_append, List.countP_map,
    List.countP_map, List.countP_map]

/-- **The rows bear out the counts.** -/
theorem countP_result_rows :
    (rows reports s).countP (·.result = .ok) = succeeded reports s ∧
      (rows reports s).countP (·.result = .failed) = failed reports s ∧
      (rows reports s).countP (·.result = .skipped) = s.skipped.length := by
  have hreports (result : Result) (q : Report → Bool)
      (h : ∀ r, (reportRow r).result = result ↔ q r = true) :
      reports.countP ((fun row : Row => decide (row.result = result)) ∘ reportRow) =
        reports.countP q :=
    List.countP_congr fun r _ => by simp [h]
  have hrow (r : Report) : (reportRow r).result = if r.isSuccess then .ok else .failed := rfl
  refine ⟨?_, ?_, ?_⟩
  · rw [countP_rows, succeeded_eq, hreports .ok (·.isSuccess) fun r => by rw [hrow]; simp]
    simp [failedRow, skippedRow, Function.comp_def]
  · rw [countP_rows, failed_eq, hreports .failed (!·.isSuccess) fun r => by rw [hrow]; simp]
    simp [failedRow, skippedRow, Function.comp_def]
  · rw [countP_rows, hreports .skipped (fun _ => false) fun r => by rw [hrow]; split <;> simp]
    simp [failedRow, skippedRow, Function.comp_def]

end FleetScript.Overview
