import FleetScript.Runner.Dispatch
import FleetScript.Text.Grid

/-!
The overview of a run: one row for each host, first those whose sessions ran, by their names, then
those whose script failed and those that were skipped, and how many succeeded and failed.
-/

namespace FleetScript.Overview

open Session Text

/-! ### Rows -/

/-- What came of a host. -/
inductive Result where
  | ok
  | failed
  | skipped
  deriving DecidableEq

def Result.word : Result → String
  | ok => "ok"
  | failed => "failed"
  | skipped => "skipped"

/-- A row: the host, what came of it, the number of commands sent, and more about it. -/
structure Row where
  host : String
  result : Result
  commands : Nat
  detail : String
  deriving DecidableEq

def unsupported : String := "unsupported protocol"

def reportRow (r : Report) : Row where
  host := r.host
  result := if r.isSuccess then .ok else .failed
  commands := r.commands
  detail := r.error.getD ""

def failedRow (p : String × String) : Row where
  host := p.1
  result := .failed
  commands := 0
  detail := p.2

def skippedRow (host : String) : Row where
  host := host
  result := .skipped
  commands := 0
  detail := unsupported

/-- The rows of a run. Sessions on hosts of one name keep their order. -/
def rows (reports : List Report) (s : Summary) : List Row :=
  (reports.map reportRow).mergeSort (fun a b => a.host ≤ b.host) ++ s.failed.map failedRow ++
    s.skipped.map skippedRow

/-! ### Counts -/

/-- How many hosts failed, in their sessions or before. -/
def failed (reports : List Report) (s : Summary) : Nat :=
  (reports.filter (!·.isSuccess)).length + s.failed.length

/-- How many hosts succeeded: of those that were not skipped, all that did not fail. -/
def succeeded (reports : List Report) (s : Summary) : Nat :=
  reports.length + s.failed.length - failed reports s

/-! ### Drawing -/

def grid (rows : List Row) : Grid where
  header := ["Host", "Result", "Commands", "Detail"]
  rows := rows.map fun r => [r.host, r.result.word, decimal r.commands, r.detail]

end FleetScript.Overview
