import FleetScript.Host.Registry
import FleetScript.Text.Letter

/-!
Tables of hosts: a header with `hostname` and the names of variables between tabs, and rows with
a host and values. The rows of one host stand next to each other; the first of them registers
the host, and each gives one more value to the host's variables.
-/

namespace FleetScript.Host.Table

open Text

/-! ### Header and rows -/

/-- The names of the columns after the first. -/
def columns (header : List Char) : Except HeaderFault (List String) :=
  let key := Variables.hostnameKey.toList
  let next := (header.drop key.length).head?
  if !key.isPrefixOf header || next.any (fun c => isAlphanumeric c || c = '_') then
    .error .notHostname
  else
    match fields '\t' header with
    | first :: names =>
      if first = key && names.all (!·.isEmpty) then .ok (names.map String.ofList)
      else .error .notTabs
    | [] => .error .notTabs

/-- A row: the host as it is given, and the cells after it. -/
structure Row where
  raw : String
  cells : List String
  deriving DecidableEq

/-- The row of a line, unless the line is blank. -/
def row? (line : List Char) : Option Row :=
  let line := (line.reverse.dropWhile fun c => c = '\r' || c = '\n').reverse
  if (trimChars line).isEmpty then none
  else
    match fields '\t' line with
    | first :: cells =>
      some { raw := String.ofList (trimChars first), cells := cells.map String.ofList }
    | [] => none

def read (text : List Char) : Except HeaderFault (List String × List Row) :=
  let all := lines text
  match columns (trimEndChars (all.head?.getD [])) with
  | .error fault => .error fault
  | .ok names => .ok (names, all.tail.filterMap row?)

/-! ### Registration -/

/-- Gives each column's cell to the host, the empty text where the row is too short. -/
def appendCells (hostname : String) : List String → List String → Scopes → Scopes
  | [], _, s => s
  | name :: names, cells, s =>
    appendCells hostname names cells.tail (s.append hostname name (cells.head?.getD ""))

/-- The warning for a host whose rows do not stand next to each other. -/
def scattered (hostname path : String) : String :=
  "Host " ++ hostname ++ " appears again in " ++ path ++ " after other hosts; it will run twice"

section Rows

variable {σ : Type} (ask : Resolver σ) (path : String) (names : List String)

/-- Takes rows up to the first that fails, given the hosts of the rows before them. -/
def addRows (seen : List String) : List Row → Intake σ → Except Error Unit × Intake σ
  | [], i => (.ok (), i)
  | row :: rows, i =>
    match parse row.raw defaultProtocol with
    | .error e => (.error e, i)
    | .ok address =>
      let hostname := address.hostname
      let give (i : Intake σ) : Intake σ :=
        { i with registry := { i.registry with
            scopes := appendCells hostname names row.cells i.registry.scopes } }
      if seen.head? = some hostname then addRows seen rows (give i)
      else
        let i := if seen.contains hostname then
            { i with warnings := i.warnings ++ [scattered hostname path] }
          else i
        match Intake.addHost ask row.raw i with
        | (.error e, i) => (.error e, i)
        | (.ok (), i) => addRows (hostname :: seen) rows (give i)

end Rows

end FleetScript.Host.Table

namespace FleetScript.Host.Intake

variable {σ : Type} (ask : Resolver σ)

def addTable (disk : Disk) (path : String) (i : Intake σ) : Except Error Unit × Intake σ :=
  match readList disk path with
  | .error e => (.error e, i)
  | .ok text =>
    match Table.read text.toList with
    | .error fault => (.error (.header fault), i)
    | .ok (names, rows) => Table.addRows ask path names [] rows i

end FleetScript.Host.Intake
