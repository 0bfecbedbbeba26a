import FleetScript.Host.Placeholder

/-!
The registry: the hosts of a run in the order of registration, and the scopes of their
variables. Hosts are registered one by one, from a list or from a file with one host to a line;
a registration that fails ends the list it stands in, and leaves the hosts before it registered.
-/

namespace FleetScript.Host

open Text

/-- A registered host: its address as it was given, and the variables of the query. -/
structure Entry where
  raw : String
  queryVars : Variables
  deriving DecidableEq

/-- The registered hosts and their variables. -/
structure Registry where
  entries : List Entry := []
  scopes : Scopes := {}
  deriving DecidableEq

/-- A registry while hosts are put into it: with the state of who answers, and the warnings so
far. -/
structure Intake (σ : Type) where
  registry : Registry
  asker : σ
  warnings : List String := []

namespace Intake

variable {σ : Type} (ask : Resolver σ)

def addHost (raw : String) (i : Intake σ) : Except Error Unit × Intake σ :=
  match parse raw defaultProtocol with
  | .error e => (.error e, i)
  | .ok address =>
    match answerAll ask address.vars i.asker with
    | (.error e, s) => (.error e, { i with asker := s })
    | (.ok queryVars, s) =>
      (.ok (), { i with
        registry := { i.registry with entries := i.registry.entries ++ [{ raw, queryVars }] }
        asker := s })

/-- Registers hosts up to the first that fails. -/
def addHosts : List String → Intake σ → Except Error Unit × Intake σ
  | [], i => (.ok (), i)
  | raw :: rest, i =>
    match addHost ask raw i with
    | (.error e, i) => (.error e, i)
    | (.ok (), i) => addHosts rest i

def readList (disk : Disk) (path : String) : Except Error String :=
  if disk.has path then (disk.readText path).mapError (.unreadable path)
  else .error (.fileNotFound path)

/-- The hosts of a list: its lines without blanks around them, and without blank lines. -/
def listed (text : List Char) : List String :=
  (((lines text).map trimChars).filter (!·.isEmpty)).map String.ofList

/-- Registers the hosts of a file, one to a line. -/
def addFile (disk : Disk) (path : String) (i : Intake σ) : Except Error Unit × Intake σ :=
  match readList disk path with
  | .error e => (.error e, i)
  | .ok text => addHosts ask (listed text.toList) i

end Intake

end FleetScript.Host
