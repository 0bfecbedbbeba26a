import FleetScript.Bindings
import FleetScript.Text.Blank

/-!
Variables and their scopes. A variable holds a list of values. For one host the values come from
the defines for all hosts, the values given to that host, the query of its address, and last the
computed name of the host; each scope hides the ones before it.
-/

namespace FleetScript

/-! ### Lists of values -/

/-- Variables: a list of values for each name. -/
abbrev Variables := Bindings (List String)

namespace Variables

/-- Puts one more value at the end of a name's list. -/
def push (vars : Variables) (key value : String) : Variables :=
  vars.insert key ((vars.get? key).getD [] ++ [value])

@[simp] theorem get?_push (vars : Variables) (key value k : String) :
    (vars.push key value).get? k =
      if k = key then some ((vars.get? key).getD [] ++ [value]) else vars.get? k := by
  simp [push]

/-- The values of each name in the order of the pairs. -/
def ofPairs (pairs : List (String × String)) : Variables :=
  pairs.foldl (fun vars p => vars.push p.1 p.2) ∅

/-- The name of the computed variable that holds the host's name. -/
def hostnameKey : String := "hostname"

/-- The name of the reserved variable that holds the path of the script. -/
def filenameKey : String := "__filename__"

/-- The name of the reserved variable that holds the name of the run. -/
def runnerKey : String := "__runner__"

/-- The name of the reserved variable that holds the name of the enclosing script. -/
def parentKey : String := "__exscript__"

/-- The values of the reserved variables. -/
structure Reserved where
  filename : String
  runner : String
  parent : String
  deriving DecidableEq

/-- Sets the reserved variables. -/
def reserve (vars : Variables) (r : Reserved) : Variables :=
  ((vars.insert filenameKey [r.filename]).insert runnerKey [r.runner]).insert parentKey [r.parent]

end Variables

/-! ### Names of hosts -/

/-- The name of a host within a domain: the domain is appended to names without a dot. Dots at
the start of the domain count nothing, and an empty domain changes no name. -/
def qualify (hostname domain : String) : String :=
  let bare := domain.toList.dropWhile (· = '.')
  if hostname.toList.contains '.' || bare.isEmpty then hostname
  else hostname ++ "." ++ String.ofList bare

@[simp] theorem qualify_empty (hostname : String) : qualify hostname "" = hostname := by
  simp [qualify]

/-! ### Scopes -/

/-- The defines for all hosts and the variables given to single hosts. -/
structure Scopes where
  globals : Bindings String := ∅
  overlays : Bindings Variables := ∅
  deriving DecidableEq

namespace Scopes

/-- Defines variables for all hosts; of two values for a name the later holds. -/
def define (s : Scopes) (vars : List (String × String)) : Scopes :=
  { s with globals := s.globals.insertAll vars }

def overlay? (s : Scopes) (hostname : String) : Option Variables := s.overlays.get? hostname

/-- Replaces variables of one host by single values. -/
def defineHost (s : Scopes) (hostname : String) (vars : List (String × String)) : Scopes :=
  let old := (s.overlay? hostname).getD ∅
  { s with overlays := s.overlays.insert hostname (old.insertAll (vars.map fun p => (p.1, [p.2]))) }

/-- Puts one more value at the end of a variable's list for one host. -/
def append (s : Scopes) (hostname key value : String) : Scopes :=
  { s with overlays := s.overlays.insert hostname (((s.overlay? hostname).getD ∅).push key value) }

/-- The variables of one host: its name hides the query variables, these hide the variables given
to the host, and these hide the defines for all hosts. -/
def merge (s : Scopes) (hostname : String) (query : Variables) (domain : String) : Variables :=
  let base := s.globals.map fun _ v => [v]
  let own := base.override ((s.overlay? hostname).getD ∅)
  (own.override query).insert Variables.hostnameKey [qualify hostname domain]

end Scopes

end FleetScript
