import FleetScript.Text.Blank

/-!
The protocols that sessions speak.
-/

namespace FleetScript

/-- A version of ssh. -/
inductive SshVersion where
  | v1
  | v2
  deriving DecidableEq

/-- A protocol; without a version of ssh its client chooses. -/
inductive Protocol where
  | telnet
  | ssh (version : Option SshVersion)
  deriving DecidableEq

namespace Protocol

def ofScheme? (scheme : String) : Option Protocol :=
  if scheme = "telnet" then some telnet
  else if scheme = "ssh" then some (ssh none)
  else if scheme = "ssh1" then some (ssh (some .v1))
  else if scheme = "ssh2" then some (ssh (some .v2))
  else none

def scheme : Protocol → String
  | telnet => "telnet"
  | ssh none => "ssh"
  | ssh (some .v1) => "ssh1"
  | ssh (some .v2) => "ssh2"

theorem ofScheme?_scheme (p : Protocol) : ofScheme? p.scheme = some p := by
  rcases p with _ | _ | _ | _ <;> decide

theorem ofScheme?_eq_some_iff {s : String} {p : Protocol} :
    ofScheme? s = some p ↔ s = p.scheme := by
  constructor
  · intro h
    unfold ofScheme? at h
    grind [scheme]
  · rintro rfl
    exact ofScheme?_scheme p

def sshVersion? : Protocol → Option SshVersion
  | telnet => none
  | ssh version => version

def client : Protocol → String
  | telnet => "telnet"
  | ssh _ => "ssh"

/-- The protocol of a name as users give it, blanks around it allowed. -/
def ofName? (name : String) : Option Protocol := ofScheme? (Text.trim name)

def unsupported (name : String) : String :=
  "Unsupported protocol: '" ++ name ++ "'. Use telnet, ssh, ssh1 or ssh2"

end Protocol

end FleetScript
