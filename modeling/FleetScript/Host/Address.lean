import FleetScript.Host.Url
import FleetScript.Variables

/-!
Host addresses: `[protocol://][user[:password]@]hostname[:port][?key=value&...]`. The query
gives variables of the host, with all values of a repeated key in their order.
-/

namespace FleetScript.Host

open Text

/-- The parts of a host address. -/
structure Address where
  protocol : String
  username : Option String
  password : Option String
  hostname : String
  port : Option Nat
  vars : Variables
  deriving DecidableEq

/-- Why a text is no host address. -/
inductive AddressError where
  | emptyText
  | missingHostname
  | url (cause : UrlError)
  deriving DecidableEq

def AddressError.message : AddressError → String
  | emptyText => "empty host string"
  | missingHostname => "missing hostname"
  | url cause => cause.message

/-- The protocol of addresses that name none. -/
def defaultProtocol : String := "telnet"

/-- The text of an address with its protocol: a text without `://` takes the default one. -/
def withProtocol (protocol : String) (s : List Char) : List Char :=
  if occurs "://".toList s then s else protocol.toList ++ "://".toList ++ s

/-- The address that a text spells, with `protocol` for a text that names none. -/
def Address.read (text protocol : String) : Except AddressError Address :=
  let s := trimChars text.toList
  if s.isEmpty then .error .emptyText
  else
    match Url.read (withProtocol protocol s) with
    | .error cause => .error (.url cause)
    | .ok url =>
      match url.host with
      | none => .error .missingHostname
      | some host =>
        .ok {
          protocol := url.scheme
          username := url.user
          password := url.password
          hostname := host.text
          port := url.port
          vars := Variables.ofPairs url.query }

end FleetScript.Host
