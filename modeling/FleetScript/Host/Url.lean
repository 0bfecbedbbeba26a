import FleetScript.Host.DomainName
import FleetScript.Host.IPv4
import FleetScript.Host.IPv6
import FleetScript.Text.Percent

/-!
Web addresses, as far as they name a host: scheme, user and password, host, port and query. The
web schemes have hosts of their own (domain names, addresses in any IPv4 spelling) and a default
port; under any other scheme a host is a text that is kept as it is, or an IPv6 address in
brackets. Paths and fragments are passed over.
-/

namespace FleetScript.Host

open Text

/-! ### Parts -/

/-- The host of a web address. -/
inductive HostName where
  | name (text : List Char)
  | ipv4 (address : Nat)
  | ipv6 (address : IPv6)
  deriving DecidableEq

/-- The text of a host, without brackets. -/
def HostName.text : HostName → String
  | name text => String.ofList text
  | ipv4 address => IPv4.write address
  | ipv6 address => address.write

/-- A web address without its path and fragment. -/
structure Url where
  scheme : String
  user : Option String := none
  password : Option String := none
  host : Option HostName := none
  port : Option Nat := none
  query : List (String × String) := []
  deriving DecidableEq

/-- Why a text is no web address. -/
inductive UrlError where
  | emptyHost
  | invalidPort
  | invalidIPv6
  | invalidIPv4
  | invalidCharacter
  | invalidDomainName
  | withoutScheme
  deriving DecidableEq

def UrlError.message : UrlError → String
  | emptyHost => "empty host"
  | invalidPort => "invalid port number"
  | invalidIPv6 => "invalid IPv6 address"
  | invalidIPv4 => "invalid IPv4 address"
  | invalidCharacter => "invalid domain character"
  | invalidDomainName => "invalid international domain name"
  | withoutScheme => "relative URL without a base"

/-! ### Schemes -/

/-- How the hosts of a scheme are written. -/
inductive SchemeKind where
  | file
  | web (defaultPort : Nat)
  | other
  deriving DecidableEq

def SchemeKind.of (scheme : String) : SchemeKind :=
  if scheme = "file" then file
  else if scheme = "http" ∨ scheme = "ws" then web 80
  else if scheme = "https" ∨ scheme = "wss" then web 443
  else if scheme = "ftp" then web 21
  else other

/-- A character of a scheme after its first letter. -/
def isSchemeChar (c : Char) : Bool := isLetter c || isDigit c || c = '+' || c = '-' || c = '.'

/-- The scheme in lower case, and the text after its colon. -/
def cutScheme (s : List Char) : Option (String × List Char) :=
  match s.head?, s.dropWhile isSchemeChar with
  | some c, ':' :: rest =>
    if isLetter c then some (String.ofList (lowerAscii (s.takeWhile isSchemeChar)), rest) else none
  | _, _ => none

/-! ### Cutting an authority -/

/-- A character that ends the authority under any scheme. -/
def endsAuthority (c : Char) : Bool := c = '/' || c = '?' || c = '#'

/-- A character that ends the authority under a web scheme. -/
def endsWebAuthority (c : Char) : Bool := endsAuthority c || c = '\\'

/-- The texts before and after the last at sign, if there is one. -/
def cutUser (s : List Char) : Option (List Char × List Char) :=
  match cut '@' s.reverse with
  | none => none
  | some (host, user) => some (user.reverse, host.reverse)

/-- The texts before and from the first colon outside brackets. -/
def cutHost (inside : Bool) : List Char → List Char × List Char
  | [] => ([], [])
  | c :: rest =>
    if c = ':' && !inside then ([], c :: rest)
    else
      let (host, port) := cutHost (if c = '[' then true else if c = ']' then false else inside) rest
      (c :: host, port)

/-- The query of the text after the authority: what stands between the first question mark and
the fragment. -/
def queryOf (tail : List Char) : List Char :=
  ((tail.takeWhile (· ≠ '#')).dropWhile (· ≠ '?')).tail

/-- The pairs of a form coded query; a part without an equals sign has the empty value. -/
def queryPairs (query : List Char) : List (String × String) :=
  ((fields '&' query).filter (!·.isEmpty)).map fun part =>
    let (key, value) := (cut '=' part).getD (part, [])
    (String.ofList (formDecodeText key), String.ofList (formDecodeText value))

/-! ### Hosts and ports -/

def bracketed (s : List Char) : Except UrlError HostName :=
  match s.reverse with
  | ']' :: inner =>
    match IPv6.read? inner.reverse.tail with
    | some a => .ok (.ipv6 a)
    | none => .error .invalidIPv6
  | _ => .error .invalidIPv6

/-- Characters that a host kept as it is may not hold. -/
def isForbiddenInHost (c : Char) : Bool :=
  "\x00\t\n\r #/:<>?@[\\]^|".toList.contains c

/-- Visible plain characters, which a kept host does not percent code. -/
def isVisible (c : Char) : Bool := 0x20 ≤ c.toNat && c.toNat < 0x7F

/-- The host under a scheme that keeps hosts as they are. -/
def keptHost (s : List Char) : Except UrlError HostName :=
  if s.head? = some '[' then bracketed s
  else if s.any isForbiddenInHost then .error .invalidCharacter
  else .ok (.name (percentEncode isVisible s))

/-- The host under a web scheme: an address, or a domain name in its plain form. -/
def webHost (s : List Char) : Except UrlError HostName :=
  if s.head? = some '[' then bracketed s
  else
    match (decode? (percentDecode (encode s))).bind fun t => DomainName.toPlain? t.toList with
    | none => .error .invalidDomainName
    | some [] => .error .emptyHost
    | some name =>
      if IPv4.isNumeric name then
        match IPv4.read? name with
        | some a => .ok (.ipv4 a)
        | none => .error .invalidIPv4
      else .ok (.name name)

/-- The number of a port: digits up to the start of a path. No digits are no port. -/
def portOf (s : List Char) : Except UrlError (Option Nat) :=
  let digits := s.takeWhile (· ≠ '\\')
  if !digits.all isDigit || 65535 < numeral 10 digits then .error .invalidPort
  else if digits.isEmpty then .ok none
  else .ok (some (numeral 10 digits))

/-! ### Reading -/

/-- The text of a component behind its percent coding. -/
def component (s : List Char) : String := String.ofList (percentDecodeText s)

/-- The address behind `//`: user and password up to the last at sign, the host up to a colon
outside brackets, and the port. A host may be missing only under a scheme that is no web scheme,
and only where neither user, password nor port is given. -/
def readAuthority (scheme : String) (web : Bool) (defaultPort : Option Nat) (s : List Char) :
    Except UrlError Url := do
  let ends := if web then endsWebAuthority else endsAuthority
  let authority := s.takeWhile (!ends ·)
  let tail := s.dropWhile (!ends ·)
  let (login, place) := (cutUser authority).getD ([], authority)
  if login.isEmpty && place.isEmpty && !authority.isEmpty && !tail.isEmpty then
    throw .emptyHost
  let (user, password) := (cut ':' login).getD (login, [])
  let (host, port) := cutHost false place
  if host.isEmpty && (web || !port.isEmpty) then throw .emptyHost
  let name ← if web then webHost host else keptHost host
  let number ← portOf port.tail
  if host.isEmpty && !(user.isEmpty && password.isEmpty) then throw .emptyHost
  pure {
    scheme
    user := if user.isEmpty then none else some (component user)
    password := if password.isEmpty then none else some (component password)
    host := if host.isEmpty then none else some name
    port := if number = defaultPort then none else number
    query := queryPairs (queryOf tail) }

/-- A letter and a colon or bar. -/
def isDriveLetter : List Char → Bool
  | [c, d] => isLetter c && (d = ':' || d = '|')
  | _ => false

/-- A segment of a path with its dots written plainly. -/
def plainDots : List Char → List Char
  | '%' :: '2' :: e :: rest => if e = 'e' ∨ e = 'E' then '.' :: plainDots rest else
    '%' :: '2' :: e :: plainDots rest
  | c :: rest => c :: plainDots rest
  | [] => []

/-- Whether a path comes to a drive letter as its first segment, counting the segments before it
that are taken back. -/
def reachesDrive (depth : Nat) : List (List Char) → Bool
  | [] => false
  | s :: rest =>
    if plainDots s = ['.'] then reachesDrive depth rest
    else if plainDots s = ['.', '.'] then reachesDrive (depth - 1) rest
    else (depth = 0 && isDriveLetter s) || reachesDrive (depth + 1) rest

/-- The address of a file: a host stands between two slashes and the path, and counts for nothing
if it is the local host or the path starts with a drive letter. -/
def readFileUrl (scheme : String) (s : List Char) : Except UrlError Url :=
  let slash (c : Char) : Bool := c = '/' || c = '\\'
  match s with
  | a :: b :: rest =>
    if slash a && slash b then do
      let text := rest.takeWhile (!endsWebAuthority ·)
      let tail := rest.dropWhile (!endsWebAuthority ·)
      let query := queryPairs (queryOf tail)
      if text.isEmpty || isDriveLetter text then return { scheme, query }
      let name ← webHost text
      let path := tail.takeWhile fun c => c ≠ '?' && c ≠ '#'
      let segments := fields '/' (path.map fun c => if c = '\\' then '/' else c)
      if name = .name "localhost".toList || reachesDrive 0 segments.tail then
        return { scheme, query }
      return { scheme, host := some name, query }
    else .ok { scheme }
  | _ => .ok { scheme }

/-- A text without control characters and blanks at its ends, and without tabs and line ends. -/
def strip (s : List Char) : List Char :=
  let ends (c : Char) : Bool := c.toNat ≤ 0x20
  (((s.dropWhile ends).reverse.dropWhile ends).reverse).filter fun c =>
    c ≠ '\t' && c ≠ '\n' && c ≠ '\r'

def Url.read (text : List Char) : Except UrlError Url :=
  match cutScheme (strip text) with
  | none => .error .withoutScheme
  | some (scheme, rest) =>
    match SchemeKind.of scheme with
    | .file => readFileUrl scheme rest
    | .web defaultPort =>
      readAuthority scheme true (some defaultPort) (rest.dropWhile fun c => c = '/' || c = '\\')
    | .other =>
      match rest with
      | '/' :: '/' :: s => readAuthority scheme false none s
      | _ => .ok { scheme }

end FleetScript.Host
