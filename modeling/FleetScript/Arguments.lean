import FleetScript.Arguments.Grammar
import FleetScript.Runner.Options
import FleetScript.Text.Hex

/-!
The command line of the program: what it can be asked to do, and the grammar of the arguments that
ask for it.
-/

namespace FleetScript

open Text

/-! ### Name and version -/

def programName : String := "termrun"

def version : String := "0.4.2"

/-- The version with the state of the sources and the day of the build, which are not recorded. -/
def longVersion : String := version ++ " (git: unknown, built: unknown)"

/-! ### Requests -/

/-- A request to run a script: its file, the hosts and where more of them stand, and what takes
precedence over the settings. -/
structure RunRequest where
  script : String := ""
  hosts : List String := []
  hostFiles : List String := []
  tables : List String := []
  defines : List (String × String) := []
  connections : Option Nat := none
  domain : Option String := none
  logdir : Option String := none
  overwriteLogs : Bool := false
  dryRun : Bool := false
  options : Options := {}
  deriving DecidableEq

/-- What the program is asked to do. -/
inductive Arguments.Request where
  | run (r : RunRequest)
  | showSettings (asJson : Bool)
  | showSettingsPath
  deriving DecidableEq

/-- A command line: how often more output was asked for, whether less output or output without
colour was, another settings file than the user's, and the request. -/
structure Arguments where
  verbosity : Nat := 0
  quiet : Bool := false
  plain : Bool := false
  settingsFile : Option String := none
  request : Arguments.Request := .showSettings false
  deriving DecidableEq

namespace Arguments

def onRun (f : RunRequest → RunRequest) (a : Arguments) : Arguments :=
  match a.request with
  | .run r => { a with request := .run (f r) }
  | _ => a

def onOptions (f : Options → Options) : Arguments → Arguments :=
  onRun fun r => { r with options := f r.options }

/-! ### Values -/

def asText (f : String → Arguments → Arguments) (s : String) (a : Arguments) :
    Except ValueFault Arguments :=
  .ok (f s a)

/-- A path, which is not empty. -/
def asPath (f : String → Arguments → Arguments) (s : String) (a : Arguments) :
    Except ValueFault Arguments :=
  if s.isEmpty then .error .empty else .ok (f s a)

/-- The number below 2⁶⁴ that digits spell after `n`. -/
def countFrom (n : Nat) : List Char → Except ValueFault Nat
  | [] => .ok n
  | c :: rest =>
    if !isDigit c then .error (.invalid "invalid digit found in string")
    else
      let n := 10 * n + (c.toNat - '0'.toNat)
      if n < 0x10000000000000000 then countFrom n rest
      else .error (.invalid "number too large to fit in target type")

/-- A natural number below 2⁶⁴, perhaps after a plus sign. -/
def countOf (s : List Char) : Except ValueFault Nat :=
  match s with
  | [] => .error (.invalid "cannot parse integer from empty string")
  | '+' :: c :: rest => countFrom 0 (c :: rest)
  | _ => countFrom 0 s

/-- A definition: a name, without blanks around it, and after the first equals sign its value. -/
def definitionOf (s : String) : Except ValueFault (String × String) :=
  match cut '=' s.toList with
  | none => .error (.invalid ("expected KEY=VALUE, got '" ++ s ++ "'"))
  | some (key, value) =>
    let key := trimChars key
    if key.isEmpty then .error (.invalid ("missing variable name in '" ++ s ++ "'"))
    else .ok (String.ofList key, String.ofList value)

/-! ### Grammar -/

def everywhere : List (Parameter Arguments) :=
  [ .counter "verbose" (some 'v') fun n a => { a with verbosity := n },
    .switch "quiet" (some 'q') fun a => { a with quiet := true },
    .switch "no-color" none fun a => { a with plain := true },
    .option "config" none "FILE" .value <| asPath fun s a => { a with settingsFile := some s },
    .help ]

def sessionOptions : List (Parameter Arguments) :=
  [ .option "user" (some 'u') "USER" .value <|
      asText fun s => onOptions fun o => { o with user := some s },
    .option "password" none "PASSWORD" .value <|
      asText fun s => onOptions fun o => { o with password := some s },
    .option "protocol" none "PROTOCOL" .value <|
      asText fun s => onOptions fun o => { o with protocol := some s },
    .switch "no-echo" none <| onOptions fun o => { o with noEcho := true },
    .option "ssh-key" none "FILE" .value <|
      asPath fun s => onOptions fun o => { o with sshKey := some s },
    .switch "ssh-auto-verify" none <| onOptions fun o => { o with sshAutoVerify := true },
    .switch "no-initial-prompt" none <| onOptions fun o => { o with noInitialPrompt := true },
    .switch "no-prompt" none <| onOptions fun o => { o with noPrompt := true },
    .switch "no-authentication" none <| onOptions fun o => { o with noAuthentication := true } ]

/-- The options that say which hosts a run has and what becomes of its output. -/
def runOptions : List (Parameter Arguments) :=
  [ .option "hosts-file" none "FILE" .values <|
      asPath fun s => onRun fun r => { r with hostFiles := r.hostFiles ++ [s] },
    .option "csv" none "FILE" .values <|
      asPath fun s => onRun fun r => { r with tables := r.tables ++ [s] },
    .option "define" (some 'd') "KEY=VALUE" .values fun s a =>
      (definitionOf s).map fun p => a.onRun fun r => { r with defines := r.defines ++ [p] },
    .option "connections" (some 'c') "N" .value fun s a =>
      (countOf s.toList).map fun n => a.onRun fun r => { r with connections := some n },
    .option "domain" none "DOMAIN" .value <|
      asText fun s => onRun fun r => { r with domain := some s },
    .option "logdir" none "DIR" .value <|
      asPath fun s => onRun fun r => { r with logdir := some s },
    .switch "overwrite-logs" none <| onRun fun r => { r with overwriteLogs := true },
    .switch "dry-run" none <| onRun fun r => { r with dryRun := true } ]

def runGrammar : Grammar Arguments where
  name := "run"
  options := runOptions ++ sessionOptions ++ everywhere
  required := [.positional "<SCRIPT>" .value <|
    asPath fun s => onRun fun r => { r with script := s }]
  optional := [.positional "[HOSTS]..." .values <|
    asText fun s => onRun fun r => { r with hosts := r.hosts ++ [s] }]
  enter a := { a with request := .run {} }

def asJson : Parameter Arguments :=
  .switch "json" none fun a => { a with request := .showSettings true }

/-- The command that shows the settings or their place. -/
def settingsGrammar : Grammar Arguments where
  name := "config"
  options := asJson :: everywhere
  commands :=
    [ { name := "show"
        options := asJson :: everywhere
        enter := fun a => { a with request := .showSettings false } },
      { name := "path"
        options := everywhere
        enter := fun a => { a with request := .showSettingsPath } } ]
  enter a := { a with request := .showSettings false }

def grammar : Grammar Arguments where
  name := "termrun"
  options := everywhere ++ [.version]
  commands := [runGrammar, settingsGrammar]
  needsCommand := true

def read (args : List String) : Except Stop Arguments := grammar.read {} args

end Arguments

end FleetScript
