import FleetScript.Text.Blank
import FleetScript.Text.Terminal

/-!
Grammars of command lines: options with long and short names, positional arguments and commands
with grammars of their own, each saying what it does to the value that is read. An argument takes
effect when the next one begins, so a fault of its value is reported after an argument that is
not known at all.
-/

namespace FleetScript.Arguments

open Text

/-! ### Faults -/

/-- Why a value is not taken. -/
inductive ValueFault where
  | empty
  | invalid (reason : String)
  deriving DecidableEq

/-- What is wrong with a command line. Arguments of the grammar are named as they are shown. -/
inductive UsageError where
  | unexpected (argument : String)
  | unknownCommand (name : String)
  | surplusValue (value argument : String)
  | repeated (argument : String)
  | noValue (argument : String)
  | badValue (value argument reason : String)
  | missing (arguments : List String)
  | noCommand (program : String)
  deriving DecidableEq

/-- The text of a fault, with what is wrong in yellow and what it is wrong for in bold letters. -/
def UsageError.message : UsageError → String
  | unexpected argument => "unexpected argument '" ++ yellow argument ++ "' found"
  | unknownCommand name => "unrecognized subcommand '" ++ yellow name ++ "'"
  | surplusValue value argument =>
    "unexpected value '" ++ yellow value ++ "' for '" ++ bold argument ++
      "' found; no more were expected"
  | repeated argument => "the argument '" ++ yellow argument ++ "' cannot be used multiple times"
  | noValue argument => "a value is required for '" ++ yellow argument ++ "' but none was supplied"
  | badValue value argument reason =>
    "invalid value '" ++ yellow value ++ "' for '" ++ bold argument ++ "': " ++ reason
  | missing arguments =>
    "the following required arguments were not provided:" ++
      String.join (arguments.map fun a => "\n  " ++ bold a)
  | noCommand program =>
    "'" ++ yellow program ++ "' requires a subcommand but one was not provided"

/-- Why nothing is read: help or the version is asked for, nothing at all is given, or the command
line is at fault. -/
inductive Stop where
  | help
  | version
  | nothingGiven
  | usage (e : UsageError)
  deriving DecidableEq

/-! ### Grammars -/

/-- How an argument is used: as a switch, once or counted, with a value, once or many times, or to
ask for help or for the version. -/
inductive Use where
  | switch
  | counter
  | value
  | values
  | help
  | version
  deriving DecidableEq

/-- An argument: how it is shown, its names if it is an option, its use, and what it does, given how
often it was used before and its value. -/
structure Parameter (α : Type) where
  shown : String
  long : String := ""
  short : Option Char := none
  use : Use
  take : Nat → String → α → Except ValueFault α := fun _ _ a => .ok a

namespace Parameter

variable {α : Type}

def hasValue (p : Parameter α) : Bool := p.use = .value || p.use = .values

def isSingle (p : Parameter α) : Bool := p.use = .switch || p.use = .value

def switch (long : String) (short : Option Char) (on : α → α) : Parameter α where
  shown := "--" ++ long
  long := long
  short := short
  use := .switch
  take _ _ a := .ok (on a)

def counter (long : String) (short : Option Char) (set : Nat → α → α) : Parameter α where
  shown := "--" ++ long ++ "..."
  long := long
  short := short
  use := .counter
  take before _ a := .ok (set (before + 1) a)

def option (long : String) (short : Option Char) (label : String) (use : Use)
    (take : String → α → Except ValueFault α) : Parameter α where
  shown := "--" ++ long ++ " <" ++ label ++ ">"
  long := long
  short := short
  use := use
  take _ := take

/-- A positional argument, given by how it is shown. -/
def positional (shown : String) (use : Use) (take : String → α → Except ValueFault α) :
    Parameter α where
  shown := shown
  use := use
  take _ := take

def help : Parameter α where
  shown := "--help"
  long := "help"
  short := some 'h'
  use := .help

def version : Parameter α where
  shown := "--version"
  long := "version"
  short := some 'V'
  use := .version

end Parameter

/-- The grammar of a command: its name, its options, its positional arguments with those that must
be given first, the commands below it, whether one of them must be given, and what naming the
command does. -/
structure Grammar (α : Type) where
  name : String
  options : List (Parameter α)
  required : List (Parameter α) := []
  optional : List (Parameter α) := []
  commands : List (Grammar α) := []
  needsCommand : Bool := false
  enter : α → α := id

def Grammar.positionals {α : Type} (g : Grammar α) : List (Parameter α) := g.required ++ g.optional

/-! ### Single arguments -/

/-- A command line while it is read: the value so far, the arguments used so far, the argument that
has yet to take effect, with its value if it has been given, the number of the next positional
argument, and whether all that follow are positional. -/
structure Progress (α : Type) where
  value : α
  used : List String := []
  pending : Option (Parameter α × Option String) := none
  next : Nat := 0
  trailing : Bool := false

namespace Progress

variable {α : Type}

def awaits (s : Progress α) : Bool :=
  match s.pending with
  | some (_, none) => true
  | _ => false

def accept (s : Progress α) (p : Parameter α) (value : Option String) :
    Except UsageError (Progress α) :=
  if p.hasValue && value.isNone then .error (.noValue p.shown)
  else if p.isSingle && s.used.contains p.shown then .error (.repeated p.shown)
  else
    let text := value.getD ""
    match p.take (s.used.count p.shown) text s.value with
    | .error .empty => .error (.noValue p.shown)
    | .error (.invalid reason) => .error (.badValue text p.shown reason)
    | .ok a => .ok { s with value := a, used := s.used ++ [p.shown] }

def resolve (s : Progress α) : Except UsageError (Progress α) :=
  match s.pending with
  | none => .ok s
  | some (p, value) => ({ s with pending := none } : Progress α).accept p value

def flag (s : Progress α) (p : Parameter α) : Except Stop (Progress α) := do
  let s ← s.resolve.mapError .usage
  match p.use with
  | .help => throw .help
  | .version => throw .version
  | _ => (s.accept p none).mapError .usage

/-- An option with a value that is attached to it, or that is to follow. -/
def option (s : Progress α) (p : Parameter α) (attached : Option String) :
    Except Stop (Progress α) :=
  Except.mapError .usage do
    let s ← s.resolve
    match attached with
    | some value => s.accept p (some value)
    | none => pure { s with pending := some (p, none) }

end Progress

namespace Grammar

variable {α : Type} (g : Grammar α)

/-- An option by its long name, perhaps with a value after an equals sign. -/
def long (text : List Char) (s : Progress α) : Except Stop (Progress α) :=
  let (name, attached) := match cut '=' text with
    | some (name, value) => (String.ofList name, some (String.ofList value))
    | none => (String.ofList text, none)
  match g.options.find? (·.long = name), attached with
  | none, _ => .error (.usage (.unexpected ("--" ++ name)))
  | some p, none => if p.hasValue then s.option p none else s.flag p
  | some p, some value =>
    if p.hasValue then s.option p (some value)
    else .error (.usage (.surplusValue value p.shown))

/-- Options by their short names. What follows the name of an option with a value is its value,
perhaps after an equals sign. -/
def shorts : List Char → Progress α → Except Stop (Progress α)
  | [], s => .ok s
  | c :: rest, s =>
    match g.options.find? (·.short = some c) with
    | none => .error (.usage (.unexpected (String.ofList ['-', c])))
    | some p =>
      if p.hasValue then
        match rest with
        | [] => s.option p none
        | '=' :: value => s.option p (some (String.ofList value))
        | value => s.option p (some (String.ofList value))
      else do
        let s ← s.flag p
        shorts rest s

/-- Whether a text names a command. Where there are commands, `help` is one of them. -/
def isCommand (text : String) : Bool :=
  g.commands.any (·.name = text) || (text = "help" && !g.commands.isEmpty)

def positional (text : String) (s : Progress α) : Except Stop (Progress α) :=
  match g.positionals[s.next]? with
  | none =>
    .error <| .usage <|
      if g.commands.isEmpty || (s.trailing && g.isCommand text) then .unexpected text
      else .unknownCommand text
  | some p => do
    let s ← s.resolve.mapError .usage
    pure { s with
      pending := some (p, some text)
      next := if p.use = .values then s.next else s.next + 1 }

def argument (text : String) (s : Progress α) : Except Stop (Progress α) :=
  if s.trailing then g.positional text s
  else
    match text.toList, s.pending with
    | ['-', '-'], _ => .ok { s with trailing := true }
    | '-' :: '-' :: name, _ => g.long name s
    | '-' :: c :: names, _ => g.shorts (c :: names) s
    | _, some (p, none) => .ok { s with pending := some (p, some text) }
    | _, _ => g.positional text s

/-! ### Whole command lines -/

/-- The value at the end of a command line that names no further command. -/
def finish (s : Progress α) : Except Stop α := do
  let s ← s.resolve.mapError .usage
  if g.needsCommand then
    throw (if s.used.isEmpty then .nothingGiven else .usage (.noCommand g.name))
  match (g.required.map (·.shown)).filter (!s.used.contains ·) with
  | [] => pure s.value
  | missing => throw (.usage (.missing missing))

def helpOn (g : Grammar α) : List String → Stop
  | [] => .help
  | name :: rest =>
    match g.commands.find? (·.name = name) with
    | some sub => helpOn sub rest
    | none => if name = "help" && !g.commands.isEmpty then .help else .usage (.unknownCommand name)

/-- Reads a command line from where it has been read to. A fault of the argument before the name
of a command is reported after those of the command. -/
def readFrom (g : Grammar α) (s : Progress α) : List String → Except Stop α
  | [] => g.finish s
  | text :: rest =>
    let here := !s.trailing && !s.awaits
    match if here then g.commands.find? (·.name = text) else none with
    | some sub =>
      match s.resolve with
      | .ok s => readFrom sub { value := sub.enter s.value } rest
      | .error e => do
        let _ ← readFrom sub { value := sub.enter s.value } rest
        throw (.usage e)
    | none =>
      if here && text = "help" && !g.commands.isEmpty then .error (g.helpOn rest)
      else do
        let s ← g.argument text s
        readFrom g s rest

def read (a : α) (args : List String) : Except Stop α := g.readFrom { value := a } args

end Grammar

end FleetScript.Arguments
