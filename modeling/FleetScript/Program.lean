import FleetScript.Program.RunCommand
import FleetScript.Settings.File
import FleetScript.Settings.Listing

/-!
The program as a function: from a command line and what is found around the program, to what it
writes, how it exits, and what it leaves on the disk.
-/

namespace FleetScript

open Text

/-! ### In and out -/

/-- What is found around the program: files, the user's home folder, and client programs. -/
structure Surroundings where
  disk : Disk
  home : String
  programs : Client.Programs

/-- What the program leaves behind: its exit code, its output, the line that closes the output if
the time taken is to follow it, its error output, the disk, and the clients that ran. -/
structure Finish where
  exit : Nat := 0
  stdout : String := ""
  tally : Option String := none
  stderr : String := ""
  disk : Disk
  clients : List Client.Invocation := []

namespace Program

/-! ### Faults -/

def faultLine (message : String) : String := "Error: " ++ message ++ "\n"

def settingsFault (path : String) (e : Settings.FileError) : String :=
  "Error: Configuration error\n\n  " ++ e.message ++ "\n\n  Config file: " ++ path ++
    "\n\n  Tip: Check the config file for syntax errors or unknown fields.\n"

/-- The sequence that makes a terminal show its cursor, which a question may have hidden. -/
def showCursor : String := "\x1b[?25h"

def runFault (f : RunRequest.Failure) : String :=
  (if f.isUnanswered then showCursor else "") ++ faultLine f.message

/-! ### Without arguments that ask for something -/

def about : String := "Run templated Telnet/SSH scripts against many hosts"

def help : String :=
  about ++ "\n\nUsage: " ++ programName ++
    " [OPTIONS] <COMMAND>\n\nCommands:\n  run     Run a script on every given host\n" ++
    "  config  Show configuration\n"

/-- What is left of a command line that asks for nothing that can be done. A fault is reported
without colours, and without control characters of the user's own. -/
def stopped (disk : Disk) : Arguments.Stop → Finish
  | .help => { stdout := help, disk }
  | .version => { stdout := programName ++ " " ++ version ++ "\n", disk }
  | .nothingGiven => { exit := 2, stderr := help, disk }
  | .usage e =>
    { exit := 2
      stderr := withoutControls <|
        "error: " ++ e.message ++ "\n\nFor more information, try '--help'.\n"
      disk }

/-! ### Requests -/

def runScript (w : Surroundings) (quiet : Bool) (s : Settings) (r : RunRequest) : Finish :=
  match r.prepare s w.disk with
  | .error f => { exit := 1, stderr := runFault f, disk := w.disk }
  | .ok runner =>
    let total := runner.registry.entries.length
    let before := if quiet then "" else r.announcement s total
    let sent := r.send s runner w.programs w.disk
    let echoed := RunRequest.echoed sent.notices
    let (after, table, tally) := match quiet, sent.result with
      | false, .ok summary =>
        (RunRequest.remarks summary,
          (Overview.grid (Overview.rows sent.reports summary)).draw ++ "\n",
          some (RunRequest.tally (Overview.succeeded sent.reports summary) total))
      | _, _ => ("", "", none)
    let (exit, fault) := match RunRequest.verdict total sent with
      | .ok () => (0, "")
      | .error f => (1, runFault f)
    { exit
      stdout := echoed ++ table
      tally
      stderr := before ++ after ++ fault
      disk := sent.disk
      clients := sent.clients }

def carryOut (w : Surroundings) (a : Arguments) (path : String) (s : Settings) : Finish :=
  match a.request with
  | .run r => runScript w a.quiet s r
  | .showSettings true => { stdout := Json.print s.toJson ++ "\n", disk := w.disk }
  | .showSettings false => { stdout := s.listing.draw ++ "\n", disk := w.disk }
  | .showSettingsPath => { stdout := path ++ "\n", disk := w.disk }

/-- The lines that a user who wants more output sees first. -/
def preamble (a : Arguments) (path : String) : String :=
  if a.verbosity = 0 then ""
  else "[info] " ++ programName ++ " " ++ longVersion ++ "\n[info] Config: " ++ path ++ "\n"

/-- The path of the settings that a command line asks for. -/
def settingsPath (home : String) (a : Arguments) : String :=
  a.settingsFile.getD (Settings.path home)

def run (w : Surroundings) (args : List String) : Finish :=
  match Arguments.read args with
  | .error stop => stopped w.disk stop
  | .ok a =>
    let path := settingsPath w.home a
    match Settings.load w.disk path with
    | .error e => { exit := 1, stderr := settingsFault path e, disk := w.disk }
    | .ok s =>
      let f := carryOut w a path s
      { f with stderr := preamble a path ++ f.stderr }

/-! ### What it needs to know of a disk -/

/-- The files that a command line makes the program read. -/
def filesRead (home : String) (args : List String) : List String :=
  match Arguments.read args with
  | .error _ => []
  | .ok a =>
    settingsPath home a ::
      match a.request with
      | .run r => r.script :: (r.hostFiles ++ r.tables)
      | _ => []

/-- The folder that a command line makes the program write logs to, given a disk with the files
that it reads. -/
def logFolder? (disk : Disk) (home : String) (args : List String) : Option String := do
  let a ← (Arguments.read args).toOption
  let s ← (Settings.load disk (settingsPath home a)).toOption
  match a.request with
  | .run r => (r.settings s).logdir
  | _ => none

end Program

end FleetScript
