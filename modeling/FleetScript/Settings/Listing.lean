import FleetScript.Settings
import FleetScript.Text.Grid

/-!
Settings as a table of names and values.
-/

namespace FleetScript.Settings

open Text

def shownText (s : String) : String := if s.isEmpty then "(not set)" else s

def defineRows (defines : Bindings String) : List (List String) :=
  if defines.isEmpty then [["defines", "(none)"]]
  else defines.pairs.map fun (k, v) => ["defines." ++ k, v]

def listing (s : Settings) : Grid where
  header := ["Key", "Value"]
  rows :=
    [ ["version", decimal s.version],
      ["domain", shownText s.domain],
      ["logdir", s.logdir.getD (shownText "")],
      ["overwrite_logs", if s.overwriteLogs then "true" else "false"],
      ["max_threads", decimal s.maxThreads],
      ["protocol", s.protocol] ] ++ defineRows s.defines

end FleetScript.Settings
