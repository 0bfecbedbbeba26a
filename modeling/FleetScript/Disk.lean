import FleetScript.Bindings
import FleetScript.Path
import FleetScript.Text.Blank
import FleetScript.Text.Utf8

/-!
Files and folders as a value, with a working folder among them. Paths are resolved part by part
from the working folder, or from the root if they start with a slash. Every operation on one file or
folder either does all it says or fails with a cause and changes nothing.
-/

namespace FleetScript

open Text

/-! ### Causes -/

/-- Why an operation on files failed. -/
inductive IoError where
  | notFound
  | permissionDenied
  | alreadyExists
  | notAFolder
  | isAFolder
  | notAFile
  | nameTooLong
  | nulInPath
  | nulInArgument
  | brokenPipe
  | invalidText
  deriving DecidableEq

def IoError.message : IoError → String
  | notFound => "No such file or directory (os error 2)"
  | permissionDenied => "Permission denied (os error 13)"
  | alreadyExists => "File exists (os error 17)"
  | notAFolder => "Not a directory (os error 20)"
  | isAFolder => "Is a directory (os error 21)"
  | notAFile => "the source path is neither a regular file nor a symlink to a regular file"
  | nameTooLong => "File name too long (os error 36)"
  | nulInPath => "file name contained an unexpected NUL byte"
  | nulInArgument => "nul byte found in provided data"
  | brokenPipe => "Broken pipe (os error 32)"
  | invalidText => "stream did not contain valid UTF-8"

/-! ### Content -/

/-- What stands at a place. -/
inductive Node where
  | file (content : Bytes)
  | folder
  deriving DecidableEq

/-- The files and folders, by their places: the names from the root on, joined by slashes. The root
itself is the empty place. Paths that do not start at the root start at the place `base`. -/
structure Disk where
  nodes : Bindings Node := ∅
  base : String := ""
  deriving DecidableEq

namespace Disk

/-- What stands at a place. -/
def node? (d : Disk) (place : String) : Option Node :=
  if place.isEmpty then some .folder else d.nodes.get? place

def put (d : Disk) (place : String) (n : Node) : Disk := { d with nodes := d.nodes.insert place n }

theorem node?_put (d : Disk) {place : String} (h : place.isEmpty = false) (n : Node) (q : String) :
    (d.put place n).node? q = if q = place then some n else d.node? q := by
  unfold node? put
  by_cases hq : q = place
  · simp [hq, h]
  · simp [hq]

def within (place name : String) : String := if place.isEmpty then name else place ++ "/" ++ name

/-- The place that a place lies in; the root lies in itself. -/
def above (place : String) : String :=
  match cut '/' place.toList.reverse with
  | some (_, front) => String.ofList front.reverse
  | none => ""

def start (d : Disk) (path : String) : String :=
  if path.toList.head? = some '/' then "" else d.base

/-! ### Resolving paths -/

/-- The place that the parts of a path lead to from a place. All parts but the last must be
folders. -/
def walk (d : Disk) (place : String) : List (List Char) → Except IoError String
  | [] => .ok place
  | p :: rest =>
    match d.node? place with
    | none => .error .notFound
    | some (.file _) => .error .notAFolder
    | some .folder =>
      if p = [] ∨ p = ['.'] then walk d place rest
      else if p = ['.', '.'] then walk d (above place) rest
      else if 255 < (encode p).length then .error .nameTooLong
      else walk d (within place (String.ofList p)) rest

/-- Why a path cannot be used at all: it holds a zero, is empty, or has more than 4095 bytes. -/
def checkPath (path : String) : Except IoError Unit :=
  if path.toList.contains '\x00' then .error .nulInPath
  else if path.isEmpty then .error .notFound
  else if 4096 ≤ (toBytes path).length then .error .nameTooLong
  else .ok ()

/-- The place that a path leads to, whether something stands there or not. -/
def resolve (d : Disk) (path : String) : Except IoError String := do
  checkPath path
  walk d (d.start path) (fields '/' path.toList)

/-- The end of a path: its last name or dots, if there is one, and whether a slash follows. -/
structure PathEnd where
  front : List (List Char)
  last : Option (List Char)
  slash : Bool

/-- The end of a path, and the fields before it. -/
def pathEnd (path : String) : PathEnd :=
  let all := (fields '/' path.toList).reverse
  let named := all.dropWhile (·.isEmpty)
  { front := named.tail.reverse
    last := named.head?
    slash := all.head?.any (·.isEmpty) }

/-- The folder that the parts of a path lead to from a place. -/
def folderAt (d : Disk) (place : String) (ps : List (List Char)) : Except IoError String := do
  let place ← d.walk place ps
  match d.node? place with
  | some .folder => pure place
  | some (.file _) => throw .notAFolder
  | none => throw .notFound

def mustBeFolder (path : String) : Bool :=
  match (fields '/' path.toList).getLast? with
  | some p => p = [] || p = ['.'] || p = ['.', '.']
  | none => false

def find (d : Disk) (path : String) : Except IoError Node := do
  let place ← d.resolve path
  match d.node? place with
  | none => throw .notFound
  | some (.file content) => if mustBeFolder path then throw .notAFolder else pure (.file content)
  | some .folder => pure .folder

def has (d : Disk) (path : String) : Bool := (d.find path).isOk

def hasFolder (d : Disk) (path : String) : Bool :=
  match d.find path with
  | .ok .folder => true
  | _ => false

/-! ### Reading and writing -/

def read (d : Disk) (path : String) : Except IoError Bytes := do
  match ← d.find path with
  | .file content => pure content
  | .folder => throw .isAFolder

def readText (d : Disk) (path : String) : Except IoError String := do
  match decode? (← d.read path) with
  | some text => pure text
  | none => throw .invalidText

/-- How a file that exists is written to. -/
inductive WriteMode where
  | replace
  | append
  deriving DecidableEq

def written (old : Bytes) (mode : WriteMode) (bytes : Bytes) : Bytes :=
  match mode with
  | .replace => bytes
  | .append => old ++ bytes

/-- Writes a file, which need not exist, in a folder that must. No file has a slash behind its
name. -/
def write (d : Disk) (path : String) (mode : WriteMode) (bytes : Bytes) : Except IoError Disk := do
  checkPath path
  let e := pathEnd path
  match e.last with
  | none => throw .isAFolder
  | some name =>
    let place ← d.folderAt (d.start path) e.front
    if name = ['.'] || name = ['.', '.'] || e.slash then throw .isAFolder
    let place ← d.walk place [name]
    match d.node? place with
    | some .folder => throw .isAFolder
    | some (.file old) => pure (d.put place (.file (written old mode bytes)))
    | none => pure (d.put place (.file (written [] mode bytes)))

/-- Copies the content of a file. Opening the target empties it before anything is read. -/
def copy (d : Disk) (source target : String) : Except IoError Disk := do
  match ← d.find source with
  | .folder => throw .notAFile
  | .file _ =>
    let opened ← d.write target .replace []
    opened.write target .replace (← opened.read source)

/-! ### Folders -/

/-- Makes a folder in a folder that exists. -/
def makeFolder (d : Disk) (path : String) : Except IoError Disk := do
  checkPath path
  let e := pathEnd path
  match e.last with
  | none => throw .alreadyExists
  | some name =>
    let place ← d.folderAt (d.start path) e.front
    if name = ['.'] || name = ['.', '.'] then throw .alreadyExists
    let place ← d.walk place [name]
    match d.node? place with
    | some _ => throw .alreadyExists
    | none => pure (d.put place .folder)

/-- Makes the first of some folders, each of which lies in the next, and those it lies in as far as
they are missing. What has been made stays if one cannot be made. -/
def makeChain (d : Disk) : List String → Except IoError Unit × Disk
  | [] => (.ok (), d)
  | path :: above =>
    if path.isEmpty then (.ok (), d)
    else
      match d.makeFolder path with
      | .ok d => (.ok (), d)
      | .error .notFound =>
        match makeChain d above with
        | (.error e, d) => (.error e, d)
        | (.ok (), d) =>
          match d.makeFolder path with
          | .ok d => (.ok (), d)
          | .error e => if d.hasFolder path then (.ok (), d) else (.error e, d)
      | .error e => if d.hasFolder path then (.ok (), d) else (.error e, d)

def makeFolders (d : Disk) (path : String) : Except IoError Unit × Disk :=
  d.makeChain (Path.chain path)

/-! ### Whole disks -/

/-- The disk with a folder and those it lies in, as far as they can be made. -/
def withFolder (d : Disk) (path : String) : Disk := (d.makeFolders path).2

def ofBase (base : String) : Disk :=
  { ({} : Disk).withFolder base with base := base }

/-- The disk with a file and the folders it lies in, as far as they can be made. -/
def withFile (d : Disk) (path : String) (content : Bytes) : Disk :=
  let d := match Path.parent? path with
    | some folder => d.withFolder folder
    | none => d
  (d.write path .replace content).toOption.getD d

/-- A path to a place: from the working folder if the place lies in it, else from the root. -/
def pathTo (d : Disk) (place : String) : String :=
  let inner := d.base.toList ++ ['/']
  if inner.isPrefixOf place.toList then String.ofList (place.toList.drop inner.length)
  else "/" ++ place

def files (d : Disk) : List (String × Bytes) :=
  d.nodes.pairs.filterMap fun (place, n) =>
    match n with
    | .file content => some (d.pathTo place, content)
    | .folder => none

/-- The files that are new or have another content than on another disk. -/
def changedSince (d old : Disk) : List (String × Bytes) :=
  d.files.filter fun (path, content) => old.files.lookup path != some content

end Disk

end FleetScript
