import FleetScript.Text.Blank

/-!
Paths as texts: joining, the folder a path lies in, and the name, stem and extension of its last
part. Slashes and single dots that name nothing are passed over, except a dot at the start.
-/

namespace FleetScript.Path

open Text

/-! ### Joining -/

/-- A path within a folder. A path that starts with a slash replaces the folder, and no slash is
put after an empty folder or one that ends in a slash. -/
def join (folder path : String) : String :=
  if path.toList.head? = some '/' then path
  else if folder.isEmpty || folder.toList.getLast? = some '/' then folder ++ path
  else folder ++ "/" ++ path

/-! ### Parts -/

/-- Whether a path starts at the root. -/
def isAbsolute (path : String) : Bool := path.toList.head? = some '/'

/-- The parts of a path between slashes; of empty parts and single dots only a dot at the start
counts. -/
def parts (path : String) : List (List Char) :=
  let all := fields '/' path.toList
  match all with
  | ['.'] :: rest => ['.'] :: rest.filter fun p => p ≠ [] ∧ p ≠ ['.']
  | _ => all.filter fun p => p ≠ [] ∧ p ≠ ['.']

def isEmptyPart (p : List Char) : Bool := p = [] || p = ['.']

/-- The fields of a path between slashes without the last part, and without those around it that
name nothing. -/
def withoutLast (fs : List (List Char)) : List (List Char) :=
  ((fs.reverse.dropWhile isEmptyPart).drop 1 |>.dropWhile isEmptyPart).reverse

/-- The text of fields between slashes. -/
def ofFields (fs : List (List Char)) : String := joinWith "/" (fs.map String.ofList)

/-- The folder that a path lies in, as the path spells it; the empty path and the root lie in
none. -/
def parent? (path : String) : Option String :=
  if (parts path).isEmpty then none
  else
    match fields '/' path.toList with
    | [] :: rest => some ("/" ++ ofFields (withoutLast rest))
    | ['.'] :: rest =>
      if rest.all isEmptyPart then some ""
      else some (ofFields (['.'] :: withoutLast rest))
    | fs => some (ofFields (withoutLast fs))

/-- A path, the folder that it lies in, the folder that this one lies in, and so on up to the root
or the working folder. -/
def chain (path : String) : List String :=
  go (parts path).length path
where
  /-- Goes up as many times as are left. -/
  go : Nat → String → List String
    | 0, path => [path]
    | n + 1, path =>
      match parent? path with
      | some folder => path :: go n folder
      | none => [path]

/-- The name of the last part, if it is neither a dot nor two dots. -/
def fileName? (path : String) : Option (List Char) :=
  match (parts path).getLast? with
  | some name => if name = ['.'] ∨ name = ['.', '.'] then none else some name
  | none => none

/-- The name without its last dot and what follows it; a dot at the start belongs to the name. -/
def stem (name : List Char) : List Char :=
  match cut '.' name.reverse with
  | some (_, front) => if front.isEmpty then name else front.reverse
  | none => name

/-- The path with another extension of its name. A path without a name stays as it is. -/
def withExtension (path extension : String) : String :=
  match fileName? path with
  | none => path
  | some name =>
    let last := stem name ++ '.' :: extension.toList
    let passed := (fields '/' path.toList).reverse.dropWhile isEmptyPart
    ofFields (passed.tail.reverse ++ [last])

example : withExtension "nested/config.json" "json.bak" = "nested/config.json.bak" := by
  decide +kernel
example : parent? "a//b/./c" = some "a//b" := by decide +kernel
example : parent? "./a" = some "." := by decide +kernel
example : withExtension ".config" "json.bak" = ".config.json.bak" := by decide +kernel

end FleetScript.Path
