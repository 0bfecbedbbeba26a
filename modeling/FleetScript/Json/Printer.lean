import FleetScript.Json.Value

/-!
Writing JSON values over several lines: two blanks for each depth, a member or item to a line,
and no line end after the value.
-/

namespace FleetScript.Json

open Text

/-- A character inside a string: quotes, backslashes and control characters are escaped. -/
def printChar (c : Char) : List Char :=
  if c = '"' then ['\\', '"']
  else if c = '\\' then ['\\', '\\']
  else if c = '\x08' then ['\\', 'b']
  else if c = '\x0c' then ['\\', 'f']
  else if c = '\n' then ['\\', 'n']
  else if c = '\r' then ['\\', 'r']
  else if c = '\t' then ['\\', 't']
  else if c.toNat < 0x20 then
    ['\\', 'u', '0', '0', hexDigit (c.toNat / 16), hexDigit (c.toNat % 16)]
  else [c]

def printString (s : String) : List Char := '"' :: (s.toList.flatMap printChar ++ ['"'])

/-- A line end and the blanks of a depth. -/
def newline (depth : Nat) : List Char := '\n' :: List.replicate (2 * depth) ' '

mutual

/-- A value whose first line stands at a depth. -/
def printAt (depth : Nat) : Json → List Char
  | .null => "null".toList
  | .bool b => (if b then "true" else "false").toList
  | .number n => n.text.toList
  | .string s => printString s
  | .array [] => ['[', ']']
  | .array (x :: xs) =>
    '[' :: newline (depth + 1) ++ printAt (depth + 1) x ++ printItems (depth + 1) xs ++
      newline depth ++ [']']
  | .object [] => ['\x7b', '\x7d']
  | .object ((k, x) :: ms) =>
    '\x7b' :: newline (depth + 1) ++ printString k ++ [':', ' '] ++ printAt (depth + 1) x ++
      printMembers (depth + 1) ms ++ newline depth ++ ['\x7d']

def printItems (depth : Nat) : List Json → List Char
  | [] => []
  | x :: xs => ',' :: newline depth ++ printAt depth x ++ printItems depth xs

def printMembers (depth : Nat) : List (String × Json) → List Char
  | [] => []
  | (k, x) :: ms =>
    ',' :: newline depth ++ printString k ++ [':', ' '] ++ printAt depth x ++ printMembers depth ms

end

def print (v : Json) : String := String.ofList (printAt 0 v)

end FleetScript.Json
