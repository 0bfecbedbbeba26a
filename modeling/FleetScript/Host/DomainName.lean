import FleetScript.Host.DomainName.Direction
import FleetScript.Host.DomainName.Joining
import FleetScript.Host.DomainName.Letters
import FleetScript.Text.Blank
import FleetScript.Text.Mark
import FleetScript.Text.Normal
import FleetScript.Text.Punycode

/-!
Domain names in their plain form: letters in lower case and composed, and each label with other
characters than plain ones written as `xn--` and its Punycode.
-/

namespace FleetScript.Host.DomainName

open Text

/-! ### Characters -/

/-- Characters that no label may hold: control characters, blanks, and those that end or divide
a host in a web address. -/
def isForbidden (c : Char) : Bool :=
  c.toNat ≤ 0x20 || c.toNat = 0x7F || "#/:<>?@[\\]^|%".toList.contains c

/-- A character of the first 128. -/
def isPlain (c : Char) : Bool := c.toNat < 128

/-! ### Labels -/

/-- The start of a label that is given in Punycode. -/
def codeMark : List Char := "xn--".toList

/-- The text that a label without its mark codes: characters after the last hyphen place others
among those before it. At most 2000 characters are read, and a hyphen that starts the label is no
digit. -/
def decodeLabel? (code : List Char) : Option (List Char) :=
  let rest := (code.reverse.takeWhile (· ≠ '-')).reverse
  let basic := code.take (code.length - rest.length)
  if basic.length = 1 || 2000 < code.length then none
  else Punycode.readAll? rest 72 0 128 basic.dropLast

/-- A label as the text that it names: coded ones name a text that is not all plain, normal, and
made of characters that are written as they are. -/
def readLabel? (label : List Char) : Option (List Char) :=
  if codeMark.isPrefixOf label then
    if !label.all isPlain then none
    else
      match decodeLabel? (label.drop codeMark.length) with
      | none => none
      | some text =>
        if text.all isPlain || Normal.normal text ≠ text ||
            text.any (fun c => letters? c ≠ some [c]) then none
        else some text
  else some label

/-- Whether a label starts with no mark, and joiners stand where they may. -/
def isWellFormed (label : List Char) : Bool := !label.head?.any isMark && joinersHold [] label

/-- The plain form of a label. At most 1000 characters are coded. -/
def writeLabel? (label : List Char) : Option (List Char) :=
  if label.any isForbidden then none
  else if label.all isPlain then some label
  else if 1000 < label.length then none
  else some (codeMark ++ Punycode.write label)

/-! ### Names -/

def toPlain? (name : List Char) : Option (List Char) := do
  let text ← name.mapM letters?
  let labels ← (fields '.' (Normal.normal text.flatten)).mapM readLabel?
  if !labels.all isWellFormed then none
  if labels.any turnsLeft && !labels.all directionHolds then none
  let written ← labels.mapM writeLabel?
  pure (['.'].intercalate written)

end FleetScript.Host.DomainName
