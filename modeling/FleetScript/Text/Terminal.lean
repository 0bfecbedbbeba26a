import FleetScript.Text.Utf8

/-!
Control sequences of terminals. They begin with an escape character and go on to a last character,
some to a bell or a terminator. `withoutControls` takes them out of a text, and the single control
characters too, except blanks. A blank in the middle of a sequence is kept, as is what follows it
up to the next control character.
-/

namespace FleetScript.Text

namespace Terminal

/-! ### Sequences -/

/-- Where a text stands: outside of a sequence, with so many bytes of a character to come, behind
an escape character (or a sequence of that kind that goes on), in a sequence with parameters, in a
title, or in another string. -/
inductive Mode where
  | outside
  | character (bytes : Nat)
  | escape
  | escapeInner
  | sequence
  | title
  | string
  deriving DecidableEq

/-- What a byte is: shown, a control character, or a part of a sequence. -/
inductive Effect where
  | shown
  | control
  | hidden
  deriving DecidableEq

/-- Whether a byte is a control character that is no part of a sequence. -/
def isControl (b : UInt8) : Bool := b ≤ 0x17 || b = 0x19 || (0x1C ≤ b && b ≤ 0x1F)

/-- What a byte is, and the mode that it begins, if it changes the mode. -/
def effect (m : Mode) (b : UInt8) : Option Mode × Effect :=
  if b = 0x18 || b = 0x1A then (some .outside, .control)
  else if b = 0x1B then (some .escape, .hidden)
  else
    match m with
    | .outside | .character _ =>
      if isControl b then (none, .control)
      else if b < 0x7F then (none, .shown)
      else if 0xC2 ≤ b && b ≤ 0xDF then (some (.character 2), .shown)
      else if 0xE0 ≤ b && b ≤ 0xEF then (some (.character 3), .shown)
      else if 0xF0 ≤ b && b ≤ 0xF4 then (some (.character 4), .shown)
      else (none, .hidden)
    | .escape =>
      if isControl b then (none, .control)
      else if b = 0x5B then (some .sequence, .hidden)
      else if b = 0x5D then (some .title, .hidden)
      else if b = 0x50 || b = 0x58 || b = 0x5E || b = 0x5F then (some .string, .hidden)
      else if 0x20 ≤ b && b ≤ 0x2F then (some .escapeInner, .hidden)
      else if 0x30 ≤ b && b ≤ 0x7E then (some .outside, .hidden)
      else (none, .hidden)
    | .escapeInner =>
      if isControl b then (none, .control)
      else if 0x30 ≤ b && b ≤ 0x7E then (some .outside, .hidden)
      else (none, .hidden)
    | .sequence =>
      if isControl b then (none, .control)
      else if 0x40 ≤ b && b ≤ 0x7E then (some .outside, .hidden)
      else (none, .hidden)
    | .title => if b = 0x07 then (some .outside, .hidden) else (none, .hidden)
    | .string => if b = 0x9C then (some .outside, .hidden) else (none, .hidden)

/-- Whether a byte is kept: one that is shown, or a blank. -/
def isKept (e : Effect) (b : UInt8) : Bool :=
  e = .shown || (e = .control && (b = 0x09 || b = 0x0A || b = 0x0C || b = 0x0D))

/-! ### Texts -/

/-- The mode after a byte where nothing has been kept just before, and whether the byte is kept. -/
def seek (m : Mode) (b : UInt8) : Mode × Bool :=
  match m with
  | .character _ => (m, true)
  | _ =>
    let (next, e) := effect m b
    (next.getD m, isKept e b)

/-- The mode after a byte that follows kept ones, and whether the byte is kept. -/
def follow (m : Mode) (b : UInt8) : Mode × Bool :=
  match m with
  | .character n => (if n ≤ 1 then .outside else .character (n - 1), true)
  | _ =>
    match effect .outside b with
    | (some (.character n), _) => (.character (n - 1), true)
    | (next, e) => (next.getD m, isKept e b)

/-- The kept bytes, from a mode, with whether the byte before was kept. -/
def keptFrom (m : Mode) (following : Bool) : Bytes → Bytes
  | [] => []
  | b :: rest =>
    let (m, more) := if following then follow m b else (m, false)
    if more then b :: keptFrom m true rest
    else
      let (m, start) := seek m b
      if start then b :: keptFrom (follow m b).1 true rest else keptFrom m false rest

end Terminal

/-- A text without control sequences and control characters other than blanks. -/
def withoutControls (s : String) : String :=
  decodeLossy (Terminal.keptFrom .outside false (toBytes s))

def yellow (s : String) : String := "\x1b[33m" ++ s ++ "\x1b[0m"

def bold (s : String) : String := "\x1b[1m" ++ s ++ "\x1b[0m"

example : withoutControls (yellow "é\x1b" ++ "\x07, " ++ bold "b") = "é, b" := by decide +kernel

end FleetScript.Text
