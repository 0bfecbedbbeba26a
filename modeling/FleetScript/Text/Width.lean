import FleetScript.Text.Joining
import FleetScript.Text.Width.Classes

/-!
The width of texts in the columns of a display. Most characters have a width of their own. What
stands after a character changes it where both are drawn as one: pictures in a sequence, letters in
a ligature, and characters with a selector. So a text is measured from its end.
-/

namespace FleetScript.Text.Width

/-! ### What follows a character -/

/-- The last parts of ligatures: of the Arabic one of two letters, the Hebrew one, the Buginese one
(from the letter, or from the vowel sign before it), the Tifinagh one (from the consonant, or from
the joiner before it), the tone of two Lisu letters, the Old Turkic one, and a Khmer letter that may
be written below another. -/
inductive Ending where
  | alef
  | lamed
  | buginese
  | bugineseVowel
  | tifinagh
  | tifinaghJoiner
  | lisu
  | orkhon
  | khmer
  deriving DecidableEq

/-- What a character may be drawn as one with. A joined picture has a joiner before it, and before
that joiner a keycap, flags, or the tags of a flag may stand, the number of whose letters and digits
counts. The two vowel signs are those of Kirat Rai, which are written doubled. -/
inductive Next where
  | other
  | lineFeed
  | tone
  | flagLetter
  | flag
  | picture
  | joined
  | joinedKeycap
  | joinedFlagLetter
  | joinedFlag
  | joinedFlagAndLetter
  | joinedTags (letters digits : Nat)
  | vowel
  | doubleVowel
  | ending (e : Ending)
  deriving DecidableEq

/-- What follows a character: what it may be drawn as one with, whether a joiner stands between,
and whether a selector does, for a picture, for text, or for full width. -/
structure Following where
  next : Next := .other
  joiner : Bool := false
  asPicture : Bool := false
  asText : Bool := false
  asWide : Bool := false
  deriving DecidableEq

namespace Following

def inLigature (f : Following) : Bool := match f.next with
  | .ending _ => true
  | _ => false

/-- What follows, with nothing but a ligature kept. -/
def onlyLigature (f : Following) : Following := if f.inLigature then f else {}

def selectPicture (f : Following) : Following :=
  if f.next = .joined ∨ f.next = .joinedKeycap then { f with asPicture := true }
  else { f.onlyLigature with asPicture := true }

def selectText (f : Following) : Following := { f.onlyLigature with asText := true }

def selectWide (f : Following) : Following := { f.onlyLigature with asWide := true }

end Following

/-! ### Characters -/

/-- Whether a character lies between two code points, or is one of them. -/
def between (first last : Nat) (c : Char) : Bool := first ≤ c.toNat && c.toNat ≤ last

def isFlagLetter (c : Char) : Bool := between 0x1F1E6 0x1F1FF c

def isTone (c : Char) : Bool := between 0x1F3FB 0x1F3FF c

/-- Characters that are drawn as a picture if a selector says so. -/
def isSelectable (c : Char) : Bool := inRanges selectableRanges c

/-- Characters that are drawn as text, and narrower, if a selector says so: pictures, but those with
East Asian signs. -/
def isNarrowAsText (c : Char) : Bool :=
  isSelectable c && inRanges pictureRanges c && !between 0x1F200 0x1F2FF c

def isSelectableQuote (c : Char) : Bool :=
  c = '\u2018' || c = '\u2019' || c = '\u201C' || c = '\u201D'

/-- Marks that ligatures pass over. -/
def isPassedOver (c : Char) : Bool :=
  c = '\u034F' || between 0x17B4 0x17B5 c || between 0x180B 0x180D c ||
    c = '\u180F' || between 0xFE00 0xFE0F c || between 0xE0100 0xE01EF c

def isLam (c : Char) : Bool :=
  c = '\u0644' || between 0x6B5 0x6B8 c || c = '\u076A' || c = '\u08A6' || c = '\u08C7'

def isAlef (c : Char) : Bool :=
  c = '\u0622' || c = '\u0623' || c = '\u0625' || c = '\u0627' || between 0x671 0x673 c ||
    c = '\u0675' || c = '\u0773' || c = '\u0774' || between 0x870 0x882 c

/-- Khmer letters that may be written below another. -/
def isKhmerSubscript (c : Char) : Bool :=
  between 0x1780 0x1782 c || between 0x1784 0x1787 c ||
    between 0x1789 0x178C c || between 0x178E 0x1793 c ||
    between 0x1795 0x1798 c || between 0x179B 0x179D c || c = '\u17A0' ||
    c = '\u17A2' || c = '\u17A7' || between 0x17AB 0x17AC c || c = '\u17AF'

def isTifinagh (c : Char) : Bool := between 0x2D31 0x2D65 c || c = '\u2D6F'

/-- The width of a character on its own. Two Khmer characters stand for more letters than one. -/
def ofChar (c : Char) : Nat :=
  if c.toNat < 0xA0 then 1
  else if c = '\u17A4' then 2
  else if c = '\u17D8' then 3
  else if inRanges widthlessRanges c then 0
  else if inRanges wideRanges c then 2
  else 1

/-- What a character is to the one before it. -/
def asNext (c : Char) : Next :=
  if c.toNat < 0x5D0 then .other
  else if c = '\u05DC' then .ending .lamed
  else if isAlef c then .ending .alef
  else if isKhmerSubscript c then .ending .khmer
  else if c = '\u1A10' then .ending .buginese
  else if isTifinagh c then .ending .tifinagh
  else if c = '\uA4FC' || c = '\uA4FD' then .ending .lisu
  else if c.toNat = 0x10C03 then .ending .orkhon
  else if c.toNat = 0x16D67 then .vowel
  else if c.toNat = 0x16D68 then .doubleVowel
  else if isFlagLetter c then .flagLetter
  else if isTone c then .tone
  else if inRanges pictureRanges c then .picture
  else .other

/-- Whether a character is drawn on the one before it and joining passes over it. -/
def isWidthlessTransparent (c : Char) : Bool := ofChar c = 0 && inRanges transparentRanges c

/-! ### Characters in a text -/

def joinerChar : Char := '\u200D'

/-- The width that a character adds before what follows it, and what it is to the character before
it, if the two are drawn as one. -/
def drawn? (c : Char) (f : Following) : Option (Int × Next) :=
  match f.next with
  | .ending .alef =>
    if isLam c then some (0, .other)
    else if isWidthlessTransparent c then some (0, .ending .alef)
    else none
  | .ending .lamed => if f.joiner && c = '\u05D0' then some (0, .other) else none
  | .ending .khmer => if c = '\u17D2' then some (-1, .other) else none
  | .ending .buginese =>
    if f.joiner && c = '\u1A17' then some (0, .ending .bugineseVowel) else none
  | .ending .bugineseVowel => if c = '\u1A15' then some (0, .other) else none
  | .ending .tifinagh =>
    if c = '\u2D7F' then some (1, .ending .tifinaghJoiner)
    else if f.joiner && isTifinagh c then some (0, .other)
    else none
  | .ending .tifinaghJoiner => if isTifinagh c then some (-1, .other) else none
  | .ending .lisu => if between 0xA4F8 0xA4FB c then some (0, .other) else none
  | .ending .orkhon => if f.joiner && c.toNat = 0x10C32 then some (0, .other) else none
  | .tone =>
    if inRanges tonedRanges c then some (0, .picture)
    else if c = joinerChar then some (0, .joined)
    else none
  | .flagLetter => if isFlagLetter c then some (1, .flag) else none
  | .flag =>
    if isFlagLetter c then some (1, .flag)
    else if c = joinerChar then some (0, .joined)
    else none
  | .picture => if c = joinerChar then some (0, .joined) else none
  | .joined =>
    if c = '\u20E3' then some (0, .joinedKeycap)
    else if isFlagLetter c then some (1, .joinedFlagLetter)
    else if isTone c then some (0, .tone)
    else if c.toNat = 0xE007F then some (0, .joinedTags 0 0)
    else if asNext c = .picture then some (0, .picture)
    else none
  | .joinedFlagLetter => if isFlagLetter c then some (-1, .joinedFlag) else none
  | .joinedFlag =>
    if isFlagLetter c then some (3, .joinedFlagAndLetter)
    else if c = joinerChar then some (0, .joined)
    else none
  | .joinedFlagAndLetter =>
    if isFlagLetter c then some (-1, .joinedFlag)
    else if c = joinerChar then some (0, .joined)
    else none
  | .joinedTags letters digits =>
    if between 0xE0061 0xE007A c && digits = 0 && letters < 6 then
      some (0, .joinedTags (letters + 1) 0)
    else if between 0xE0030 0xE0039 c && letters < 5 && digits < 3 then
      some (0, .joinedTags letters (digits + 1))
    else if c.toNat = 0x1F3F4 && (digits = 3 || (digits = 0 && 3 ≤ letters)) then
      some (0, .picture)
    else none
  | .vowel =>
    if c.toNat = 0x16D63 || c.toNat = 0x16D69 then some (0, .other)
    else if c.toNat = 0x16D67 then some (0, .doubleVowel)
    else if c.toNat = 0x16D68 then some (1, .vowel)
    else none
  | .doubleVowel => if c.toNat = 0x16D63 then some (0, .other) else none
  | .joinedKeycap | .lineFeed | .other => none

/-- The width that a character adds before what follows it, and what the character before it has
following. -/
def step (c : Char) (f : Following) : Int × Following :=
  if f.asPicture && isSelectable c then
    (if f.next = .joined ∨ f.next = .joinedKeycap then 0 else 2, { next := .picture })
  else
    let f := if f.asPicture then { f.onlyLigature with asPicture := false } else f
    if c.toNat ≤ 0xA0 then
      if c = '\n' then (1, { next := .lineFeed })
      else (if c = '\r' ∧ f = { next := .lineFeed } then 0 else 1, {})
    else if c = '\uFE0F' then (0, f.selectPicture)
    else if c = '\uFE0E' then (0, f.selectText)
    else if c = '\uFE01' then (0, f.selectWide)
    else if f.asText && isNarrowAsText c then (1, {})
    else if f.asWide && isSelectableQuote c then (2, {})
    else
      let f := if f.asText || f.asWide then
        { f.onlyLigature with asText := false, asWide := false } else f
      let passes := f.inLigature && f.next ≠ .ending .alef
      if passes && c = joinerChar then (0, { f with joiner := true })
      else if passes && isPassedOver c then (0, f)
      else
        match drawn? c f with
        | some (n, next) => (n, { next })
        | none => (ofChar c, { next := asNext c })

def ofText (s : List Char) : Nat :=
  (s.foldr (fun c (n, f) => let (k, f) := step c f; (n + k, f)) ((0 : Int), {})).1.toNat

example : ofText "key é".toList = 5 := by decide +kernel
example : ofText "日本".toList = 4 := by decide +kernel
example : ofText ['\u2764', '\uFE0F'] = 2 := by decide +kernel

end FleetScript.Text.Width
