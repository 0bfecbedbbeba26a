import FleetScript.Text.Joining
import FleetScript.Text.Normal.Classes

/-!
Joiners in labels of domain names: invisible characters that join the letters around them or keep
them apart. They may stand after a mark that binds consonants, and the one that keeps letters apart
also between letters that would be joined.
-/

namespace FleetScript.Host.DomainName

open Text

def nonJoiner : Char := '\u200C'

def joiner : Char := '\u200D'

def isBinder (c : Char) : Bool := Normal.combiningClass c = 9

/-- Whether the letters before a place, in reverse, and after it would be joined there. -/
def wouldJoin (before after : List Char) : Bool :=
  let next (s : List Char) := (s.dropWhile (inRanges transparentRanges)).head?
  (next before).any (fun c => inRanges dualJoiningRanges c || inRanges leftJoiningRanges c) &&
    (next after).any (fun c => inRanges dualJoiningRanges c || inRanges rightJoiningRanges c)

/-- Whether the joiners of a label stand where they may, given what stands before it in
reverse. -/
def joinersHold (before : List Char) : List Char → Bool
  | [] => true
  | c :: rest =>
    (if c = joiner then before.head?.any isBinder
      else if c = nonJoiner then before.head?.any isBinder || wouldJoin before rest
      else true) && joinersHold (c :: before) rest

end FleetScript.Host.DomainName
