import TemplateServer.Text.Direction
import TemplateServer.Text.Joining
import TemplateServer.Text.Mark
import TemplateServer.Text.NormalForm
import TemplateServer.Uri.Mapping
import TemplateServer.Uri.Punycode

/-!
Labels, the parts of domains between dots. A label may be given in ASCII or not; either way it must
be well formed, and it is always written in ASCII.
-/

namespace TemplateServer.Uri

open Text

/-! ### Joiners -/

/-- Whether letters would join across a place, given the characters before it, the last one first,
and those after it. -/
def wouldJoin (before after : List Char) : Bool :=
  ((before.dropWhile isTransparent).head?.map joinsOn).getD false
    && ((after.dropWhile isTransparent).head?.map joinsBack).getD false

/-- Whether joiners stand only where they make a difference, behind characters that stand last one
first. A joiner may follow a virama; one that keeps letters apart may also stand between letters
that would join. -/
def joinersFit (before : List Char) : List Char → Bool
  | [] => true
  | c :: rest =>
    let fits :=
      if c == '\u200c' then (before.head?.map isVirama).getD false || wouldJoin before rest
      else if c == '\u200d' then (before.head?.map isVirama).getD false
      else true
    fits && joinersFit (c :: before) rest

/-! ### Directions -/

def isRightward (direction : Direction) : Bool :=
  direction == .rightToLeft || direction == .arabicLetter || direction == .arabicNumber

def isNeutral (direction : Direction) : Bool :=
  direction == .europeanNumber || direction == .europeanSeparator
    || direction == .europeanTerminator || direction == .commonSeparator
    || direction == .nonspacingMark || direction == .boundaryNeutral
    || direction == .otherNeutral

def lastDirection? (directions : List Direction) : Option Direction :=
  directions.reverse.find? (· != .nonspacingMark)

/-- Whether a label can be read in a domain that mixes directions: it goes one way from its first to
its last character, and it does not have digits of both kinds. -/
def directionsFit (directions : List Direction) : Bool :=
  match directions.head?, lastDirection? directions with
  | none, _ => true
  | some .leftToRight, some last =>
    directions.all (fun direction => direction == .leftToRight || isNeutral direction)
      && (last == .leftToRight || last == .europeanNumber)
  | some first, some last =>
    (first == .rightToLeft || first == .arabicLetter)
      && directions.all (fun direction => isRightward direction || isNeutral direction)
      && (isRightward last || last == .europeanNumber)
      && !(directions.contains .europeanNumber && directions.contains .arabicNumber)
  | some _, none => false

/-! ### Labels -/

def isWellFormed (label : List Char) : Bool :=
  !labelMark.isPrefixOf label && !(label.head?.map isMark).getD false && joinersFit [] label

/-- A label as it is read, from its normal spelling; none if it is not well formed. One that stands
for another must stand for what could not be written in ASCII, and in its normal spelling. -/
def readLabel? (label : List Char) : Option (List Char) :=
  if labelMark.isPrefixOf label then
    match foreignLabel? (label.drop labelMark.length) with
    | none => none
    | some decoded =>
      if decoded.all isAscii || !decoded.all isSettled || normalForm decoded != decoded
          || !isWellFormed decoded then
        none
      else
        some decoded
  else if label.all isAscii || isWellFormed label then
    some label
  else
    none

def directionsAgree (labels : List (List Char)) : Bool :=
  let directions := labels.map fun label => label.map Direction.of
  !directions.any (fun label => label.any isRightward) || directions.all directionsFit

/-- Reads the labels of a domain whose characters are in their normal spelling; none if one of them is
not well formed, or if they cannot be read in one domain. -/
def readLabels? (text : List Char) : Option (List (List Char)) :=
  match (splitAt (· == '.') (normalForm text)).mapM readLabel? with
  | none => none
  | some labels => if directionsAgree labels then some labels else none

end TemplateServer.Uri
