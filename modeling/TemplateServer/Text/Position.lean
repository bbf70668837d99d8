import TemplateServer.Text.Class
import TemplateServer.Text.Piece

/-!
Positions as editors count them. A line starts at the start of the text and after every line
feed; a column counts UTF-16 code units from there. A position designates a place between two
characters of the text, and an offset is the number of bytes before such a place. Lines and columns
are counted without a bound here, and sent as words of 32 bits: these hold all of them if the text
takes less than 2 ^ 32 bytes.
-/

namespace TemplateServer.Text

structure Position where
  line : Nat
  character : Nat
deriving DecidableEq

structure Range where
  start : Position
  stop : Position
deriving DecidableEq

namespace Position

def zero : Position :=
  ⟨0, 0⟩

def next (position : Position) (c : Char) : Position :=
  if c = '\n' then ⟨position.line + 1, 0⟩
  else ⟨position.line, position.character + charUnits c⟩

def le (left right : Position) : Bool :=
  left.line < right.line ||
    (left.line == right.line && left.character ≤ right.character)

/-- What words of 32 bits hold of a position. -/
def wrapped (position : Position) : Position :=
  ⟨(UInt32.ofNat position.line).toNat, (UInt32.ofNat position.character).toNat⟩

end Position

def Range.wrapped (range : Range) : Range :=
  ⟨range.start.wrapped, range.stop.wrapped⟩

/-! ### From offsets to positions -/

/-- The longest initial part of a text that takes at most `limit` bytes. -/
def fitting : Nat → List Char → List Char
  | _, [] => []
  | limit, c :: rest =>
    if c.utf8Size ≤ limit then c :: fitting (limit - c.utf8Size) rest else []

/-- The position of an offset. An offset past the end counts as the end, and one inside a
character as the start of that character. -/
def positionOf (text : List Char) (offset : Nat) : Position :=
  (fitting offset text).foldl Position.next Position.zero

def rangeOf (text : List Char) (start stop : Nat) : Range :=
  ⟨positionOf text start, positionOf text stop⟩

def Piece.range (text : List Char) (piece : Piece) : Range :=
  rangeOf text piece.start piece.stop

/-! ### From positions to offsets -/

/-- Splits a text where its `count`-th line starts, if it has so many lines. -/
def splitLine? : Nat → List Char → Option (List Char × List Char)
  | 0, text => some ([], text)
  | _ + 1, [] => none
  | count + 1, c :: rest =>
    (splitLine? (if c = '\n' then count else count + 1) rest).map fun parts =>
      (c :: parts.1, parts.2)

/-- Splits a text `column` code units past its start. There is no such place if it would lie
inside a character, past the end of the text, or past the line feed that ends the first line;
the place just after that line feed is one. -/
def splitColumn? : Nat → List Char → Option (List Char × List Char)
  | 0, text => some ([], text)
  | _ + 1, [] => none
  | column + 1, c :: rest =>
    if c = '\n' then
      if column = 0 then some ([c], rest) else none
    else if charUnits c ≤ column + 1 then
      (splitColumn? (column + 1 - charUnits c) rest).map fun parts => (c :: parts.1, parts.2)
    else
      none

/-- The parts of a text before and after a position, if the position designates a place in it. -/
def split? (text : List Char) (position : Position) : Option (List Char × List Char) :=
  match splitLine? position.line text with
  | none => none
  | some (above, rest) =>
    (splitColumn? position.character rest).map fun parts => (above ++ parts.1, parts.2)

def offsetOf? (text : List Char) (position : Position) : Option Nat :=
  (split? text position).map fun parts => bytes parts.1

/-- The offset at which a line ends: before its line feed and before any carriage returns that
precede it. -/
def lineEnd? (text : List Char) (line : Nat) : Option Nat :=
  (splitLine? line text).map fun parts =>
    bytes parts.1 + bytes (dropEndWhile (· == '\r') (parts.2.takeWhile (· != '\n')))

/-! ### Words -/

/-- The word at a position: the longest run of word characters around it, without the dots at
its ends. A run of dots alone is no word. -/
def wordAt? (text : List Char) (position : Position) : Option Piece :=
  match split? text position with
  | none => none
  | some (before, after) =>
    let left := (before.reverse.takeWhile isWordChar).reverse
    let run := left ++ after.takeWhile isWordChar
    let word := dropEndWhile (· == '.') (run.dropWhile (· == '.'))
    if word.isEmpty then
      none
    else
      some
        ⟨bytes (dropEndWhile isWordChar before) + bytes (run.takeWhile (· == '.')), word⟩

end TemplateServer.Text
