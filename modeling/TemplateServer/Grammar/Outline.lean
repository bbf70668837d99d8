import TemplateServer.Grammar.Entry

/-!
The outline of a template file: its templates with their body lines, its imports, and the body
lines that come before any template. A file is read line by line, where a line feed, a carriage
return and a carriage return with its line feed each end a line.
-/

namespace TemplateServer.Grammar

open Text

/-- Splits a text that starts at `start` into the characters of its first line and the lines
after it. -/
def splitLines (start : Nat) : List Char → List Char × List Piece
  | [] => ([], [])
  | '\r' :: '\n' :: rest =>
    let following := splitLines (start + 2) rest
    ([], ⟨start + 2, following.1⟩ :: following.2)
  | c :: rest =>
    let following := splitLines (start + c.utf8Size) rest
    if isLineBreak c then
      ([], ⟨start + c.utf8Size, following.1⟩ :: following.2)
    else
      (c :: following.1, following.2)

/-- The lines of a text, without the characters that end them. There is always at least one. -/
def logicalLines (text : List Char) : List Piece :=
  let lines := splitLines 0 text
  ⟨0, lines.1⟩ :: lines.2

structure Section where
  header : Header
  lines : List Piece
deriving DecidableEq

namespace Section

def name (part : Section) : String :=
  part.header.name.text

def isHollow (part : Section) : Bool :=
  part.lines.all fun line => isEmptyToEye line.chars

/-- The body lines without the ones at the end that show nothing. -/
def bodyLines (part : Section) : List Piece :=
  (part.lines.reverse.dropWhile fun line => isEmptyToEye line.chars).reverse

def body (part : Section) : String :=
  "\n".intercalate (part.bodyLines.map Piece.text)

end Section

structure Outline where
  /-- Body lines before the first header. -/
  lead : List Piece
  sections : List Section
  imports : List Import
deriving DecidableEq

namespace Outline

def empty : Outline :=
  ⟨[], [], []⟩

/-- Puts one line in front of an outline. A header takes over the lead as its body. -/
def cons : Entry → Outline → Outline
  | .header header, outline =>
    { outline with lead := [], sections := ⟨header, outline.lead⟩ :: outline.sections }
  | .imported declaration, outline =>
    { outline with imports := declaration :: outline.imports }
  | .comment _, outline => outline
  | .body line, outline => { outline with lead := line :: outline.lead }

def ofEntries (entries : List Entry) : Outline :=
  entries.foldr cons empty

/-- The lines before the first header that show something. -/
def strays (outline : Outline) : List Piece :=
  outline.lead.filter fun line => !isEmptyToEye line.chars

/-- Reads the outline of a text. The first malformed header fails the whole text. -/
def ofText (text : List Char) : Except Attempts Outline :=
  ((logicalLines text).mapM Entry.ofLine).map ofEntries

end Outline

end TemplateServer.Grammar
