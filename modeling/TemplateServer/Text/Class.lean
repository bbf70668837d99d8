import TemplateServer.Text.Alphabetic
import TemplateServer.Text.Numeric

/-!
Character classes. The grammar's own classes are ASCII; trimming and word boundaries follow the
Unicode properties White_Space, Alphabetic and the number categories.
-/

namespace TemplateServer.Text

def inRanges (table : List (Nat × Nat)) (code : Nat) : Bool :=
  table.any fun range => range.1 ≤ code && code ≤ range.2

/-- The blanks of the grammar: space and tab. -/
def isBlank (c : Char) : Bool :=
  c == ' ' || c == '\t'

/-- The characters that end a line. -/
def isLineBreak (c : Char) : Bool :=
  c == '\n' || c == '\r'

/-- The Unicode property White_Space. -/
def isWhiteSpace (c : Char) : Bool :=
  let code := c.toNat
  if code < 0x80 then
    code == 0x20 || (0x09 ≤ code && code ≤ 0x0d)
  else
    inRanges
      [(0x85, 0x85), (0xa0, 0xa0), (0x1680, 0x1680), (0x2000, 0x200a), (0x2028, 0x2029),
        (0x202f, 0x202f), (0x205f, 0x205f), (0x3000, 0x3000)]
      code

def isAlphabetic (c : Char) : Bool :=
  if c.toNat < 0x80 then c.isAlpha else inRanges alphabeticRanges c.toNat

/-- The Unicode general categories Nd, Nl and No. -/
def isNumeric (c : Char) : Bool :=
  if c.toNat < 0x80 then c.isDigit else inRanges numericRanges c.toNat

/-- The characters a word in an expression may hold: letters, numbers, `_` and `.`. -/
def isWordChar (c : Char) : Bool :=
  isAlphabetic c || isNumeric c || c == '_' || c == '.'

def isCallStart (c : Char) : Bool :=
  isAlphabetic c || c == '_'

def isNameStart (c : Char) : Bool :=
  c.isAlpha || c == '_'

def isParameterChar (c : Char) : Bool :=
  c.isAlphanum || c == '_'

def isNameChar (c : Char) : Bool :=
  isParameterChar c || c == '.'

/-- The marks that open and close a quoted literal in an expression: apostrophe, quotation mark
and grave accent. -/
def isQuote (c : Char) : Bool :=
  c == '\x27' || c == '\x22' || c == '\x60'

/-! ### White space at the ends of a text -/

def dropEndWhile (drops : Char → Bool) (text : List Char) : List Char :=
  (text.reverse.dropWhile drops).reverse

def trimStart (text : List Char) : List Char :=
  text.dropWhile isWhiteSpace

def trimEnd (text : List Char) : List Char :=
  dropEndWhile isWhiteSpace text

def trim (text : List Char) : List Char :=
  trimEnd (trimStart text)

def isEmptyToEye (text : List Char) : Bool :=
  text.all isWhiteSpace

end TemplateServer.Text
