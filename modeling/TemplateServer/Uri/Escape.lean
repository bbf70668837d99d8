import TemplateServer.Text.Table

/-!
Percent escapes in addresses. Each part of an address has its own set of characters that are
written as escapes; characters beyond ASCII and controls always are.
-/

namespace TemplateServer.Uri

open Text

def upperHexDigit (value : Nat) : Char :=
  if value < 10 then Char.ofNat ('0'.toNat + value) else Char.ofNat ('A'.toNat + value - 10)

def escapeByte (byte : UInt8) : List Char :=
  ['%', upperHexDigit (byte.toNat / 16), upperHexDigit (byte.toNat % 16)]

/-- Escapes the characters that satisfy `escapes`, all controls and all characters beyond
ASCII. -/
def escape (escapes : Char → Bool) (text : List Char) : List Char :=
  text.flatMap fun c =>
    if c.toNat < 0x20 || 0x7f ≤ c.toNat || escapes c then
      (String.utf8EncodeChar c).flatMap escapeByte
    else
      [c]

def nowhere (_ : Char) : Bool :=
  false

def inFragment (c : Char) : Bool :=
  c == ' ' || c == '"' || c == '<' || c == '>' || c == '\x60'

def inPath (c : Char) : Bool :=
  inFragment c || c == '#' || c == '?' || c == '{' || c == '}'

def inUser (c : Char) : Bool :=
  inPath c || c == '/' || c == ':' || c == ';' || c == '=' || c == '@' || c == '[' || c == '\\'
    || c == ']' || c == '^' || c == '|'

def inQuery (web : Bool) (c : Char) : Bool :=
  c == ' ' || c == '"' || c == '#' || c == '<' || c == '>' || (web && c == '\x27')

def unescape : List Char → List UInt8
  | [] => []
  | '%' :: a :: b :: rest =>
    match hexValue? a, hexValue? b with
    | some high, some low => UInt8.ofNat (high * 16 + low) :: unescape rest
    | _, _ => '%'.toUInt8 :: unescape (a :: b :: rest)
  | c :: rest => String.utf8EncodeChar c ++ unescape rest

end TemplateServer.Uri
