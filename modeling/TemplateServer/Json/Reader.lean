import TemplateServer.Json.Number
import TemplateServer.Text.Table

/-!
Reading JSON. The characters are first gathered into tokens; the tokens then drive a stack of
the arrays and objects that are still open.
-/

namespace TemplateServer.Json

open Text

/-! ### Tokens -/

inductive Token where
  | openArray
  | closeArray
  | openObject
  | closeObject
  | colon
  | comma
  | text (chars : List Char)
  | value (value : Json)

def hexUnit? (a b c d : Char) : Option Nat :=
  match hexValue? a, hexValue? b, hexValue? c, hexValue? d with
  | some a, some b, some c, some d => some (((a * 16 + b) * 16 + c) * 16 + d)
  | _, _, _, _ => none

def escaped? : Char → Option Char
  | '"' => some '"'
  | '\\' => some '\\'
  | '/' => some '/'
  | 'b' => some '\x08'
  | 'f' => some '\x0c'
  | 'n' => some '\n'
  | 'r' => some '\r'
  | 't' => some '\t'
  | _ => none

def surrogatePair? (high low : Nat) : Option Char :=
  if 0xD800 ≤ high ∧ high < 0xDC00 ∧ 0xDC00 ≤ low ∧ low < 0xE000 then
    some (Char.ofNat (0x10000 + (high - 0xD800) * 0x400 + (low - 0xDC00)))
  else
    none

/-- Reads a string from after its opening mark to its closing mark, and returns what follows.
Surrogates must come in pairs, and control characters must be escaped. -/
def readString? : List Char → Option (List Char × List Char)
  | [] => none
  | '"' :: rest => some ([], rest)
  | '\\' :: 'u' :: a :: b :: c :: d :: '\\' :: 'u' :: e :: f :: g :: h :: rest =>
    match hexUnit? a b c d with
    | none => none
    | some first =>
      if first < 0xD800 ∨ 0xE000 ≤ first then
        (readString? ('\\' :: 'u' :: e :: f :: g :: h :: rest)).map fun parts =>
          (Char.ofNat first :: parts.1, parts.2)
      else
        match (hexUnit? e f g h).bind (surrogatePair? first) with
        | none => none
        | some char => (readString? rest).map fun parts => (char :: parts.1, parts.2)
  | '\\' :: 'u' :: a :: b :: c :: d :: rest =>
    match hexUnit? a b c d with
    | none => none
    | some unit =>
      if unit < 0xD800 ∨ 0xE000 ≤ unit then
        (readString? rest).map fun parts => (Char.ofNat unit :: parts.1, parts.2)
      else
        none
  | '\\' :: c :: rest =>
    match escaped? c with
    | none => none
    | some char => (readString? rest).map fun parts => (char :: parts.1, parts.2)
  | c :: rest =>
    if c.toNat < 0x20 || c == '\\' then none
    else (readString? rest).map fun parts => (c :: parts.1, parts.2)

/-- The values of the digits at the front of some characters, and what follows them. -/
def readDigits (chars : List Char) : List Nat × List Char :=
  ((chars.takeWhile Char.isDigit).map fun c => c.toNat - '0'.toNat, chars.dropWhile Char.isDigit)

def ofDigits (digits : List Nat) : Nat :=
  digits.foldl (fun value digit => value * 10 + digit) 0

def readExponent? (chars : List Char) : Option (Option Int × List Char) :=
  match chars with
  | c :: rest =>
    if c == 'e' || c == 'E' then
      let (negative, rest) :=
        match rest with
        | '-' :: rest => (true, rest)
        | '+' :: rest => (false, rest)
        | _ => (false, rest)
      let (digits, rest) := readDigits rest
      if digits.isEmpty then none
      else
        let value : Int := ofDigits digits
        some (some (if negative then -value else value), rest)
    else
      some (none, chars)
  | [] => some (none, [])

def readFraction? (chars : List Char) : Option (List Nat × List Char) :=
  match chars with
  | '.' :: rest =>
    let (digits, rest) := readDigits rest
    if digits.isEmpty then none else some (digits, rest)
  | _ => some ([], chars)

/-- Reads a number. A whole part of more than one digit does not start with zero. -/
def readNumber? (chars : List Char) : Option (Json × List Char) := do
  let (negative, chars) :=
    match chars with
    | '-' :: rest => (true, rest)
    | _ => (false, chars)
  let (whole, chars) := readDigits chars
  if whole.isEmpty || (whole.head? == some 0 && whole.length != 1) then
    none
  else
    let (fraction, chars) ← readFraction? chars
    let (exponent, chars) ← readExponent? chars
    let value ← Literal.value? ⟨negative, whole, fraction, exponent⟩
    pure (value, chars)

def readToken? : List Char → Option (Token × List Char)
  | '[' :: rest => some (.openArray, rest)
  | ']' :: rest => some (.closeArray, rest)
  | '{' :: rest => some (.openObject, rest)
  | '}' :: rest => some (.closeObject, rest)
  | ':' :: rest => some (.colon, rest)
  | ',' :: rest => some (.comma, rest)
  | '"' :: rest => (readString? rest).map fun parts => (.text parts.1, parts.2)
  | 'n' :: 'u' :: 'l' :: 'l' :: rest => some (.value null, rest)
  | 't' :: 'r' :: 'u' :: 'e' :: rest => some (.value (bool true), rest)
  | 'f' :: 'a' :: 'l' :: 's' :: 'e' :: rest => some (.value (bool false), rest)
  | chars => (readNumber? chars).map fun parts => (.value parts.1, parts.2)

def readTokens? : Nat → List Char → Option (List Token)
  | limit, chars =>
    match limit, chars.dropWhile fun c => c == ' ' || c == '\t' || c == '\n' || c == '\r' with
    | _, [] => some []
    | 0, _ => none
    | limit + 1, start =>
      match readToken? start with
      | none => none
      | some (token, rest) => (readTokens? limit rest).map (token :: ·)

/-! ### Values -/

/-- An array or object that is still open, with its parts so far, the last one first. -/
inductive Frame where
  | array (items : List Json)
  | object (members : List (String × Json)) (key : String)

inductive Mode where
  | value
  | firstItem
  | firstKey
  | key (members : List (String × Json))
  | colon (members : List (String × Json)) (key : String)
  | finished (value : Json)

def step? : Mode → List Frame → Token → Option (Mode × List Frame)
  | .value, stack, .openArray => some (.firstItem, stack)
  | .value, stack, .openObject => some (.firstKey, stack)
  | .value, stack, .text chars => some (.finished (string (String.ofList chars)), stack)
  | .value, stack, .value value => some (.finished value, stack)
  | .firstItem, stack, .closeArray => some (.finished (array []), stack)
  | .firstItem, stack, .openArray => some (.firstItem, .array [] :: stack)
  | .firstItem, stack, .openObject => some (.firstKey, .array [] :: stack)
  | .firstItem, stack, .text chars =>
    some (.finished (string (String.ofList chars)), .array [] :: stack)
  | .firstItem, stack, .value value => some (.finished value, .array [] :: stack)
  | .firstKey, stack, .closeObject => some (.finished (object []), stack)
  | .firstKey, stack, .text chars => some (.colon [] (String.ofList chars), stack)
  | .key members, stack, .text chars => some (.colon members (String.ofList chars), stack)
  | .colon members key, stack, .colon => some (.value, .object members key :: stack)
  | .finished value, .array items :: stack, .comma => some (.value, .array (value :: items) :: stack)
  | .finished value, .array items :: stack, .closeArray =>
    some (.finished (array (value :: items).reverse), stack)
  | .finished value, .object members key :: stack, .comma =>
    some (.key (insert key value members), stack)
  | .finished value, .object members key :: stack, .closeObject =>
    some (.finished (object (insert key value members)), stack)
  | _, _, _ => none

def run? : Mode → List Frame → List Token → Option Json
  | .finished value, [], [] => some value
  | _, _, [] => none
  | mode, stack, token :: rest =>
    match step? mode stack token with
    | none => none
    | some (mode, stack) => run? mode stack rest

def fitsDepth : Nat → List Token → Bool
  | _, [] => true
  | room, .openArray :: rest => if room = 0 then false else fitsDepth (room - 1) rest
  | room, .openObject :: rest => if room = 0 then false else fitsDepth (room - 1) rest
  | room, .closeArray :: rest => fitsDepth (room + 1) rest
  | room, .closeObject :: rest => fitsDepth (room + 1) rest
  | room, _ :: rest => fitsDepth room rest

def depthLimit : Nat :=
  127

/-- Reads a JSON value. Values that are nested too deeply are refused. -/
def ofText? (text : String) : Option Json :=
  let chars := text.toList
  match readTokens? chars.length chars with
  | none => none
  | some tokens => if fitsDepth depthLimit tokens then run? .value [] tokens else none

end TemplateServer.Json
