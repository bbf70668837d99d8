/-!
Domain labels in ASCII. A label with characters beyond ASCII is written as its ASCII characters
followed by the places and code points of the others, in digits of base 36 whose thresholds
adapt to what was written before. What is written so can be read again.
-/

namespace TemplateServer.Uri

/-! ### Writing -/

def labelDigit (value : Nat) : Char :=
  if value < 26 then Char.ofNat ('a'.toNat + value) else Char.ofNat ('0'.toNat + value - 26)

def threshold (place bias : Nat) : Nat :=
  if place ≤ bias then 1 else if bias + 26 ≤ place then 26 else place - bias

/-- Writes a number in digits with thresholds; the last one is below its threshold. -/
def labelDigits (bias : Nat) : Nat → Nat → Nat → List Char
  | 0, _, _ => []
  | limit + 1, place, value =>
    let least := threshold place bias
    if value < least then [labelDigit value]
    else
      labelDigit (least + (value - least) % (36 - least)) ::
        labelDigits bias limit (place + 36) ((value - least) / (36 - least))

def scaleDown : Nat → Nat → Nat → Nat × Nat
  | 0, delta, place => (delta, place)
  | limit + 1, delta, place =>
    if 455 < delta then scaleDown limit (delta / 35) (place + 36) else (delta, place)

def adapt (delta count : Nat) (first : Bool) : Nat :=
  let damped := if first then delta / 700 else delta / 2
  let scaled := scaleDown 32 (damped + damped / count) 0
  scaled.2 + 36 * scaled.1 / (scaled.1 + 38)

structure LabelState where
  written : List Char
  delta : Nat
  bias : Nat
  handled : Nat

/-- Passes one character of a label while the code point `code` is being inserted. -/
def LabelState.pass (basic code : Nat) (state : LabelState) (c : Char) : LabelState :=
  if c.toNat < code then
    { state with delta := state.delta + 1 }
  else if c.toNat = code then
    { written := state.written ++ labelDigits state.bias 32 36 state.delta
      delta := 0
      bias := adapt state.delta (state.handled + 1) (state.handled = basic)
      handled := state.handled + 1 }
  else
    state

/-- Inserts code points in increasing order, where `least` is the least one still possible. -/
def insertCodes (label : List Char) (basic : Nat) : List Nat → Nat → LabelState → LabelState
  | [], _, state => state
  | code :: rest, least, state =>
    let moved := { state with delta := state.delta + (code - least) * (state.handled + 1) }
    let passed := label.foldl (LabelState.pass basic code) moved
    insertCodes label basic rest (code + 1) { passed with delta := passed.delta + 1 }

def foreignCodes (label : List Char) : List Nat :=
  let codes := (label.filter fun c => 0x80 ≤ c.toNat).map Char.toNat
  (codes.mergeSort (· ≤ ·)).eraseDups

def isAscii (c : Char) : Bool :=
  c.toNat < 0x80

def labelMark : List Char :=
  ['x', 'n', '-', '-']

def asciiLabel (label : List Char) : List Char :=
  if label.all isAscii then
    label
  else
    let plain := label.filter isAscii
    let start : LabelState := ⟨[], 0, 72, plain.length⟩
    let state := insertCodes label plain.length (foreignCodes label) 0x80 start
    labelMark ++ plain ++ (if plain.isEmpty then [] else ['-']) ++ state.written

/-! ### Reading -/

def labelDigitValue? (c : Char) : Option Nat :=
  if 'a' ≤ c && c ≤ 'z' then some (c.toNat - 'a'.toNat)
  else if c.isDigit then some (c.toNat - '0'.toNat + 26)
  else none

/-- Reads a number in digits with thresholds, where `value` was read before and the next digit
counts `weight`. Returns what follows. -/
def readLabelNumber? (bias : Nat) :
    List Char → Nat → Nat → Nat → Option (Nat × List Char)
  | [], _, _, _ => none
  | c :: rest, place, weight, value =>
    match labelDigitValue? c with
    | none => none
    | some digit =>
      let least := threshold place bias
      let next := value + digit * weight
      if digit < least then some (next, rest)
      else readLabelNumber? bias rest (place + 36) (weight * (36 - least)) next

def insertAt (index : Nat) (c : Char) (label : List Char) : List Char :=
  label.take index ++ c :: label.drop index

def isInsertable (code : Nat) : Bool :=
  code < 0xd800 || (0xe000 ≤ code && code < 0x110000)

/-- Inserts the characters that digits tell of into a label, at most `limit` of them. `index` is
where the next one may stand at the least, and `code` is its least code point. -/
def readForeign? : Nat → List Char → Nat → Nat → Nat → List Char → Option (List Char)
  | _, [], _, _, _, label => some label
  | 0, _ :: _, _, _, _, _ => none
  | limit + 1, c :: rest, code, bias, index, label =>
    match readLabelNumber? bias (c :: rest) 36 1 0 with
    | none => none
    | some (delta, digits) =>
      let count := label.length + 1
      let place := index + delta
      let next := code + place / count
      if isInsertable next then
        readForeign? limit digits next (adapt delta count (index = 0))
          (place % count + 1) (insertAt (place % count) (Char.ofNat next) label)
      else
        none

/-- The label that stands behind the mark of a label in ASCII. Up to the last hyphen, if that is not
the first character, stand the characters of ASCII. -/
def foreignLabel? (text : List Char) : Option (List Char) :=
  let digits := (text.reverse.takeWhile (· != '-')).reverse
  let plain := text.take (text.length - digits.length - 1)
  if digits.length = text.length then readForeign? text.length text 0x80 72 0 []
  else if plain.isEmpty then none
  else readForeign? text.length digits 0x80 72 0 plain

end TemplateServer.Uri
