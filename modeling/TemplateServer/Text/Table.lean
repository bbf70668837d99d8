/-!
Tables of characters in a compact spelling. A table is written in lines of rows with blanks between
them. A row begins with what it is about: one code point, the first and the last of a range
(`a-b`), or the first and the last of those at a distance from each other (`a-b/2`). An equals sign
and the values for the first code point, with plus signs between them, may follow. All numbers are
hexadecimal.
-/

namespace TemplateServer.Text

/-! ### Digits and separators -/

def hexValue? (c : Char) : Option Nat :=
  if c.isDigit then some (c.toNat - '0'.toNat)
  else if 'a' ≤ c && c ≤ 'f' then some (c.toNat - 'a'.toNat + 10)
  else if 'A' ≤ c && c ≤ 'F' then some (c.toNat - 'A'.toNat + 10)
  else none

def splitAt (separates : Char → Bool) : List Char → List (List Char)
  | [] => [[]]
  | c :: rest =>
    match splitAt separates rest with
    | [] => [[c]]
    | first :: others =>
      if separates c then [] :: first :: others else (c :: first) :: others

/-! ### Rows -/

structure Row where
  first : Nat
  last : Nat
  step : Nat
  values : List Nat

namespace Row

def covers (code : Nat) (row : Row) : Bool :=
  row.first ≤ code && code ≤ row.last && (code - row.first) % row.step == 0

/-- The values for a code point. If there is a single one, it is as far from the code point as that
of the first code point is from the first code point. -/
def valuesAt (code : Nat) (row : Row) : List Nat :=
  match row.values with
  | [value] => [value + (code - row.first)]
  | values => values

def hexNumber (digits : List Char) : Nat :=
  digits.foldl (fun value c => value * 16 + (hexValue? c).getD 0) 0

def ofPlace (values : List Nat) (place : List Char) : Row :=
  match (splitAt (fun c => c == '-' || c == '/') place).map hexNumber with
  | [] => ⟨0, 0, 1, values⟩
  | [code] => ⟨code, code, 1, values⟩
  | [first, last] => ⟨first, last, 1, values⟩
  | first :: last :: step :: _ => ⟨first, last, step, values⟩

def ofChars (chars : List Char) : Row :=
  match splitAt (· == '=') chars with
  | place :: values :: _ => ofPlace ((splitAt (· == '+') values).map hexNumber) place
  | _ => ofPlace [] chars

end Row

structure Table where
  rows : List Row

namespace Table

def ofLines (lines : List String) : Table :=
  ⟨lines.flatMap fun line => (splitAt (· == ' ') line.toList).map Row.ofChars⟩

def find? (table : Table) (code : Nat) : Option Row :=
  table.rows.find? (Row.covers code)

def contains (table : Table) (code : Nat) : Bool :=
  table.rows.any (Row.covers code)

end Table

end TemplateServer.Text
