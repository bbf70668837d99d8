import TemplateServer.Grammar.Header
import TemplateServer.Text.Class

/-!
What each line of a template file is: a header, an import, a comment or a line of a template's
body. The first character that is not a blank decides, except that a line which only looks like
an import is a body line.
-/

namespace TemplateServer.Grammar

open Text

/-- An import of another file: a label in square brackets and a path in round ones. -/
structure Import where
  label : List Char
  path : List Char
  line : Piece
deriving DecidableEq

/-- Reads a line as an import. The path may not be empty, though it may turn out so once the
white space around it is gone. -/
def Import.ofLine? (line : Piece) : Option Import :=
  match line.chars.dropWhile isBlank with
  | '[' :: inside =>
    match inside.dropWhile (· != ']') with
    | ']' :: '(' :: target =>
      match target.dropWhile (· != ')') with
      | ')' :: tail =>
        let path := target.takeWhile (· != ')')
        if path.isEmpty || !tail.all isBlank then
          none
        else
          some ⟨inside.takeWhile (· != ']'), trim path, line⟩
      | _ => none
    | _ => none
  | _ => none

inductive Entry where
  | header (header : Header)
  | imported (declaration : Import)
  | comment (line : Piece)
  | body (line : Piece)
deriving DecidableEq

/-- Reads one line. Only a line that starts with `#` can fail. -/
def Entry.ofLine (line : Piece) : Except Attempts Entry :=
  match (line.chars.dropWhile isBlank).head? with
  | some '#' => (Header.ofLine line).map .header
  | some '>' => .ok (.comment line)
  | _ =>
    match Import.ofLine? line with
    | some declaration => .ok (.imported declaration)
    | none => .ok (.body line)

end TemplateServer.Grammar
