import TemplateServer.Text.Class
import TemplateServer.Text.Piece

/-!
Segments of a body line. Read from left to right, a line is a sequence of escaped characters,
expressions in `${…}` and other single characters. An expression ends at the first closing
brace that is neither inside a nested pair of braces nor inside a quoted literal.
-/

namespace TemplateServer.Expression

open Text

/-- How deep in an expression a scan is: how many braces are open inside it, and which quotation
mark, if any. -/
structure Nesting where
  depth : Nat
  quote : Option Char
deriving DecidableEq

def Nesting.outermost : Nesting :=
  ⟨0, none⟩

/-- Reads one character of an expression; `none` means that it closes the expression. -/
def Nesting.next? (nesting : Nesting) (c : Char) : Option Nesting :=
  match nesting.quote with
  | some mark => some (if c = mark then { nesting with quote := none } else nesting)
  | none =>
    if isQuote c then some { nesting with quote := some c }
    else if c = '{' then some { nesting with depth := nesting.depth + 1 }
    else if c = '}' then
      match nesting.depth with
      | 0 => none
      | depth + 1 => some { nesting with depth := depth }
    else some nesting

/-- Splits what follows an opening brace into the content of the expression and what follows its
closing brace. -/
def splitContent? : Nesting → List Char → Option (List Char × List Char)
  | _, [] => none
  | nesting, c :: rest =>
    match nesting.next? c with
    | none => some ([], rest)
    | some inner => (splitContent? inner rest).map fun parts => (c :: parts.1, parts.2)

/-- One step of reading a body line. -/
inductive Segment where
  /-- A backslash and the character after it, if there is one. -/
  | escape (char : Option Char)
  /-- An expression with this content. -/
  | closed (content : List Char)
  /-- An expression that the line ends before closing, with all that follows its brace. -/
  | unclosed (rest : List Char)
  /-- Any other character. -/
  | plain (char : Char)
deriving DecidableEq

def Segment.chars : Segment → List Char
  | .escape none => ['\\']
  | .escape (some c) => ['\\', c]
  | .closed content => '$' :: '{' :: content ++ ['}']
  | .unclosed rest => '$' :: '{' :: rest
  | .plain c => [c]

/-- The content and the rest together are one character shorter than what they were split
from. -/
theorem splitContent?_length {nesting : Nesting} {chars content rest : List Char}
    (split : splitContent? nesting chars = some (content, rest)) :
    content.length + rest.length + 1 = chars.length := by
  induction chars generalizing nesting content with
  | nil => cases split
  | cons c tail ih =>
    unfold splitContent? at split
    split at split
    · simp only [Option.some.injEq, Prod.mk.injEq] at split
      obtain ⟨rfl, rfl⟩ := split
      simp
    · simp only [Option.map_eq_some_iff, Prod.mk.injEq] at split
      obtain ⟨parts, inner, rfl, rfl⟩ := split
      have shorter := ih inner
      simp only [List.length_cons]
      omega

def segments (line : List Char) : List Segment :=
  match line with
  | [] => []
  | ['\\'] => [.escape none]
  | '\\' :: c :: rest => .escape (some c) :: segments rest
  | '$' :: '{' :: rest =>
    match _split : splitContent? Nesting.outermost rest with
    | some (content, following) => .closed content :: segments following
    | none => [.unclosed rest]
  | c :: rest => .plain c :: segments rest
termination_by line.length
decreasing_by
  all_goals simp only [List.length_cons]
  · omega
  · have shorter := splitContent?_length _split
    omega
  · omega

def locate (start : Nat) : List Segment → List (Nat × Segment)
  | [] => []
  | segment :: rest => (start, segment) :: locate (start + bytes segment.chars) rest

end TemplateServer.Expression
