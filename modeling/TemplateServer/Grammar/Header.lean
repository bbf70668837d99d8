import TemplateServer.Grammar.Attempt
import TemplateServer.Text.Class
import TemplateServer.Text.Piece

/-!
Template headers: `#`, a name and an optional list of parameters in brackets, with blanks
between them. A header that is not well formed is told by the rules tried in vain at the furthest
place where one was tried. Commas and brackets are no rules of their own, so that a list which lacks
one of them is told where it opens, however far it has been read.
-/

namespace TemplateServer.Grammar

open Text

structure Header where
  name : Piece
  parameters : List Piece
deriving DecidableEq

/-- Reads a name from the front of a piece and returns it with what follows. -/
def readName? (continues : Char → Bool) (input : Piece) : Option (Piece × Piece) :=
  match input.chars with
  | [] => none
  | c :: _ =>
    if isNameStart c then some (input.takeWhile continues, input.dropWhile continues) else none

/-- A name start also continues every name. -/
theorem isParameterChar_of_isNameStart {c : Char} (starts : isNameStart c = true) :
    isParameterChar c = true := by
  simp only [isNameStart, isParameterChar, Char.isAlphanum, Bool.or_eq_true] at starts ⊢
  rcases starts with letter | underscore
  · exact Or.inl (Or.inl letter)
  · exact Or.inr underscore

theorem length_dropWhile_le (drops : Char → Bool) (chars : List Char) :
    (chars.dropWhile drops).length ≤ chars.length :=
  (List.dropWhile_suffix drops).length_le

/-- Reading a parameter name uses up at least one character. -/
theorem readName?_length {input name rest : Piece}
    (read : readName? isParameterChar input = some (name, rest)) :
    rest.chars.length < input.chars.length := by
  unfold readName? at read
  split at read
  · cases read
  · rename_i c chars same
    split at read
    · rename_i starts
      simp only [Option.some.injEq, Prod.mk.injEq] at read
      obtain ⟨_, rfl⟩ := read
      have continues := isParameterChar_of_isNameStart starts
      simp only [Piece.dropWhile, same, List.dropWhile_cons, continues, if_true,
        List.length_cons]
      exact Nat.lt_succ_of_le (length_dropWhile_le _ _)
    · cases read

/-- Reads parameters up to the closing bracket and returns them with what follows it. The bracket
that opened the list is at `opening`. -/
def readParameters (opening : Nat) (input : Piece) : Except Attempts (List Piece × Piece) :=
  match _read : readName? isParameterChar input with
  | none => .error ⟨input.start, [.parameter], []⟩
  | some (parameter, rest) =>
    let mark := rest.dropWhile isBlank
    match mark.chars with
    | ',' :: _ => do
      let (parameters, following) ← readParameters opening ((mark.drop 1).dropWhile isBlank)
      pure (parameter :: parameters, following)
    | ')' :: _ => .ok ([parameter], mark.drop 1)
    | _ => .error ⟨opening, [.parameters, .finish], []⟩
termination_by input.chars.length
decreasing_by
  have shorter := readName?_length _read
  have first := length_dropWhile_le isBlank rest.chars
  have second := length_dropWhile_le isBlank ((rest.chars.dropWhile isBlank).drop 1)
  simp only [Piece.dropWhile, Piece.drop, List.length_drop] at *
  omega

/-- Reads what stands in brackets after a template name, from the character after the opening
bracket on. -/
def readParameterList (opening : Nat) (input : Piece) : Except Attempts (List Piece × Piece) :=
  match input.chars with
  | ')' :: _ => .ok ([], input.drop 1)
  | _ => readParameters opening input

def Header.ofLine (line : Piece) : Except Attempts Header :=
  let input := ((line.dropWhile isBlank).drop 1).dropWhile isBlank
  match readName? isNameChar input with
  | none => .error ⟨input.start, [.name], []⟩
  | some (name, rest) =>
    let mark := rest.dropWhile isBlank
    match mark.chars with
    | [] => .ok ⟨name, []⟩
    | '(' :: _ => do
      let (parameters, following) ←
        readParameterList mark.start ((mark.drop 1).dropWhile isBlank)
      let tail := following.dropWhile isBlank
      if tail.chars.isEmpty then
        pure ⟨name, parameters⟩
      else
        .error ⟨tail.start, [.finish], []⟩
    | _ => .error ⟨mark.start, [.parameters, .finish], []⟩

end TemplateServer.Grammar
