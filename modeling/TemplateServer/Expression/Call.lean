import TemplateServer.Expression.Segment

/-!
Calls in an expression. The content of an expression is a sequence of quoted literals, words and
other single characters; a word that starts like a name and is followed by an opening bracket,
with at most white space between them, calls the function of that name.
-/

namespace TemplateServer.Expression

open Text

/-- One step of reading the content of an expression. -/
inductive Lexeme where
  /-- A quotation mark, the characters after it, and whether the same mark ends them. -/
  | literal (mark : Char) (inside : List Char) (terminated : Bool)
  /-- A longest run of word characters. -/
  | word (chars : List Char)
  /-- Any other character. -/
  | other (char : Char)
deriving DecidableEq

def Lexeme.chars : Lexeme → List Char
  | .literal mark inside true => mark :: inside ++ [mark]
  | .literal mark inside false => mark :: inside
  | .word chars => chars
  | .other c => [c]

def lexemes (content : List Char) : List Lexeme :=
  match content with
  | [] => []
  | c :: rest =>
    if isQuote c then
      match _found : rest.dropWhile (· != c) with
      | [] => [.literal c rest false]
      | _ :: following => .literal c (rest.takeWhile (· != c)) true :: lexemes following
    else if isWordChar c then
      .word (c :: rest.takeWhile isWordChar) :: lexemes (rest.dropWhile isWordChar)
    else
      .other c :: lexemes rest
termination_by content.length
decreasing_by
  all_goals simp only [List.length_cons]
  · have shorter := (List.dropWhile_suffix (l := rest) (· != c)).length_le
    simp only [_found, List.length_cons] at shorter
    omega
  · have shorter := (List.dropWhile_suffix (l := rest) isWordChar).length_le
    omega
  · omega

def opensBracket : List Lexeme → Bool
  | .other c :: rest => c == '(' || (isWhiteSpace c && opensBracket rest)
  | _ => false

def startsLikeName : List Char → Bool
  | [] => false
  | c :: _ => isCallStart c

def callsIn (start : Nat) : List Lexeme → List Piece
  | [] => []
  | .word chars :: rest =>
    let others := callsIn (start + bytes chars) rest
    if startsLikeName chars && opensBracket rest then ⟨start, chars⟩ :: others else others
  | lexeme :: rest => callsIn (start + bytes lexeme.chars) rest

def calls (start : Nat) (content : List Char) : List Piece :=
  callsIn start (lexemes content)

end TemplateServer.Expression
