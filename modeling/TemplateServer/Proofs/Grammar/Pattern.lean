import TemplateServer.Grammar.Entry
import TemplateServer.Proofs.Text.Piece

/-!
Parsing expressions. A pattern is read from the front of a text: alternatives are tried in their
order and the first that is read counts, a repetition goes on for as long as it can, and nothing is
ever taken back. The grammar of template files is given as patterns, and what they read as tokens.
-/

namespace TemplateServer.Grammar

open Text

/-- What a rule has read, with what the rules in it have read. -/
inductive Token where
  | node (rule : Rule) (span : Piece) (inner : List Token)

inductive Pattern where
  /-- The start of the text. -/
  | start
  /-- The end of the text. -/
  | finish
  | char (fits : Char → Bool)
  | andThen (first second : Pattern)
  | orElse (first second : Pattern)
  | maybe (inner : Pattern)
  | star (inner : Pattern)
  /-- The inner pattern could be read next; it is not used up. -/
  | ahead (inner : Pattern)
  /-- The inner pattern could not be read next. -/
  | notAhead (inner : Pattern)
  | rule (told : Rule) (inner : Pattern)

/-- What reading returns: the tokens and what is left of the text, if it does not fail. -/
abbrev Reading :=
  Option (List Token × Piece)

/-- Reads again and again, until reading fails or does not get any further. -/
def iterate (read : Piece → Reading) (input : Piece) : List Token × Piece :=
  match read input with
  | none => ([], input)
  | some (tokens, rest) =>
    if rest.chars.length < input.chars.length then
      let following := iterate read rest
      (tokens ++ following.1, following.2)
    else
      (tokens, rest)
termination_by input.chars.length

namespace Pattern

def read : Pattern → Piece → Reading
  | .start, input => if input.start = 0 then some ([], input) else none
  | .finish, input => if input.chars.isEmpty then some ([], input) else none
  | .char fits, input =>
    match input.chars with
    | [] => none
    | c :: _ => if fits c then some ([], input.drop 1) else none
  | .andThen first second, input =>
    match read first input with
    | none => none
    | some (tokens, rest) =>
      match read second rest with
      | none => none
      | some (others, last) => some (tokens ++ others, last)
  | .orElse first second, input =>
    match read first input with
    | none => read second input
    | some result => some result
  | .maybe inner, input =>
    match read inner input with
    | none => some ([], input)
    | some result => some result
  | .star inner, input => some (iterate (read inner) input)
  | .ahead inner, input =>
    match read inner input with
    | none => none
    | some _ => some ([], input)
  | .notAhead inner, input =>
    match read inner input with
    | none => some ([], input)
    | some _ => none
  | .rule told inner, input =>
    match read inner input with
    | none => none
    | some (tokens, rest) => some ([.node told (input.upTo rest) tokens], rest)

/-! ### Reading one part -/

section

variable {first second : Pattern} {input rest : Piece} {tokens : List Token} {fits : Char → Bool}

theorem read_char (fits : Char → Bool) (input : Piece) :
    (char fits).read input =
      match input.chars with
      | [] => none
      | c :: _ => if fits c then some ([], input.drop 1) else none :=
  rfl

theorem read_andThen (first second : Pattern) (input : Piece) :
    (first.andThen second).read input = (first.read input).bind fun head =>
      (second.read head.2).map fun result => (head.1 ++ result.1, result.2) := by
  change (match first.read input with | none => _ | some (tokens, rest) => _) = _
  cases first.read input with
  | none => rfl
  | some head =>
      change (match second.read head.2 with | none => _ | some (others, last) => _) = Option.map _ _
      cases second.read head.2 with
      | none => rfl
      | some result => rfl

theorem read_orElse (first second : Pattern) (input : Piece) :
    (first.orElse second).read input = (first.read input).or (second.read input) := by
  change (match first.read input with | none => _ | some result => _) = _
  cases first.read input with
  | none => rfl
  | some result => rfl

theorem read_char_of_cons {c : Char} {chars : List Char} (head : input.chars = c :: chars) :
    (char fits).read input = if fits c then some ([], input.drop 1) else none := by
  rw [read_char, head]

theorem read_andThen_of_none (failed : first.read input = none) :
    (first.andThen second).read input = none := by
  rw [read_andThen, failed]
  rfl

theorem read_andThen_of_some (done : first.read input = some (tokens, rest)) :
    (first.andThen second).read input =
      (second.read rest).map fun result => (tokens ++ result.1, result.2) := by
  rw [read_andThen, done]
  rfl

/-- Both parts of a sequence are read. -/
theorem read_andThen_of_both {others : List Token} {last : Piece}
    (one : first.read input = some (tokens, rest)) (two : second.read rest = some (others, last)) :
    (first.andThen second).read input = some (tokens ++ others, last) := by
  rw [read_andThen_of_some one, two]
  rfl

theorem read_andThen_of_second_none (one : first.read input = some (tokens, rest))
    (two : second.read rest = none) : (first.andThen second).read input = none := by
  rw [read_andThen_of_some one, two]
  rfl

theorem read_orElse_of_none (failed : first.read input = none) :
    (first.orElse second).read input = second.read input := by
  rw [read_orElse, failed]
  rfl

theorem read_orElse_of_some {result : List Token × Piece} (done : first.read input = some result) :
    (first.orElse second).read input = some result := by
  rw [read_orElse, done]
  rfl

theorem read_maybe (inner : Pattern) (input : Piece) :
    (maybe inner).read input = some ((inner.read input).getD ([], input)) := by
  change (match inner.read input with | none => _ | some result => _) = _
  cases inner.read input with
  | none => rfl
  | some result => rfl

theorem read_maybe_of_none (failed : first.read input = none) :
    (maybe first).read input = some ([], input) := by
  rw [read_maybe, failed]
  rfl

theorem read_maybe_of_some {result : List Token × Piece} (done : first.read input = some result) :
    (maybe first).read input = some result := by
  rw [read_maybe, done]
  rfl

theorem read_ahead (inner : Pattern) (input : Piece) :
    (ahead inner).read input = if (inner.read input).isSome then some ([], input) else none := by
  change (match inner.read input with | none => _ | some result => _) = _
  cases inner.read input with
  | none => rfl
  | some result => rfl

theorem read_notAhead (inner : Pattern) (input : Piece) :
    (notAhead inner).read input = if (inner.read input).isSome then none else some ([], input) := by
  change (match inner.read input with | none => _ | some result => _) = _
  cases inner.read input with
  | none => rfl
  | some result => rfl

theorem read_ahead_of_none (failed : first.read input = none) :
    (ahead first).read input = none := by
  rw [read_ahead, failed]
  rfl

theorem read_ahead_of_some {result : List Token × Piece} (done : first.read input = some result) :
    (ahead first).read input = some ([], input) := by
  rw [read_ahead, done]
  rfl

theorem read_notAhead_of_none (failed : first.read input = none) :
    (notAhead first).read input = some ([], input) := by
  rw [read_notAhead, failed]
  rfl

theorem read_notAhead_of_some {result : List Token × Piece}
    (done : first.read input = some result) : (notAhead first).read input = none := by
  rw [read_notAhead, done]
  rfl

theorem read_start (input : Piece) :
    start.read input = if input.start = 0 then some ([], input) else none :=
  rfl

theorem read_finish (input : Piece) :
    finish.read input = if input.chars.isEmpty then some ([], input) else none :=
  rfl

theorem read_finish_of_nil (empty : input.chars = []) : finish.read input = some ([], input) := by
  rw [read_finish, empty]
  rfl

theorem read_finish_of_cons {c : Char} {chars : List Char} (head : input.chars = c :: chars) :
    finish.read input = none := by
  rw [read_finish, head]
  rfl

theorem read_rule {told : Rule} :
    (rule told first).read input = (first.read input).map fun result =>
      ([.node told (input.upTo result.2) result.1], result.2) := by
  change (match first.read input with | none => _ | some (tokens, rest) => _) = _
  cases first.read input with
  | none => rfl
  | some result => rfl

theorem read_rule_of_none {told : Rule} (failed : first.read input = none) :
    (rule told first).read input = none := by
  rw [read_rule, failed]
  rfl

theorem read_rule_of_some {told : Rule} (done : first.read input = some (tokens, rest)) :
    (rule told first).read input = some ([.node told (input.upTo rest) tokens], rest) := by
  rw [read_rule, done]
  rfl

end

/-! ### The grammar of template files -/

def literal (c : Char) : Pattern :=
  .char (· == c)

def anything : Pattern :=
  .char fun _ => true

def plus (inner : Pattern) : Pattern :=
  inner.andThen (.star inner)

def blank : Pattern :=
  (literal ' ').orElse (literal '\t')

def newline : Pattern :=
  (literal '\n').orElse ((literal '\r').andThen (literal '\n')) |>.orElse (literal '\r')

def lineEnd : Pattern :=
  newline.orElse (.rule .finish .finish)

def restOfLine : Pattern :=
  .rule .rest (.star ((notAhead newline).andThen anything))

def nameStart : Pattern :=
  (char Char.isAlpha).orElse (literal '_')

def templateName : Pattern :=
  .rule .name
    (nameStart.andThen
      (.star (((char Char.isAlphanum).orElse (literal '_')).orElse (literal '.'))))

def parameter : Pattern :=
  .rule .parameter (nameStart.andThen (.star ((char Char.isAlphanum).orElse (literal '_'))))

def separator : Pattern :=
  (star blank).andThen (literal ',') |>.andThen (star blank)

def parameters : Pattern :=
  .rule .parameters
    ((literal '(').andThen (star blank)
      |>.andThen (maybe (parameter.andThen (star (separator.andThen parameter))))
      |>.andThen (star blank)
      |>.andThen (literal ')'))

def header : Pattern :=
  .rule .header
    ((star blank).andThen (literal '#')
      |>.andThen (star blank)
      |>.andThen templateName
      |>.andThen (star blank)
      |>.andThen (maybe parameters)
      |>.andThen (star blank)
      |>.andThen (ahead lineEnd))

def label : Pattern :=
  .rule .label (star ((notAhead ((literal ']').orElse newline)).andThen anything))

def path : Pattern :=
  .rule .path (plus ((notAhead ((literal ')').orElse newline)).andThen anything))

def imported : Pattern :=
  .rule .imported
    ((star blank).andThen (literal '[')
      |>.andThen label
      |>.andThen (literal ']')
      |>.andThen (literal '(')
      |>.andThen path
      |>.andThen (literal ')')
      |>.andThen (star blank)
      |>.andThen (ahead lineEnd))

def comment : Pattern :=
  .rule .comment ((star blank).andThen (literal '>') |>.andThen restOfLine)

def body : Pattern :=
  .rule .body ((notAhead ((star blank).andThen (literal '#'))).andThen restOfLine)

def line : Pattern :=
  header.orElse imported |>.orElse comment |>.orElse body

def file : Pattern :=
  .rule .file
    (start.andThen line
      |>.andThen (star (newline.andThen line))
      |>.andThen (.rule .finish .finish))

end Pattern

/-! ### What tokens say -/

namespace Token

def rule : Token → Rule
  | .node rule _ _ => rule

def span : Token → Piece
  | .node _ span _ => span

def inner : Token → List Token
  | .node _ _ inner => inner

end Token

def Header.ofTokens (span : Piece) (tokens : List Token) : Header :=
  tokens.foldl
    (fun header token =>
      match token.rule with
      | .name => { header with name := token.span }
      | .parameters =>
        { header with
          parameters := (token.inner.filter fun inner => inner.rule = .parameter).map Token.span }
      | _ => header)
    ⟨⟨span.start, []⟩, []⟩

def Import.ofTokens (span : Piece) (tokens : List Token) : Import :=
  tokens.foldl
    (fun declaration token =>
      match token.rule with
      | .label => { declaration with label := token.span.chars }
      | .path => { declaration with path := trim token.span.chars }
      | _ => declaration)
    ⟨[], [], span⟩

def Entry.ofToken? (token : Token) : Option Entry :=
  match token.rule with
  | .header => some (.header (Header.ofTokens token.span token.inner))
  | .imported => some (.imported (Import.ofTokens token.span token.inner))
  | .comment => some (.comment token.span)
  | .body => some (.body token.span)
  | _ => none

def Pattern.parse? (text : List Char) : Option (List Entry) :=
  match file.read ⟨0, text⟩ with
  | none => none
  | some (tokens, _) => some ((tokens.flatMap Token.inner).filterMap Entry.ofToken?)

end TemplateServer.Grammar
