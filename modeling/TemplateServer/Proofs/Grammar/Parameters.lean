import TemplateServer.Proofs.Grammar.Lines
import TemplateServer.Proofs.Grammar.Reading

/-!
Names and lists of parameters on a line. What follows the line makes no difference to them, and the
grammar reads them as the reader of headers does.
-/

namespace TemplateServer.Grammar

open Text

variable {tail : List Char} {takes : Char → Bool}

/-! ### Names and parameters on a line -/

theorem readName?_extend {continues : Char → Bool} (ends : Ends tail)
    (feed : continues '\n' = false) (turn : continues '\r' = false) (input : Piece) :
    readName? continues (input.extend tail) =
      (readName? continues input).map fun result => (result.1, result.2.extend tail) := by
  have stops := ends.stops feed turn
  unfold readName?
  rw [Piece.takeWhile_extend stops, Piece.dropWhile_extend stops, Piece.chars_extend]
  cases input.chars with
  | nil =>
      have start : Stops isNameStart tail := ends.stops rfl rfl
      cases tail with
      | nil => rfl
      | cons c rest =>
          simp [start c rfl]
  | cons c rest =>
      by_cases starts : isNameStart c = true
      · simp [starts]
      · simp [starts]

/-- A name starts its piece and is taken from the front of it. -/
theorem readName?_parts {continues : Char → Bool} {input name rest : Piece}
    (named : readName? continues input = some (name, rest)) :
    (∃ c chars, input.chars = c :: chars ∧ isNameStart c = true) ∧
      name = input.takeWhile continues ∧ rest = input.dropWhile continues := by
  unfold readName? at named
  split at named
  · cases named
  · rename_i c chars head
    split at named
    · rename_i starts
      cases named
      exact ⟨⟨c, chars, head, starts⟩, rfl, rfl⟩
    · cases named

theorem head?_ne_of_readName? {continues : Char → Bool} {input : Piece} {result : Piece × Piece}
    {c : Char} (named : readName? continues input = some result) (unfit : isNameStart c = false) :
    input.chars.head? ≠ some c := by
  obtain ⟨⟨first, chars, head, starts⟩, _⟩ := readName?_parts named
  rw [head, List.head?_cons]
  rintro same
  rw [Option.some.inj same, unfit] at starts
  cases starts

theorem Ends.head?_ne {text : List Char} {c : Char} (ends : Ends tail)
    (inside : isLineBreak c = false) (different : text.head? ≠ some c) : (text ++ tail).head? ≠ some c := by
  cases text with
  | nil =>
      intro same
      rw [ends c same] at inside
      cases inside
  | cons first text => exact different

/-- What a parameter of a list is followed by. -/
theorem readParameters_eq (opening : Nat) (input : Piece) :
    readParameters opening input =
      match readName? isParameterChar input with
      | none => .error ⟨input.start, [.parameter], []⟩
      | some (parameter, rest) =>
        match (rest.dropWhile isBlank).chars with
        | ',' :: _ =>
          (readParameters opening (((rest.dropWhile isBlank).drop 1).dropWhile isBlank)).map
            fun result => (parameter :: result.1, result.2)
        | ')' :: _ => .ok ([parameter], (rest.dropWhile isBlank).drop 1)
        | _ => .error ⟨opening, [.parameters, .finish], []⟩ := by
  conv =>
    lhs
    unfold readParameters
  split
  · rename_i failed
    rw [failed]
  · rename_i parameter rest done
    rw [done]
    simp only
    cases head : (rest.dropWhile isBlank).chars with
    | nil => rfl
    | cons c chars =>
        by_cases comma : c = ','
        · subst comma
          cases readParameters opening (((rest.dropWhile isBlank).drop 1).dropWhile isBlank) with
          | error malformed => rfl
          | ok result => rfl
        · by_cases closing : c = ')'
          · subst closing
            rfl
          · simp [comma, closing]

theorem length_afterMark_lt {mark : Char} {input : Piece} {chars : List Char}
    (head : (input.dropWhile isBlank).chars = mark :: chars) :
    (((input.dropWhile isBlank).drop 1).dropWhile isBlank).chars.length < input.chars.length := by
  have first := length_dropWhile_le isBlank input.chars
  have second := length_dropWhile_le isBlank chars
  rw [Piece.chars_dropWhile, Piece.chars_drop_one head]
  rw [← Piece.chars_dropWhile, head, List.length_cons] at first
  omega

section

variable {opening : Nat} {input parameter rest : Piece} {chars : List Char}

theorem readParameters_of_nameless (nameless : readName? isParameterChar input = none) :
    readParameters opening input = .error ⟨input.start, [.parameter], []⟩ := by
  rw [readParameters_eq, nameless]

theorem readParameters_of_comma (named : readName? isParameterChar input = some (parameter, rest))
    (head : (rest.dropWhile isBlank).chars = ',' :: chars) :
    readParameters opening input =
      (readParameters opening (((rest.dropWhile isBlank).drop 1).dropWhile isBlank)).map
        fun result => (parameter :: result.1, result.2) := by
  rw [readParameters_eq, named]
  simp only [head]

theorem readParameters_of_closing (named : readName? isParameterChar input = some (parameter, rest))
    (head : (rest.dropWhile isBlank).chars = ')' :: chars) :
    readParameters opening input = .ok ([parameter], (rest.dropWhile isBlank).drop 1) := by
  rw [readParameters_eq, named]
  simp only [head]

theorem readParameters_of_other (named : readName? isParameterChar input = some (parameter, rest))
    (comma : (rest.dropWhile isBlank).chars.head? ≠ some ',')
    (closing : (rest.dropWhile isBlank).chars.head? ≠ some ')') :
    readParameters opening input = .error ⟨opening, [.parameters, .finish], []⟩ := by
  rw [readParameters_eq, named]
  simp only
  split
  · rename_i head
    rw [head] at comma
    exact absurd rfl comma
  · rename_i head
    rw [head] at closing
    exact absurd rfl closing
  · rfl

end

/-- A list of parameters is followed from one parameter to the next: after a name there comes a
comma and the rest of the list, or the closing bracket, or something that does not belong there. -/
theorem readParameters_induction {motive : Piece → Prop}
    (nameless : ∀ input, readName? isParameterChar input = none → motive input)
    (comma : ∀ input parameter rest chars,
      readName? isParameterChar input = some (parameter, rest) →
      (rest.dropWhile isBlank).chars = ',' :: chars →
      motive (((rest.dropWhile isBlank).drop 1).dropWhile isBlank) → motive input)
    (closing : ∀ input parameter rest chars,
      readName? isParameterChar input = some (parameter, rest) →
      (rest.dropWhile isBlank).chars = ')' :: chars → motive input)
    (other : ∀ input parameter rest,
      readName? isParameterChar input = some (parameter, rest) →
      (rest.dropWhile isBlank).chars.head? ≠ some ',' →
      (rest.dropWhile isBlank).chars.head? ≠ some ')' → motive input)
    (input : Piece) : motive input :=
  readParameters.induct motive nameless
    (fun input parameter rest named chars head ih => comma input parameter rest chars named head ih)
    (fun input parameter rest named chars head => closing input parameter rest chars named head)
    (fun input parameter rest named unlisted unclosed => other input parameter rest named
      (head?_ne_of_forall unlisted) (head?_ne_of_forall unclosed)) input

/-- What follows the line makes no difference to a list of parameters on it. -/
theorem readParameters_extend (ends : Ends tail) (opening : Nat) (input : Piece) :
    readParameters opening (input.extend tail) =
      (readParameters opening input).map fun result => (result.1, result.2.extend tail) := by
  have blanks (rest : Piece) : (rest.extend tail).dropWhile isBlank =
      (rest.dropWhile isBlank).extend tail := Piece.dropWhile_extend (ends.stops rfl rfl)
  have names (input : Piece) : readName? isParameterChar (input.extend tail) =
      (readName? isParameterChar input).map fun result => (result.1, result.2.extend tail) :=
    readName?_extend ends rfl rfl input
  induction input using readParameters_induction with
  | nameless input unnamed =>
      have longer := names input
      rw [unnamed] at longer
      rw [readParameters_of_nameless unnamed, readParameters_of_nameless longer]
      rfl
  | comma input parameter rest chars named head ih =>
      have longer := names input
      rw [named] at longer
      have first : ((rest.extend tail).dropWhile isBlank).chars = ',' :: (chars ++ tail) := by
        rw [blanks]
        exact Piece.chars_extend_cons head
      rw [readParameters_of_comma named head, readParameters_of_comma longer first, blanks,
        Piece.drop_one_extend head, blanks, ih]
      cases readParameters opening (((rest.dropWhile isBlank).drop 1).dropWhile isBlank) with
      | error malformed => rfl
      | ok result => rfl
  | closing input parameter rest chars named head =>
      have longer := names input
      rw [named] at longer
      have first : ((rest.extend tail).dropWhile isBlank).chars = ')' :: (chars ++ tail) := by
        rw [blanks]
        exact Piece.chars_extend_cons head
      rw [readParameters_of_closing named head, readParameters_of_closing longer first, blanks,
        Piece.drop_one_extend head]
      rfl
  | other input parameter rest named unlisted unclosed =>
      have longer := names input
      rw [named] at longer
      rw [readParameters_of_other named unlisted unclosed, readParameters_of_other longer
        (by rw [blanks]; exact ends.head?_ne rfl unlisted)
        (by rw [blanks]; exact ends.head?_ne rfl unclosed)]
      rfl

theorem readParameterList_of_closing {opening : Nat} {input : Piece} {chars : List Char}
    (head : input.chars = ')' :: chars) :
    readParameterList opening input = .ok ([], input.drop 1) := by
  unfold readParameterList
  rw [head]
  rfl

theorem readParameterList_of_other {opening : Nat} {input : Piece}
    (different : input.chars.head? ≠ some ')') :
    readParameterList opening input = readParameters opening input := by
  unfold readParameterList
  split
  · rename_i head
    rw [head] at different
    exact absurd rfl different
  · rfl

theorem readParameterList_extend (ends : Ends tail) (opening : Nat) (input : Piece) :
    readParameterList opening (input.extend tail) =
      (readParameterList opening input).map fun result => (result.1, result.2.extend tail) := by
  by_cases closed : input.chars.head? = some ')'
  · obtain ⟨chars, head⟩ := List.head?_eq_some_iff.mp closed
    rw [readParameterList_of_closing head,
      readParameterList_of_closing (Piece.chars_extend_cons head), Piece.drop_one_extend head]
    rfl
  · rw [readParameterList_of_other closed, readParameterList_of_other (ends.head?_ne rfl closed),
      readParameters_extend ends]

/-- What is left of a line ends where the line does. -/
structure Follows (input rest : Piece) : Prop where
  stop : rest.stop = input.stop
  plain : Plain input.chars → Plain rest.chars

theorem Follows.refl (line : Piece) : Follows line line :=
  ⟨rfl, id⟩

theorem Follows.trans {first second third : Piece} (left : Follows first second)
    (right : Follows second third) : Follows first third :=
  ⟨right.stop.trans left.stop, fun plain => right.plain (left.plain plain)⟩

theorem follows_dropWhile (input : Piece) (drops : Char → Bool) :
    Follows input (input.dropWhile drops) :=
  ⟨Piece.stop_dropWhile input drops, fun plain => plain.dropWhile drops⟩

theorem follows_drop (input : Piece) (count : Nat) : Follows input (input.drop count) :=
  ⟨Piece.stop_drop input count, fun plain => plain.drop count⟩

/-- Whether what holds of a piece still holds once characters at its front have been passed over. -/
structure Persists (holds : Piece → Prop) : Prop where
  dropWhile : ∀ {piece : Piece}, holds piece → ∀ drops, holds (piece.dropWhile drops)
  drop : ∀ {piece : Piece}, holds piece → ∀ count, holds (piece.drop count)

theorem persists_follows (line : Piece) : Persists (Follows line) where
  dropWhile follows drops := follows.trans (follows_dropWhile _ drops)
  drop follows count := follows.trans (follows_drop _ count)

theorem persists_within (outer : Piece) : Persists (·.Within outer) where
  dropWhile within drops := (Piece.within_dropWhile _ drops).trans within
  drop within count := (Piece.within_drop _ count).trans within

section

variable {holds : Piece → Prop} {opening : Nat} {input following : Piece}
  {parameters : List Piece}

theorem Persists.afterMark (persists : Persists holds) (before : holds input) :
    holds (((input.dropWhile isBlank).drop 1).dropWhile isBlank) :=
  persists.dropWhile (persists.drop (persists.dropWhile before isBlank) 1) isBlank

theorem Persists.readName? {continues : Char → Bool} {name rest : Piece} (persists : Persists holds)
    (before : holds input) (named : Grammar.readName? continues input = some (name, rest)) :
    holds rest := by
  obtain ⟨_, _, rfl⟩ := readName?_parts named
  exact persists.dropWhile before continues

theorem Persists.readParameters (persists : Persists holds) (before : holds input)
    (done : Grammar.readParameters opening input = .ok (parameters, following)) :
    holds following := by
  induction input using readParameters_induction generalizing parameters with
  | nameless input unnamed =>
      rw [readParameters_of_nameless unnamed] at done
      cases done
  | comma input parameter rest chars named head ih =>
      rw [readParameters_of_comma named head] at done
      cases more : Grammar.readParameters opening
          (((rest.dropWhile isBlank).drop 1).dropWhile isBlank) with
      | error malformed =>
          rw [more] at done
          cases done
      | ok result =>
          rw [more] at done
          cases done
          exact ih (persists.afterMark (persists.readName? before named)) more
  | closing input parameter rest chars named head =>
      rw [readParameters_of_closing named head] at done
      cases done
      exact persists.drop (persists.dropWhile (persists.readName? before named) isBlank) 1
  | other input parameter rest named unlisted unclosed =>
      rw [readParameters_of_other named unlisted unclosed] at done
      cases done

theorem Persists.readParameterList (persists : Persists holds) (before : holds input)
    (done : Grammar.readParameterList opening input = .ok (parameters, following)) :
    holds following := by
  unfold Grammar.readParameterList at done
  split at done
  · cases done
    exact persists.drop before 1
  · exact persists.readParameters before done

end

def Header.input (line : Piece) : Piece :=
  ((line.dropWhile isBlank).drop 1).dropWhile isBlank

theorem Header.ofLine_of_nameless {line : Piece}
    (nameless : readName? isNameChar (Header.input line) = none) :
    (Header.ofLine line).toOption = none := by
  unfold Header.input at nameless
  unfold Header.ofLine
  simp only [nameless]
  rfl

/-- A header with a name is well formed if nothing follows the name, or a list of parameters and
nothing after it. -/
theorem Header.ofLine_of_named {line name rest : Piece}
    (named : readName? isNameChar (Header.input line) = some (name, rest)) :
    (Header.ofLine line).toOption =
      match (rest.dropWhile isBlank).chars with
      | [] => some ⟨name, []⟩
      | '(' :: _ =>
        match readParameterList (rest.dropWhile isBlank).start
            (((rest.dropWhile isBlank).drop 1).dropWhile isBlank) with
        | .error _ => none
        | .ok (parameters, following) =>
          if (following.dropWhile isBlank).chars.isEmpty then some ⟨name, parameters⟩ else none
      | _ => none := by
  unfold Header.input at named
  unfold Header.ofLine
  simp only [named]
  cases (rest.dropWhile isBlank).chars with
  | nil => rfl
  | cons c chars =>
      by_cases bracket : c = '('
      · subst bracket
        simp only
        cases readParameterList (rest.dropWhile isBlank).start
            (((rest.dropWhile isBlank).drop 1).dropWhile isBlank) with
        | error malformed => rfl
        | ok result =>
            change Except.toOption (if _ then _ else _) = if _ then _ else _
            split
            · rfl
            · rfl
      · simp [bracket]
        rfl

namespace Pattern

def closing : Pattern :=
  (star blank).andThen (literal ')')

theorem read_mark {mark : Char} {input : Piece} {chars : List Char}
    (head : (input.dropWhile isBlank).chars = mark :: chars) :
    ((star blank).andThen (literal mark)).read input =
      some ([], (input.dropWhile isBlank).drop 1) :=
  read_andThen_of_both (read_star_blank input) (read_literal_of_cons head)

theorem read_mark_of_ne {mark : Char} {input : Piece}
    (different : (input.dropWhile isBlank).chars.head? ≠ some mark) :
    ((star blank).andThen (literal mark)).read input = none :=
  read_andThen_of_second_none (read_star_blank input) (read_literal_of_ne different)

theorem read_separator {input : Piece} {chars : List Char}
    (head : (input.dropWhile isBlank).chars = ',' :: chars) :
    separator.read input = some ([], ((input.dropWhile isBlank).drop 1).dropWhile isBlank) :=
  read_andThen_of_both (read_mark head) (read_star_blank _)

theorem read_separator_of_ne {input : Piece}
    (different : (input.dropWhile isBlank).chars.head? ≠ some ',') :
    separator.read input = none :=
  read_andThen_of_none (read_mark_of_ne different)

theorem length_separator_lt {input rest : Piece} {tokens : List Token}
    (done : separator.read input = some (tokens, rest)) :
    rest.chars.length < input.chars.length := by
  cases head : (input.dropWhile isBlank).chars with
  | nil =>
      rw [read_separator_of_ne (by rw [head]; nofun)] at done
      cases done
  | cons c chars =>
      by_cases comma : c = ','
      · subst comma
        rw [read_separator head] at done
        cases done
        exact length_afterMark_lt head
      · have absent := @read_separator_of_ne input (by
          rw [head]
          exact fun same => comma (Option.some.inj same))
        rw [absent] at done
        cases done

/-- The grammar reads a list of parameters as the reader does. -/
theorem read_listed (opening : Nat) (input : Piece) :
    ((parameter.andThen (star (separator.andThen parameter))).andThen closing).read input =
      match readParameters opening input with
      | .error _ => none
      | .ok (parameters, following) =>
        some (parameters.map fun piece => .node .parameter piece [], following) := by
  have step := @read_separated parameter closing separator
    (fun done => length_andThen_lt done length_separator_lt) (by
      intro input result done
      apply read_mark_of_ne
      intro closed
      rw [read_separator_of_ne (by rw [closed]; decide)] at done
      cases done)
  induction input using readParameters_induction with
  | nameless input unnamed =>
      rw [step, read_parameter, unnamed, readParameters_of_nameless unnamed]
      rfl
  | comma input parameter rest chars named head ih =>
      rw [step, read_parameter, named, readParameters_of_comma named head, Option.map_some,
        Option.bind_some, read_separator head]
      simp only
      rw [ih]
      cases readParameters opening (((rest.dropWhile isBlank).drop 1).dropWhile isBlank) with
      | error malformed => rfl
      | ok result => rfl
  | closing input parameter rest chars named head =>
      rw [step, read_parameter, named, readParameters_of_closing named head, Option.map_some,
        Option.bind_some, read_separator_of_ne (by rw [head, List.head?_cons]; decide)]
      simp only
      rw [closing, read_mark head]
      rfl
  | other input parameter rest named unlisted unclosed =>
      rw [step, read_parameter, named, readParameters_of_other named unlisted unclosed,
        Option.map_some, Option.bind_some, read_separator_of_ne unlisted]
      simp only
      rw [closing, read_mark_of_ne unclosed]
      rfl

/-- The grammar reads what stands in brackets as the reader does. -/
theorem read_bracketed (opening : Nat) {input : Piece} (stops : Stops isBlank input.chars) :
    ((maybe (parameter.andThen (star (separator.andThen parameter)))).andThen closing).read input =
      match readParameterList opening input with
      | .error _ => none
      | .ok (parameters, following) =>
        some (parameters.map fun piece => .node .parameter piece [], following) := by
  have same := Piece.dropWhile_of_stops stops
  cases named : readName? isParameterChar input with
  | none =>
      rw [read_andThen_of_some (read_maybe_of_none (read_andThen_of_none
        (read_parameter_of_none named)))]
      unfold closing
      by_cases closed : input.chars.head? = some ')'
      · obtain ⟨chars, head⟩ := List.head?_eq_some_iff.mp closed
        rw [read_mark (by rw [same]; exact head), same, readParameterList_of_closing head]
        rfl
      · rw [read_mark_of_ne (by rw [same]; exact closed), readParameterList_of_other closed,
          readParameters_of_nameless named]
        rfl
  | some result =>
      have list := @read_andThen_of_some _ (star (separator.andThen parameter)) _ _ _
        (read_parameter_of_some named)
      rw [read_star] at list
      rw [readParameterList_of_other (head?_ne_of_readName? named rfl), ← read_listed opening input,
        read_andThen_of_some (read_maybe_of_some list), read_andThen_of_some list]

end Pattern

end TemplateServer.Grammar
