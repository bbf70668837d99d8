import TemplateServer.Proofs.Grammar.Malformed
import TemplateServer.Proofs.Grammar.Tracking

/-!
Where a file fails for the grammar. What is tried on a line stays on it, and on the first line that
starts like a header and is none a rule is tried in vain further on than all that comes after. Main
statement: the reader gives what the tracked grammar gives, the attempts at the furthest place
included.
-/

namespace TemplateServer.Grammar

open Text

variable {around : Context} {told : Rule} {rules : List Rule} {earlier known fault : Attempts}
  {place opening : Nat} {tail : List Char} {line piece input : Piece}

/-! ### Notes where rules are wanted -/

namespace Attempts

theorem note_of_lt (further : place < known.offset) :
    note told around place earlier known = known :=
  if_pos (Or.inr (Or.inr further))

theorem note_of_gt (reached : known.offset < place) :
    note told .plain place earlier known = ⟨place, [told], []⟩ := by
  have elsewhere : known.offset ≠ place := reached.ne
  have fresh : earlier.backTo known place = ⟨place, [], []⟩ := if_neg fun both => elsewhere both.1
  have first : ¬(Context.plain.atomic ∨ known.countAt place = earlier.countAt place + 1 ∨
      place < known.offset) := by
    unfold countAt
    rw [if_neg elsewhere]
    rintro (inside | alone | further)
    · cases inside
    · cases alone
    · exact absurd further reached.not_gt
  unfold note
  rw [if_neg first, fresh]
  rfl

/-- A rule after others at the same place. -/
theorem note_again (place : Nat) (rules : List Rule) :
    note told .plain place ⟨place, rules, []⟩ ⟨place, rules, []⟩ =
      ⟨place, rules ++ [told], []⟩ := by
  have more (known : Attempts) : ¬(Context.plain.atomic ∨
      known.countAt known.offset = known.countAt known.offset + 1 ∨
        known.offset < known.offset) := by
    rintro (inside | alone | further)
    · cases inside
    · exact absurd alone (Nat.succ_ne_self _).symm
    · exact absurd further (Nat.lt_irrefl _)
  have kept : backTo ⟨place, rules, []⟩ ⟨place, rules, []⟩ place = ⟨place, rules, []⟩ := by
    unfold backTo
    rw [if_pos ⟨rfl, rfl⟩, List.take_length]
    rfl
  unfold note
  rw [if_neg (more ⟨place, rules, []⟩), kept]
  rfl

end Attempts

theorem Follows.start_le (follows : Follows line piece) : piece.start ≤ line.stop := by
  rw [← follows.stop]
  exact Nat.le_add_right _ _

namespace Pattern

/-! ### Patterns that stay on a line -/

/-- Whether a pattern that is read on a line stays there, with what it leaves and with the rules
that it tries in vain. -/
structure StaysOn (line : Piece) (tail : List Char) (pattern : Pattern) : Prop where
  tries : ∀ {around : Context} {piece : Piece} {place : Nat}, Follows line piece →
    pattern.TriesAt around (piece.extend tail) place → place ≤ line.stop
  leaves : ∀ {piece : Piece} {result : List Token × Piece}, Follows line piece →
    pattern.read (piece.extend tail) = some result →
      ∃ rest, Follows line rest ∧ result.2 = rest.extend tail

variable {first second inner : Pattern}

theorem staysOn_char {fits : Char → Bool} (ends : Ends tail) (feed : fits '\n' = false)
    (turn : fits '\r' = false) {pattern : Pattern} (silent : pattern.isSilent = true)
    (same : pattern.read = (char fits).read) : StaysOn line tail pattern where
  tries _ tried := absurd tried (not_triesAt_of_silent silent)
  leaves := by
    intro piece result follows done
    rw [same] at done
    cases head : piece.chars with
    | nil =>
        have stops : Stops fits (piece.extend tail).chars := by
          rw [Piece.chars_extend, head]
          exact ends.stops feed turn
        rw [read_char_of_stops stops] at done
        cases done
    | cons c chars =>
        rw [read_char_of_cons (Piece.chars_extend_cons head)] at done
        split at done
        · cases done
          exact ⟨piece.drop 1, follows.trans (follows_drop piece 1), Piece.drop_one_extend head⟩
        · cases done

theorem staysOn_literal (ends : Ends tail) {c : Char} (inside : isLineBreak c = false) :
    StaysOn line tail (literal c) := by
  obtain ⟨feed, turn⟩ := Bool.or_eq_false_iff.mp inside
  refine staysOn_char ends ?_ ?_ rfl rfl
  · exact beq_false_of_ne fun same => by rw [← same] at feed; cases feed
  · exact beq_false_of_ne fun same => by rw [← same] at turn; cases turn

theorem StaysOn.andThen (left : StaysOn line tail first) (right : StaysOn line tail second) :
    StaysOn line tail (first.andThen second) where
  tries := by
    intro around piece place follows tried
    cases tried with
    | first tried => exact left.tries follows tried
    | second done tried =>
        obtain ⟨rest, after, same⟩ := left.leaves follows done
        rw [same] at tried
        exact right.tries after tried
  leaves := by
    intro piece result follows done
    cases one : first.read (piece.extend tail) with
    | none =>
        rw [read_andThen_of_none one] at done
        cases done
    | some head =>
        obtain ⟨rest, after, same⟩ := left.leaves follows one
        rw [read_andThen_of_some one, same] at done
        obtain ⟨last, two, rfl⟩ := Option.map_eq_some_iff.mp done
        obtain ⟨next, later, left⟩ := right.leaves after two
        exact ⟨next, later, left⟩

theorem StaysOn.orElse (left : StaysOn line tail first) (right : StaysOn line tail second) :
    StaysOn line tail (first.orElse second) where
  tries := by
    intro around piece place follows tried
    cases tried with
    | left tried => exact left.tries follows tried
    | right _ tried => exact right.tries follows tried
  leaves := by
    intro piece result follows done
    cases one : first.read (piece.extend tail) with
    | none => exact right.leaves follows ((read_orElse_of_none one).symm.trans done)
    | some head => exact left.leaves follows (one.trans ((read_orElse_of_some one).symm.trans done))

theorem StaysOn.maybe (stays : StaysOn line tail inner) : StaysOn line tail (maybe inner) where
  tries := by
    intro around piece place follows tried
    cases tried with
    | maybe tried => exact stays.tries follows tried
  leaves := by
    intro piece result follows done
    cases one : inner.read (piece.extend tail) with
    | none =>
        rw [read_maybe_of_none one] at done
        cases done
        exact ⟨piece, follows, rfl⟩
    | some head => exact stays.leaves follows (one.trans ((read_maybe_of_some one).symm.trans done))

theorem StaysOn.ahead (tries : ∀ {around : Context} {piece : Piece} {place : Nat},
      Follows line piece → inner.TriesAt around (piece.extend tail) place → place ≤ line.stop) :
    StaysOn line tail (ahead inner) where
  tries := by
    intro around piece place follows tried
    cases tried with
    | ahead tried => exact tries follows tried
  leaves := by
    intro piece result follows done
    rw [read_ahead] at done
    split at done
    · cases done
      exact ⟨piece, follows, rfl⟩
    · cases done

theorem StaysOn.notAhead (stays : StaysOn line tail inner) :
    StaysOn line tail (notAhead inner) where
  tries := by
    intro around piece place follows tried
    cases tried with
    | notAhead tried => exact stays.tries follows tried
  leaves := by
    intro piece result follows done
    rw [read_notAhead] at done
    split at done
    · cases done
    · cases done
      exact ⟨piece, follows, rfl⟩

theorem StaysOn.rule (stays : StaysOn line tail inner) : StaysOn line tail (rule told inner) where
  tries := by
    intro around piece place follows tried
    cases tried with
    | inside tried => exact stays.tries follows tried
    | whole _ _ => exact follows.start_le
  leaves := by
    intro piece result follows done
    rw [read_rule] at done
    obtain ⟨head, one, rfl⟩ := Option.map_eq_some_iff.mp done
    obtain ⟨rest, after, left⟩ := stays.leaves follows one
    exact ⟨rest, after, left⟩

theorem StaysOn.star (stays : StaysOn line tail inner) : StaysOn line tail (star inner) where
  tries := by
    intro around piece place follows tried
    generalize begun : piece.extend tail = input at tried
    generalize repeated : inner.star = pattern at tried
    induction tried generalizing piece with
    | once tried =>
        cases repeated
        rw [← begun] at tried
        exact stays.tries follows tried
    | again done shorter tried ih =>
        cases repeated
        rw [← begun] at done
        obtain ⟨rest, after, same⟩ := stays.leaves follows done
        exact ih after same.symm rfl
    | _ => cases repeated
  leaves := by
    intro piece result follows done
    rw [read_star] at done
    cases done
    generalize begun : piece.extend tail = input
    fun_induction iterate inner.read input generalizing piece with
    | case1 input failed => exact ⟨piece, follows, begun.symm⟩
    | case2 input tokens rest done shorter following =>
        rename_i ih
        rw [← begun] at done
        obtain ⟨next, after, same⟩ := stays.leaves follows done
        exact ih after same.symm
    | case3 input tokens rest done longer =>
        rw [← begun] at done
        exact stays.leaves follows done

theorem staysOn_lineEnd : StaysOn line tail (ahead lineEnd) := by
  apply StaysOn.ahead
  intro around piece place follows tried
  cases tried with
  | left tried => exact absurd tried (not_triesAt_of_silent rfl)
  | right _ tried =>
      cases tried with
      | inside tried => exact absurd tried (not_triesAt_of_silent rfl)
      | whole _ _ => exact follows.start_le

/-! ### The rules of a line -/

theorem staysOn_blanks (ends : Ends tail) : StaysOn line tail (star blank) :=
  (staysOn_char ends rfl rfl rfl read_blank).star

/-- Blanks and then a mark that ends no line. -/
theorem staysOn_mark (ends : Ends tail) {mark : Char} (inside : isLineBreak mark = false) :
    StaysOn line tail ((star blank).andThen (literal mark)) :=
  (staysOn_blanks ends).andThen (staysOn_literal ends inside)

theorem staysOn_nameStart (ends : Ends tail) : StaysOn line tail nameStart :=
  staysOn_char ends rfl rfl rfl read_nameStart

theorem staysOn_parameter (ends : Ends tail) : StaysOn line tail parameter :=
  ((staysOn_nameStart ends).andThen
    (staysOn_char ends rfl rfl rfl read_parameterChar).star).rule

theorem staysOn_parameters (ends : Ends tail) : StaysOn line tail parameters := by
  have blanks := @staysOn_blanks tail line ends
  have separator : StaysOn line tail separator := (staysOn_mark ends rfl).andThen blanks
  have list := (staysOn_parameter ends).andThen (separator.andThen (staysOn_parameter ends)).star
  exact ((((staysOn_literal ends rfl).andThen blanks).andThen list.maybe).andThen blanks).andThen
    (staysOn_literal ends rfl) |>.rule

theorem staysOn_header (ends : Ends tail) : StaysOn line tail header := by
  have blanks := @staysOn_blanks tail line ends
  have name : StaysOn line tail templateName :=
    ((staysOn_nameStart ends).andThen (staysOn_char ends rfl rfl rfl read_nameChar).star).rule
  exact (staysOn_mark ends rfl).andThen blanks |>.andThen name |>.andThen blanks
    |>.andThen (staysOn_parameters ends).maybe |>.andThen blanks |>.andThen staysOn_lineEnd |>.rule

theorem staysOn_until (ends : Ends tail) (mark : Char) :
    StaysOn line tail ((notAhead ((literal mark).orElse newline)).andThen anything) := by
  refine staysOn_char ends ?_ ?_ rfl (read_until mark)
  · simp [isLineBreak]
  · simp [isLineBreak]

theorem staysOn_imported (ends : Ends tail) : StaysOn line tail imported := by
  have mark {c : Char} (inside : isLineBreak c = false) : StaysOn line tail (literal c) :=
    staysOn_literal ends inside
  have label : StaysOn line tail label := (staysOn_until ends ']').star.rule
  have path : StaysOn line tail path :=
    ((staysOn_until ends ')').andThen (staysOn_until ends ')').star).rule
  exact (staysOn_mark ends rfl).andThen label |>.andThen (mark rfl) |>.andThen (mark rfl)
    |>.andThen path |>.andThen (mark rfl) |>.andThen (staysOn_blanks ends)
    |>.andThen staysOn_lineEnd |>.rule

theorem staysOn_restOfLine (ends : Ends tail) : StaysOn line tail restOfLine :=
  (staysOn_char ends rfl rfl rfl read_untilBreak).star.rule

theorem staysOn_line (ends : Ends tail) : StaysOn line tail Pattern.line := by
  have comment : StaysOn line tail comment :=
    ((staysOn_mark ends rfl).andThen (staysOn_restOfLine ends)).rule
  have body : StaysOn line tail body :=
    ((staysOn_mark ends rfl).notAhead.andThen (staysOn_restOfLine ends)).rule
  exact ((staysOn_header ends).orElse (staysOn_imported ends)).orElse comment |>.orElse body

/-! ### Lists of parameters -/

/-- How the attempts after a list of parameters bear on what the reader makes of it. A list that is
read leaves none after it; one that fails leaves its fault, unless it fails for its brackets. -/
def TellsList (opening start : Nat) (known tried : Attempts) :
    Except Attempts (List Piece × Piece) → Prop
  | .ok (_, following) => tried.offset < following.start
  | .error fault => tried = fault ∧ start ≤ fault.offset ∨
      tried = known ∧ fault = ⟨opening, [.parameters, .finish], []⟩

theorem TellsList.cons {start later : Nat} {tried : Attempts} {parameter : Piece}
    {result : Except Attempts (List Piece × Piece)}
    (tells : TellsList opening later known tried result) (le : start ≤ later) :
    TellsList opening start known tried
      (result.map fun result => (parameter :: result.1, result.2)) := by
  cases result with
  | ok result => exact tells
  | error fault =>
      rcases tells with ⟨same, after⟩ | other
      · exact Or.inl ⟨same, le.trans after⟩
      · exact Or.inr other

theorem tries_parameter (input : Piece) (known : Attempts) :
    parameter.tries .plain input known =
      if (parameter.read input).isSome then
        known
      else
        Attempts.note .parameter .plain input.start known known :=
  tries_rule_of_silent rfl

theorem tries_parameter_of_none (unnamed : readName? isParameterChar input = none)
    (reached : known.offset < input.start) :
    parameter.tries .plain input known = ⟨input.start, [.parameter], []⟩ := by
  rw [tries_parameter, read_parameter, unnamed]
  exact Attempts.note_of_gt reached

theorem tries_parameter_of_some {result : Piece × Piece}
    (named : readName? isParameterChar input = some result) :
    parameter.tries .plain input known = known := by
  rw [tries_parameter, read_parameter, named]
  rfl

theorem tries_closing (around : Context) (input : Piece) (known : Attempts) :
    closing.tries around input known = known :=
  tries_of_silent rfl around input known

theorem tellsList_listed (opening : Nat) {input : Piece} (reached : known.offset < input.start) :
    TellsList opening input.start known
      (((parameter.andThen (star (separator.andThen parameter))).andThen closing).tries .plain
        input known)
      (readParameters opening input) := by
  have shorter : ∀ {input rest : Piece} {tokens : List Token},
      (separator.andThen parameter).read input = some (tokens, rest) →
      rest.chars.length < input.chars.length :=
    fun done => length_andThen_lt done length_separator_lt
  induction input using readParameters_induction with
  | nameless input unnamed =>
      have absent := read_parameter_of_none unnamed
      rw [readParameters_of_nameless unnamed, tries_andThen_of_none (read_andThen_of_none absent),
        tries_andThen_of_none absent, tries_parameter_of_none unnamed reached]
      exact Or.inl ⟨rfl, Nat.le_refl _⟩
  | comma input parameter rest chars named head ih =>
      have le := (within_afterMark named).2.start_le
      have later := ih (reached.trans_le le)
      rw [readParameters_of_comma named head,
        tries_separated rfl shorter (read_parameter_of_some named) (read_separator head)]
      simp only [tries_closing, ite_self]
      rw [tries_parameter_of_some named]
      exact later.cons le
  | closing input parameter rest chars named head =>
      have le := (within_afterMark named).1.start_le
      have absent := @read_separator_of_ne rest (by rw [head, List.head?_cons]; decide)
      rw [readParameters_of_closing named head, tries_separated_of_none rfl (read_parameter_of_some named) absent,
        tries_closing, tries_parameter_of_some named]
      exact (reached.trans_le le).trans (Piece.start_lt_drop_one head)
  | other input parameter rest named unlisted unclosed =>
      rw [readParameters_of_other named unlisted unclosed,
        tries_separated_of_none rfl (read_parameter_of_some named) (read_separator_of_ne unlisted),
        tries_closing, tries_parameter_of_some named]
      exact Or.inr ⟨rfl, rfl⟩

/-- What is tried in brackets. -/
theorem tellsList_bracketed (opening : Nat) (reached : known.offset < input.start) :
    TellsList opening input.start known
      (((maybe (parameter.andThen (star (separator.andThen parameter)))).andThen closing).tries
        .plain input known)
      (readParameterList opening input) := by
  have listed := tellsList_listed opening reached
  cases named : readName? isParameterChar input with
  | none =>
      have absent := read_parameter_of_none named
      have unlisted := @read_andThen_of_none _ (star (separator.andThen parameter)) _ absent
      have tried := @tries_parameter_of_none known input named reached
      rw [tries_andThen_of_none unlisted, tries_andThen_of_none absent, tried] at listed
      rw [tries_andThen_of_some (read_maybe_of_none unlisted), tries_closing, tries_maybe,
        tries_andThen_of_none absent, tried]
      by_cases closed : input.chars.head? = some ')'
      · obtain ⟨chars, head⟩ := List.head?_eq_some_iff.mp closed
        rw [readParameterList_of_closing head]
        exact Piece.start_lt_drop_one head
      · rw [readParameterList_of_other closed]
        exact listed
  | some parts =>
      have list := @read_andThen_of_some _ (star (separator.andThen parameter)) _ _ _
        (read_parameter_of_some named)
      rw [read_star] at list
      rw [readParameterList_of_other (head?_ne_of_readName? named rfl), tries_andThen_of_some (read_maybe_of_some list),
        tries_maybe, ← tries_andThen_of_some list]
      exact listed

section

variable {c : Char} {chars : List Char}

theorem tries_parameters_of_ne (ends : Ends tail) (different : piece.chars.head? ≠ some '(')
    (reached : known.offset < piece.start) :
    parameters.tries .plain (piece.extend tail) known = ⟨piece.start, [.parameters], []⟩ := by
  have failed := @read_literal_extend_of_ne tail piece '(' ends rfl different
  have absent := @read_parameters_of_ne tail piece ends different
  unfold parameters at absent ⊢
  rw [tries_rule_of_none absent]
  iterate 3 rw [tries_andThen_assoc]
  rw [tries_andThen_of_none failed]
  exact Attempts.note_of_gt reached

/-- What is tried for a list of parameters up to the rule that stands for the list. -/
theorem tellsList_inside (ends : Ends tail) (bracket : piece.chars = '(' :: chars)
    (reached : known.offset < piece.start) :
    TellsList piece.start ((piece.drop 1).dropWhile isBlank).start known
      (((literal '(').andThen (star blank)
        |>.andThen (maybe (parameter.andThen (star (separator.andThen parameter))))
        |>.andThen (star blank)
        |>.andThen (literal ')')).tries .plain (piece.extend tail) known)
      (readParameterList piece.start ((piece.drop 1).dropWhile isBlank)) := by
  have input : known.offset < (((piece.drop 1).dropWhile isBlank).extend tail).start :=
    reached.trans_le ((Piece.within_dropWhile _ isBlank).trans (Piece.within_drop piece 1)).start_le
  have opened := read_andThen_of_both (@read_literal_extend tail piece _ _ bracket)
    (read_star_blank_extend ends _)
  have quiet : ((literal '(').andThen (star blank)).tries .plain (piece.extend tail) known =
      known := tries_of_silent rfl ..
  have tells := tellsList_bracketed piece.start input
  rw [readParameterList_extend ends] at tells
  rw [tries_andThen_assoc, tries_andThen_assoc, tries_andThen_of_some opened, quiet]
  cases list : readParameterList piece.start ((piece.drop 1).dropWhile isBlank) with
  | ok result =>
      rw [list] at tells
      exact tells
  | error fault =>
      rw [list] at tells
      exact tells

theorem tries_parameters_of_ok {parameters : List Piece} {following : Piece} (ends : Ends tail)
    (bracket : piece.chars = '(' :: chars) (reached : known.offset < piece.start)
    (list : readParameterList piece.start ((piece.drop 1).dropWhile isBlank) =
      .ok (parameters, following)) :
    (Pattern.parameters.tries .plain (piece.extend tail) known).offset < following.start := by
  have done := @read_parameters tail piece chars ends piece.start bracket
  have tells := tellsList_inside ends bracket reached
  rw [list] at done tells
  unfold Pattern.parameters at done ⊢
  rw [tries_rule_of_some done]
  exact tells

/-- A list that fails leaves its fault, or just the list itself at its opening bracket. -/
theorem tries_parameters_of_error (ends : Ends tail) (bracket : piece.chars = '(' :: chars)
    (reached : known.offset < piece.start)
    (list : readParameterList piece.start ((piece.drop 1).dropWhile isBlank) = .error fault) :
    parameters.tries .plain (piece.extend tail) known = fault ∧ piece.start < fault.offset ∨
      parameters.tries .plain (piece.extend tail) known = ⟨piece.start, [.parameters], []⟩ ∧
        fault = ⟨piece.start, [.parameters, .finish], []⟩ := by
  have absent := @read_parameters tail piece chars ends piece.start bracket
  have tells := tellsList_inside ends bracket reached
  rw [list] at absent tells
  unfold parameters at absent ⊢
  rw [tries_rule_of_none absent]
  rcases tells with ⟨same, after⟩ | ⟨same, unclosed⟩
  · have further : piece.start < fault.offset :=
      (Piece.start_lt_drop_one bracket).trans_le
        ((Piece.within_dropWhile _ isBlank).start_le.trans after)
    refine Or.inl ⟨?_, further⟩
    change Attempts.note _ _ _ _ (Pattern.tries _ .plain _ _) = _
    rw [same]
    exact Attempts.note_of_lt further
  · refine Or.inr ⟨?_, unclosed⟩
    change Attempts.note _ _ _ _ (Pattern.tries _ .plain _ _) = _
    rw [same]
    exact Attempts.note_of_gt reached

/-- A rule makes no difference where what it tries is further on. -/
theorem tries_rule_of_further {tried : Attempts}
    (inside : inner.tries (Context.plain.inside told) input known = tried)
    (further : input.start < tried.offset) : (rule told inner).tries .plain input known = tried := by
  rw [tries_rule, inside]
  split
  · exact Attempts.note_of_lt further
  · rfl

/-! ### Headers -/

/-- Where a line goes on, its end is noted. -/
theorem tries_ending (ends : Ends tail) (plain : Plain line.chars) (follows : Follows line piece)
    (more : (piece.dropWhile isBlank).chars = c :: chars) :
    ((star blank).andThen (ahead lineEnd)).tries .plain (piece.extend tail) known =
      Attempts.note .finish .plain (piece.dropWhile isBlank).start known known := by
  have left := (follows.trans (follows_dropWhile piece isBlank)).plain plain
  have head := @Piece.chars_extend_cons tail _ _ _ more
  have inside : isLineBreak c = false := left c (by rw [more]; exact List.mem_cons_self)
  have unbroken := read_newline_of_stops (by rw [head]; exact stops_cons inside _)
  have blanks : (star blank).tries .plain (piece.extend tail) known = known :=
    tries_of_silent rfl ..
  have quiet (input : Piece) : newline.tries .plain input known = known := tries_of_silent rfl ..
  rw [tries_andThen_of_some (read_star_blank_extend ends piece), blanks, tries_ahead, lineEnd,
    tries_orElse_of_none unbroken, quiet,
    tries_rule_of_none (read_rule_of_none (read_finish_of_cons head))]
  rfl

theorem tries_opening (ends : Ends tail) (head : (line.dropWhile isBlank).chars = '#' :: chars) :
    Pattern.opening.tries .plain (line.extend tail) known =
      if (readName? isNameChar (Header.input line)).isSome then
        known
      else
        Attempts.note .name .plain (Header.input line).start known known := by
  have marked := read_andThen_of_both (read_mark_extend ends head) (read_star_blank_extend ends _)
  have name := read_templateName ((Header.input line).extend tail)
  rw [readName?_extend ends rfl rfl] at name
  have tried : templateName.tries .plain ((Header.input line).extend tail) known = _ :=
    tries_rule_of_silent rfl
  have quiet : ((star blank).andThen (literal '#') |>.andThen (star blank)).tries .plain
      (line.extend tail) known = known := tries_of_silent rfl ..
  rw [← templateName, name, Option.isSome_map, Option.isSome_map] at tried
  rw [Pattern.opening, tries_andThen_assoc, tries_andThen_of_some marked, quiet]
  refine Eq.trans ?_ tried
  cases named : templateName.read ((Header.input line).extend tail) with
  | none => exact tries_andThen_of_none named
  | some result => exact (tries_andThen_of_some named).trans (tries_of_silent rfl ..)

/-- After a name the end of the line is noted where the list of parameters leaves off, if anything
follows there. -/
theorem tries_named {name rest next : Piece} {tokens : List Token} {more : List Char}
    (ends : Ends tail) (plain : Plain line.chars)
    (head : (line.dropWhile isBlank).chars = '#' :: chars)
    (named : readName? isNameChar (Header.input line) = some (name, rest))
    (read : (maybe parameters).read ((rest.dropWhile isBlank).extend tail) =
      some (tokens, next.extend tail))
    (follows : Follows line next) (left : (next.dropWhile isBlank).chars = c :: more) :
    ((Pattern.opening.andThen (maybe parameters)).andThen
        ((star blank).andThen (ahead lineEnd))).tries .plain (line.extend tail) known =
      Attempts.note .finish .plain (next.dropWhile isBlank).start
        (parameters.tries .plain ((rest.dropWhile isBlank).extend tail) known)
        (parameters.tries .plain ((rest.dropWhile isBlank).extend tail) known) := by
  have started := @read_opening tail line chars ends head
  have opened := @tries_opening known tail line chars ends head
  rw [named] at started opened
  rw [tries_andThen_of_some (read_andThen_of_both started read), tries_andThen_of_some started,
    opened, tries_maybe]
  exact tries_ending ends plain follows left

/-- What is tried in a header that fails leaves its fault. -/
theorem tries_of_fails (ends : Ends tail) (plain : Plain line.chars)
    (head : (line.dropWhile isBlank).chars = '#' :: chars) (reached : known.offset ≤ line.start)
    (fails : Header.Fails line fault) :
    ((Pattern.opening.andThen (maybe parameters)).andThen
      ((star blank).andThen (ahead lineEnd))).tries .plain (line.extend tail) known = fault := by
  have before : known.offset < (Header.input line).start :=
    (reached.trans (Piece.within_dropWhile line isBlank).start_le).trans_lt
      ((Piece.start_lt_drop_one head).trans_le (Piece.within_dropWhile _ isBlank).start_le)
  have idle (rest : Piece) : (rest.dropWhile isBlank).dropWhile isBlank = rest.dropWhile isBlank :=
    Piece.dropWhile_of_stops (by
      rw [Piece.chars_dropWhile]
      exact stops_dropWhile isBlank rest.chars)
  cases fails with
  | nameless unnamed =>
      have started := @read_opening tail line chars ends head
      have opened := @tries_opening known tail line chars ends head
      rw [unnamed] at started opened
      rw [tries_andThen_of_none (read_andThen_of_none started), tries_andThen_of_none started,
        opened]
      exact Attempts.note_of_gt before
  | @unlisted name rest c more named mark other =>
      have after := before.trans_le (within_afterMark named).1.start_le
      have different : (rest.dropWhile isBlank).chars.head? ≠ some '(' := by
        rw [mark]
        exact fun same => other (Option.some.inj same)
      have absent := read_maybe_of_none (@read_parameters_of_ne tail _ ends different)
      rw [tries_named ends plain head named absent (follows_name named) (by rw [idle]; exact mark),
        tries_parameters_of_ne ends different after, idle]
      exact Attempts.note_again _ _
  | @listed name rest more _ named bracket list =>
      have after := before.trans_le (within_afterMark named).1.start_le
      have unlisted := @read_parameters tail _ _ ends (rest.dropWhile isBlank).start bracket
      rw [list] at unlisted
      rw [tries_named ends plain head named (read_maybe_of_none unlisted) (follows_name named)
        (by rw [idle]; exact bracket), idle]
      rcases tries_parameters_of_error ends bracket after list with ⟨same, further⟩ | ⟨same, rfl⟩
      · rw [same]
        exact Attempts.note_of_lt further
      · rw [same]
        exact Attempts.note_again _ _
  | @followed name rest following more parameters c others named bracket list left =>
      have after := before.trans_le (within_afterMark named).1.start_le
      have listed := @read_parameters tail _ _ ends (rest.dropWhile isBlank).start bracket
      rw [list] at listed
      rw [tries_named ends plain head named (read_maybe_of_some listed) (follows_listed named list)
        left]
      apply Attempts.note_of_gt
      exact (tries_parameters_of_ok ends bracket after list).trans_le
        (Piece.within_dropWhile following isBlank).start_le

theorem start_lt_of_fails (head : (line.dropWhile isBlank).chars = '#' :: chars)
    (fails : Header.Fails line fault) : line.start < fault.offset :=
  (Piece.within_dropWhile line isBlank).start_le.trans_lt
    ((Piece.start_lt_drop_one head).trans_le fails.on.bounds.1)

theorem tries_header_of_fails (ends : Ends tail) (plain : Plain line.chars)
    (head : (line.dropWhile isBlank).chars = '#' :: chars) (reached : known.offset ≤ line.start)
    (fails : Header.Fails line fault) : header.tries .plain (line.extend tail) known = fault := by
  have inside := tries_of_fails ends plain head reached fails
  have further := start_lt_of_fails head fails
  rw [← tries_andThen_assoc] at inside
  exact tries_rule_of_further inside further

end

/-! ### Lines -/

/-- A line that fails leaves its fault, whatever else it is tried as. -/
theorem tries_line_of_error (ends : Ends tail) (plain : Plain line.chars)
    (reached : known.offset ≤ line.start) (broken : Entry.ofLine line = .error fault) :
    Pattern.line.tries .plain (line.extend tail) known = fault ∧ line.start < fault.offset := by
  obtain ⟨marked, fails⟩ := headed_of_ofLine_error broken
  obtain ⟨chars, head⟩ := List.head?_eq_some_iff.mp marked
  have further := start_lt_of_fails head fails
  refine ⟨?_, further⟩
  have told := tells_line ends plain
  rw [broken] at told
  have unread : Pattern.line.read (line.extend tail) = none := told
  unfold Pattern.line at unread ⊢
  rw [read_orElse, read_orElse, read_orElse] at unread
  simp only [Option.or_eq_none_iff] at unread
  obtain ⟨⟨⟨unheaded, unimported⟩, uncommented⟩, _⟩ := unread
  have unmarked {mark : Char} (inside : isLineBreak mark = false) (other : mark ≠ '#') :
      ((star blank).andThen (literal mark)).read (line.extend tail) = none := by
    apply read_mark_extend_of_ne ends inside
    rw [Piece.chars_dropWhile, marked]
    exact fun same => other (Option.some.inj same).symm
  have quiet {mark : Char} (around : Context) :
      ((star blank).andThen (literal mark)).tries around (line.extend tail) fault = fault :=
    tries_of_silent rfl ..
  have here : (line.extend tail).start < fault.offset := further
  have imports : imported.tries .plain (line.extend tail) fault = fault := by
    apply tries_rule_of_further _ here
    iterate 6 rw [tries_andThen_assoc]
    rw [tries_andThen_of_none (unmarked rfl (by decide)), quiet]
  have comments : comment.tries .plain (line.extend tail) fault = fault := by
    apply tries_rule_of_further _ here
    rw [tries_andThen_of_none (unmarked rfl (by decide)), quiet]
  have bodies : body.tries .plain (line.extend tail) fault = fault := by
    apply tries_rule_of_further _ here
    rw [tries_andThen_of_none (read_notAhead_of_some (read_mark_extend ends head)), tries_notAhead,
      quiet]
  rw [tries_orElse_of_none (by rw [read_orElse, read_orElse, unheaded, unimported, uncommented]; rfl),
    tries_orElse_of_none (by rw [read_orElse, unheaded, unimported]; rfl),
    tries_orElse_of_none unheaded, tries_header_of_fails ends plain head reached fails,
    imports, comments, bodies]

/-- A line that is read leaves what is known on the line. -/
theorem offset_tries_line_le (ends : Ends tail) (reached : known.offset ≤ line.stop) :
    (Pattern.line.tries .plain (line.extend tail) known).offset ≤ line.stop := by
  rcases (furthest_tries Pattern.line .plain (line.extend tail) known).1 with same | tried
  · exact same.le.trans reached
  · exact (staysOn_line ends).tries (Follows.refl line) tried

/-! ### Files -/

theorem tries_allLines_of_error (ends : Ends tail) (plain : Plain line.chars)
    (reached : known.offset ≤ line.start) (broken : Entry.ofLine line = .error fault) :
    allLines.tries .plain (line.extend tail) known = fault ∧ line.start < fault.offset := by
  have told := tells_line ends plain
  rw [broken] at told
  have unread : Pattern.line.read (line.extend tail) = none := told
  unfold allLines
  rw [tries_andThen_of_none (read_andThen_of_none unread), tries_andThen_of_none unread]
  exact tries_line_of_error ends plain reached broken

/-- The lines of a file that fails leave the fault of the first line that does. -/
theorem tries_lines {start : Nat} {text : List Char} {lines : List Piece}
    (apart : Lines start text lines) (reached : known.offset ≤ start)
    (broken : lines.mapM Entry.ofLine = .error fault) :
    allLines.tries .plain ⟨start, text⟩ known = fault ∧ start < fault.offset := by
  induction apart generalizing known with
  | @last start text plain =>
      have whole : Piece.extend [] ⟨start, text⟩ = ⟨start, text⟩ := by
        unfold Piece.extend
        rw [List.append_nil]
      have read := (mapM_ofLine_error broken).resolve_right fun later => by cases later.2
      rw [← whole]
      exact tries_allLines_of_error (fun _ => nofun) plain reached read
  | @more start first mark rest lines plain breaks following ih =>
      have ends : Ends (mark ++ rest) := breaks.ends
      change allLines.tries .plain (Piece.extend (mark ++ rest) ⟨start, first⟩) known = _ ∧ _
      rcases mapM_ofLine_error broken with read | ⟨⟨entry, read⟩, later⟩
      · exact tries_allLines_of_error ends plain reached read
      · have told := @tells_line (mark ++ rest) ⟨start, first⟩ ends plain
        rw [read] at told
        obtain ⟨token, done, _⟩ := told
        have bound := @offset_tries_line_le known (mark ++ rest) ⟨start, first⟩ ends
          (reached.trans (Nat.le_add_right _ _))
        obtain ⟨same, further⟩ := ih (bound.trans (Nat.le_add_right _ _)) later
        have before : start + bytes first < fault.offset := (Nat.le_add_right _ _).trans_lt further
        have ended : fileEnd.tries .plain ⟨start + bytes first, mark ++ rest⟩ fault = fault :=
          tries_rule_of_further rfl before
        unfold allLines at same ⊢
        rw [tries_separated rfl (fun done => length_andThen_lt done length_newline_lt) done
          (read_newline_of_breaks breaks (start + bytes first)), same]
        refine ⟨?_, (Nat.le_add_right _ _).trans_lt before⟩
        change (if _ then fault else fileEnd.tries _ _ fault) = fault
        split
        · rfl
        · exact ended

/-- A file that fails leaves the fault that the reader tells. -/
theorem tries_file {text : List Char}
    (broken : (logicalLines text).mapM Entry.ofLine = .error fault) :
    file.tries .plain ⟨0, text⟩ .none = fault := by
  obtain ⟨same, further⟩ := @tries_lines .none fault 0 text _ (lines_linesFrom 0 text)
    (Nat.le_refl 0) broken
  have begins : start.read ⟨0, text⟩ = some ([], ⟨0, text⟩) := rfl
  refine tries_rule_of_further ?_ further
  rw [tries_andThen_assoc, tries_andThen_assoc, tries_andThen_of_some begins,
    ← tries_andThen_assoc]
  exact same

/-- The reader of lines gives what the tracked grammar gives, the attempts at the furthest place
included. -/
theorem parse_eq (text : List Char) : parse text = (logicalLines text).mapM Entry.ofLine := by
  have lines := parse?_eq text
  unfold parse? at lines
  unfold parse
  rw [run_eq]
  cases read : (logicalLines text).mapM Entry.ofLine with
  | ok entries =>
      rw [read] at lines
      cases done : file.read ⟨0, text⟩ with
      | none =>
          rw [done] at lines
          cases lines
      | some result =>
          rw [done] at lines
          exact congrArg Except.ok (Option.some.inj lines)
  | error fault =>
      rw [read] at lines
      cases failed : file.read ⟨0, text⟩ with
      | none => exact congrArg Except.error (tries_file read)
      | some result =>
          rw [failed] at lines
          cases lines

end Pattern

/-- A file that fails is told by the furthest place where one of its rules is tried in vain. -/
theorem Pattern.isGreatest_of_parse {text : List Char} (failed : Pattern.parse text = .error fault) :
    IsGreatest {place | Pattern.file.TriesAt .plain ⟨0, text⟩ place} fault.offset := by
  unfold parse at failed
  rw [run_eq] at failed
  cases unread : file.read ⟨0, text⟩ with
  | some result =>
      rw [unread] at failed
      cases failed
  | none =>
      rw [unread] at failed
      obtain rfl : file.tries .plain ⟨0, text⟩ .none = fault := Except.error.inj failed
      obtain ⟨known | tried, furthest⟩ := furthest_tries file .plain ⟨0, text⟩ .none
      · -- the rule for the file itself is tried at the start
        have whole : file.TriesAt .plain ⟨0, text⟩ 0 :=
          .whole rfl (by rw [Option.map_eq_none_iff.mp (read_rule.symm.trans unread)]; rfl)
        refine ⟨?_, fun place tried => furthest (Or.inr tried)⟩
        rw [known]
        exact whole
      · exact ⟨tried, fun place tried => furthest (Or.inr tried)⟩

theorem Outline.ofText_eq_parse (text : List Char) :
    Outline.ofText text = (Pattern.parse text).map Outline.ofEntries := by
  rw [Pattern.parse_eq]
  rfl

theorem Outline.ofText_error_iff {text : List Char} :
    Outline.ofText text = .error fault ↔ Pattern.parse text = .error fault := by
  rw [ofText_eq_parse]
  cases Pattern.parse text with
  | ok entries => exact ⟨nofun, nofun⟩
  | error other =>
      change Except.error other = _ ↔ _
      rw [Except.error.injEq, Except.error.injEq]

end TemplateServer.Grammar
