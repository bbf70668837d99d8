import TemplateServer.Proofs.Grammar.Parameters

/-!
The grammar and the reader of lines. Main statement: a line that is followed by its end is read by
the grammar as the reader classifies it, and fails if and only if the reader does.
-/

namespace TemplateServer.Grammar

open Text

variable {tail : List Char} {line piece : Piece}

/-- What a line has left once it is used up is what follows the line. -/
theorem Follows.extend_eq (follows : Follows line piece) (empty : piece.chars = []) :
    piece.extend tail = ⟨line.stop, tail⟩ := by
  rw [Piece.eq_of_stop follows.stop empty]
  rfl

/-- The tokens of a header give back its name and its parameters. -/
theorem Header.ofTokens_eq (span name list : Piece) (parameters : List Piece) :
    Header.ofTokens span [.node .name name [],
      .node .parameters list (parameters.map fun parameter => .node .parameter parameter [])] =
      ⟨name, parameters⟩ := by
  have all : ((parameters.map fun parameter => Token.node .parameter parameter []).filter
      fun inner => inner.rule = .parameter).map Token.span = parameters := by
    induction parameters with
    | nil => rfl
    | cons parameter others ih => exact congrArg (parameter :: ·) ih
  exact congrArg (Header.mk name) all

theorem Import.ofLine?_of_ne (different : (line.chars.dropWhile isBlank).head? ≠ some '[') :
    Import.ofLine? line = none := by
  unfold Import.ofLine?
  split
  · rename_i inside opened
    rw [opened] at different
    exact absurd rfl different
  · rfl

/-- Whether a pattern uses up just the line and tells of the entry, or fails where there is none. -/
def Tells (pattern : Pattern) (line : Piece) (tail : List Char) : Option Entry → Prop
  | none => pattern.read (line.extend tail) = none
  | some entry => ∃ token, pattern.read (line.extend tail) = some ([token], ⟨line.stop, tail⟩) ∧
      Entry.ofToken? token = some entry

theorem Tells.orElse {first second : Pattern} {one two : Option Entry}
    (left : Tells first line tail one) (right : Tells second line tail two) :
    Tells (first.orElse second) line tail (one.or two) := by
  cases one with
  | none =>
      have same : (first.orElse second).read (line.extend tail) = second.read (line.extend tail) :=
        Pattern.read_orElse_of_none left
      cases two with
      | none => exact same.trans right
      | some entry =>
          obtain ⟨token, done, told⟩ := right
          exact ⟨token, same.trans done, told⟩
  | some entry =>
      obtain ⟨token, done, told⟩ := left
      exact ⟨token, Pattern.read_orElse_of_some done, told⟩

/-- A rule that uses up the line tells of all of it. -/
theorem tells_rule {told : Rule} {inner : Pattern} {tokens : List Token} {entry : Entry}
    (done : inner.read (line.extend tail) = some (tokens, ⟨line.stop, tail⟩))
    (about : Entry.ofToken? (.node told line tokens) = some entry) :
    Tells (.rule told inner) line tail (some entry) := by
  refine ⟨.node told line tokens, ?_, about⟩
  rw [Pattern.read_rule_of_some done, Piece.upTo_extend]

namespace Pattern

/-! ### The end of a line -/

/-- The end of a line is ahead once the line is used up, and not before. -/
theorem read_lineEnd_of_nil (ends : Ends tail) (empty : piece.chars = []) :
    (ahead lineEnd).read (piece.extend tail) = some ([], piece.extend tail) := by
  have left : (piece.extend tail).chars = tail := by
    rw [Piece.chars_extend, empty]
    rfl
  cases tail with
  | nil =>
      have failed := read_newline_of_stops (by rw [left]; exact stops_nil isLineBreak)
      have finished := read_finish_of_nil left
      apply read_ahead_of_some
      · unfold lineEnd
        rw [read_orElse_of_none failed, read_rule, finished]
        rfl
  | cons c chars =>
      obtain ⟨result, done⟩ := read_newline_of_break left (ends c rfl)
      exact read_ahead_of_some (read_orElse_of_some done)

theorem read_lineEnd_of_cons {c : Char} {chars : List Char}
    (plain : Plain piece.chars) (head : piece.chars = c :: chars) :
    (ahead lineEnd).read (piece.extend tail) = none := by
  have left := @Piece.chars_extend_cons tail _ _ _ head
  have inside : isLineBreak c = false := plain c (by rw [head]; exact List.mem_cons_self)
  apply read_ahead_of_none
  unfold lineEnd
  rw [read_orElse_of_none (read_newline_of_stops (by rw [left]; exact stops_cons inside _)),
    read_rule, read_finish_of_cons left]
  rfl

/-- Blanks before the end of the line. -/
theorem read_ending (ends : Ends tail) (plain : Plain line.chars) (follows : Follows line piece) :
    ((star blank).andThen (ahead lineEnd)).read (piece.extend tail) =
      if (piece.dropWhile isBlank).chars.isEmpty then some ([], ⟨line.stop, tail⟩) else none := by
  have left := follows.trans (follows_dropWhile piece isBlank)
  rw [read_andThen_of_some (read_star_blank _), Piece.dropWhile_extend (ends.stops rfl rfl)]
  cases rest : (piece.dropWhile isBlank).chars with
  | nil =>
      rw [read_lineEnd_of_nil ends rest, left.extend_eq rest]
      rfl
  | cons c chars =>
      rw [read_lineEnd_of_cons (left.plain plain) rest]
      rfl

/-! ### Marks on a line -/

theorem read_literal_extend {mark : Char} {chars : List Char} (head : piece.chars = mark :: chars) :
    (literal mark).read (piece.extend tail) = some ([], (piece.drop 1).extend tail) := by
  rw [read_literal_of_cons (Piece.chars_extend_cons head), Piece.drop_one_extend head]

theorem read_literal_extend_of_ne {mark : Char} (ends : Ends tail)
    (inside : isLineBreak mark = false) (different : piece.chars.head? ≠ some mark) :
    (literal mark).read (piece.extend tail) = none :=
  read_literal_of_ne (ends.head?_ne inside different)

theorem read_star_blank_extend (ends : Ends tail) (piece : Piece) :
    (star blank).read (piece.extend tail) = some ([], (piece.dropWhile isBlank).extend tail) := by
  rw [read_star_blank, Piece.dropWhile_extend (ends.stops rfl rfl)]

theorem read_mark_extend {mark : Char} {chars : List Char} (ends : Ends tail)
    (head : (piece.dropWhile isBlank).chars = mark :: chars) :
    ((star blank).andThen (literal mark)).read (piece.extend tail) =
      some ([], ((piece.dropWhile isBlank).drop 1).extend tail) :=
  read_andThen_of_both (read_star_blank_extend ends piece) (read_literal_extend head)

theorem read_mark_extend_of_ne {mark : Char} (ends : Ends tail) (inside : isLineBreak mark = false)
    (different : (piece.dropWhile isBlank).chars.head? ≠ some mark) :
    ((star blank).andThen (literal mark)).read (piece.extend tail) = none :=
  read_andThen_of_second_none (read_star_blank_extend ends piece)
    (read_literal_extend_of_ne ends inside different)

/-! ### Headers -/

def opening : Pattern :=
  (star blank).andThen (literal '#')
    |>.andThen (star blank)
    |>.andThen templateName
    |>.andThen (star blank)

theorem read_opening {chars : List Char} (ends : Ends tail)
    (head : (line.dropWhile isBlank).chars = '#' :: chars) :
    opening.read (line.extend tail) =
      (readName? isNameChar (Header.input line)).map fun result =>
        ([.node .name result.1 []], (result.2.dropWhile isBlank).extend tail) := by
  have marked := read_andThen_of_both (read_mark_extend ends head) (read_star_blank_extend ends _)
  have name := read_templateName ((Header.input line).extend tail)
  rw [readName?_extend ends rfl rfl] at name
  unfold opening
  cases named : readName? isNameChar (Header.input line) with
  | none =>
      rw [named] at name
      exact read_andThen_of_none (read_andThen_of_second_none marked name)
  | some result =>
      rw [named] at name
      exact read_andThen_of_both (read_andThen_of_both marked name) (read_star_blank_extend ends _)

theorem read_parameters {chars : List Char} (ends : Ends tail) (place : Nat)
    (head : piece.chars = '(' :: chars) :
    parameters.read (piece.extend tail) =
      match readParameterList place ((piece.drop 1).dropWhile isBlank) with
      | .error _ => none
      | .ok (parameters, following) =>
        some ([.node .parameters ((piece.extend tail).upTo (following.extend tail))
          (parameters.map fun parameter => .node .parameter parameter [])],
          following.extend tail) := by
  have blanks : Stops isBlank (((piece.drop 1).dropWhile isBlank).extend tail).chars := by
    rw [← Piece.dropWhile_extend (ends.stops rfl rfl)]
    exact stops_dropWhile isBlank _
  have bracket := read_andThen_of_both (@read_literal_extend tail piece _ _ head)
    (read_star_blank_extend ends _)
  unfold parameters
  rw [read_rule, read_andThen_assoc, read_andThen_assoc, read_andThen_of_some bracket]
  have list := read_bracketed place blanks
  rw [readParameterList_extend ends] at list
  unfold closing at list
  rw [list]
  cases readParameterList place ((piece.drop 1).dropWhile isBlank) with
  | error malformed => rfl
  | ok result => rfl

theorem read_parameters_of_ne (ends : Ends tail) (different : piece.chars.head? ≠ some '(') :
    parameters.read (piece.extend tail) = none := by
  apply read_rule_of_none
  iterate 4 apply read_andThen_of_none
  exact read_literal_extend_of_ne ends rfl different

/-- A header whose name and parameters are read is well formed if only blanks are left. -/
theorem tells_header_of_read {tokens : List Token} (ends : Ends tail) (plain : Plain line.chars)
    (follows : Follows line piece)
    (done : (opening.andThen (maybe parameters)).read (line.extend tail) =
      some (tokens, piece.extend tail)) :
    Tells header line tail
      (if (piece.dropWhile isBlank).chars.isEmpty then
        some (.header (Header.ofTokens line tokens))
      else
        none) := by
  have ending := read_ending ends plain follows
  unfold header
  split
  · rename_i used
    rw [if_pos used] at ending
    have whole := read_andThen_of_both done ending
    rw [← read_andThen_assoc, List.append_nil] at whole
    exact tells_rule whole rfl
  · rename_i used
    rw [if_neg used] at ending
    have failed := read_andThen_of_second_none done ending
    rw [← read_andThen_assoc] at failed
    exact read_rule_of_none failed

section

variable {name rest : Piece} {chars : List Char}

theorem follows_name (named : readName? isNameChar (Header.input line) = some (name, rest)) :
    Follows line (rest.dropWhile isBlank) := by
  have persists := persists_follows line
  have input := persists.afterMark (Follows.refl line)
  exact persists.dropWhile (persists.readName? input named) isBlank

theorem follows_listed {opening : Nat} {parameters : List Piece} {following : Piece}
    (named : readName? isNameChar (Header.input line) = some (name, rest))
    (list : readParameterList opening (((rest.dropWhile isBlank).drop 1).dropWhile isBlank) =
      .ok (parameters, following)) : Follows line following := by
  have persists := persists_follows line
  have inside := persists.dropWhile (persists.drop (follows_name named) 1) isBlank
  exact persists.readParameterList inside list

/-- Without a list of parameters the header has to end after its name. -/
theorem tells_header_of_bare (ends : Ends tail) (plain : Plain line.chars)
    (head : (line.dropWhile isBlank).chars = '#' :: chars)
    (named : readName? isNameChar (Header.input line) = some (name, rest))
    (absent : parameters.read ((rest.dropWhile isBlank).extend tail) = none) :
    Tells header line tail
      (if (rest.dropWhile isBlank).chars.isEmpty then some (.header ⟨name, []⟩) else none) := by
  have started := read_opening ends head
  rw [named] at started
  have told := tells_header_of_read ends plain (follows_name named)
    (read_andThen_of_both started (read_maybe_of_none absent))
  rw [Piece.dropWhile_of_stops (stops_dropWhile isBlank rest.chars)] at told
  exact told

/-- A header with a list of parameters has to end after the list. -/
theorem tells_header_of_listed {mark : List Char} {parameters : List Piece} {following : Piece}
    (ends : Ends tail) (plain : Plain line.chars)
    (head : (line.dropWhile isBlank).chars = '#' :: chars)
    (named : readName? isNameChar (Header.input line) = some (name, rest))
    (bracket : (rest.dropWhile isBlank).chars = '(' :: mark)
    (list : readParameterList (rest.dropWhile isBlank).start
      (((rest.dropWhile isBlank).drop 1).dropWhile isBlank) = .ok (parameters, following)) :
    Tells header line tail
      (if (following.dropWhile isBlank).chars.isEmpty then
        some (.header ⟨name, parameters⟩)
      else
        none) := by
  have started := read_opening ends head
  rw [named] at started
  have listed := read_parameters ends (rest.dropWhile isBlank).start bracket
  rw [list] at listed
  have told := tells_header_of_read ends plain (follows_listed named list)
    (read_andThen_of_both started (read_maybe_of_some listed))
  rw [List.singleton_append, Header.ofTokens_eq] at told
  exact told

theorem tells_header (ends : Ends tail) (plain : Plain line.chars)
    (head : (line.dropWhile isBlank).chars = '#' :: chars) :
    Tells header line tail ((Header.ofLine line).toOption.map .header) := by
  cases named : readName? isNameChar (Header.input line) with
  | none =>
      have started := read_opening ends head
      rw [named] at started
      rw [Header.ofLine_of_nameless named]
      apply read_rule_of_none
      iterate 3 apply read_andThen_of_none
      exact started
  | some result =>
      obtain ⟨name, rest⟩ := result
      have bare := tells_header_of_bare ends plain head named
      rw [Header.ofLine_of_named named]
      cases mark : (rest.dropWhile isBlank).chars with
      | nil =>
          rw [mark] at bare
          exact bare (read_parameters_of_ne ends (by rw [mark]; nofun))
      | cons c chars =>
          rw [mark] at bare
          by_cases bracket : c = '('
          · subst bracket
            simp only
            cases list : readParameterList (rest.dropWhile isBlank).start
                (((rest.dropWhile isBlank).drop 1).dropWhile isBlank) with
            | error malformed =>
                have unlisted := read_parameters ends (rest.dropWhile isBlank).start mark
                rw [list] at unlisted
                exact bare unlisted
            | ok result =>
                have told := tells_header_of_listed ends plain head named mark list
                simp only
                split
                · rename_i used
                  rw [if_pos used] at told
                  exact told
                · rename_i used
                  rw [if_neg used] at told
                  exact told
          · have told := bare (read_parameters_of_ne ends (by
              rw [mark]
              exact fun same => bracket (Option.some.inj same)))
            simpa [bracket] using told

end

theorem tells_header_of_ne (ends : Ends tail)
    (different : (line.dropWhile isBlank).chars.head? ≠ some '#') :
    Tells header line tail none := by
  apply read_rule_of_none
  iterate 6 apply read_andThen_of_none
  exact read_mark_extend_of_ne ends rfl different

/-! ### Imports -/

/-- On a line, the characters up to a mark are those that are no mark and no line break. -/
theorem until_extend {mark : Char} (ends : Ends tail) (plain : Plain piece.chars) :
    (piece.extend tail).takeWhile (fun c => !(c == mark || isLineBreak c)) =
        piece.takeWhile (· != mark) ∧
      (piece.extend tail).dropWhile (fun c => !(c == mark || isLineBreak c)) =
        (piece.dropWhile (· != mark)).extend tail := by
  have stops : Stops (fun c => !(c == mark || isLineBreak c)) tail := by
    intro c head
    simp [ends c head]
  have same : ∀ c ∈ piece.chars, (!(c == mark || isLineBreak c)) = (c != mark) := by
    intro c member
    rw [plain c member, Bool.or_false]
    rfl
  rw [Piece.takeWhile_extend stops, Piece.dropWhile_extend stops]
  unfold Piece.takeWhile Piece.dropWhile
  rw [takeWhile_congr same, dropWhile_congr same]
  exact ⟨rfl, rfl⟩

theorem read_label (ends : Ends tail) (plain : Plain piece.chars) :
    label.read (piece.extend tail) =
      some ([.node .label (piece.takeWhile (· != ']')) []],
        (piece.dropWhile (· != ']')).extend tail) := by
  obtain ⟨taken, left⟩ := @until_extend tail piece ']' ends plain
  unfold label
  rw [read_rule, read_star_congr (read_until ']'), read_star_char, Option.map_some,
    Piece.upTo_dropWhile, taken, left]

theorem read_path (ends : Ends tail) (plain : Plain piece.chars) :
    path.read (piece.extend tail) =
      if (piece.takeWhile (· != ')')).chars.isEmpty then
        none
      else
        some ([.node .path (piece.takeWhile (· != ')')) []],
          (piece.dropWhile (· != ')')).extend tail) := by
  obtain ⟨taken, left⟩ := @until_extend tail piece ')' ends plain
  have same : (plus ((notAhead ((literal ')').orElse newline)).andThen anything)).read =
      (plus (char fun c => !(c == ')' || isLineBreak c))).read :=
    read_andThen_congr (read_until ')') (read_star_congr (read_until ')'))
  unfold path
  rw [read_rule, same, read_plus_char]
  change Option.map _ (if (Piece.takeWhile _ _).chars.isEmpty = true then _ else _) = _
  rw [taken]
  split
  · rfl
  · rw [Option.map_some, Piece.upTo_dropWhile, taken, left]

def labelled : Pattern :=
  (star blank).andThen (literal '[')
    |>.andThen label
    |>.andThen (literal ']')
    |>.andThen (literal '(')

/-- An import whose label is read is well formed if a path in brackets and nothing else follows. -/
theorem tells_imported_of_read {name target : Piece} (ends : Ends tail) (plain : Plain line.chars)
    (follows : Follows line target)
    (done : labelled.read (line.extend tail) =
      some ([.node .label name []], target.extend tail)) :
    Tells imported line tail (Option.map .imported
      (match target.chars.dropWhile (· != ')') with
      | ')' :: rest =>
        if (target.chars.takeWhile (· != ')')).isEmpty || !rest.all isBlank then
          none
        else
          some ⟨name.chars, trim (target.chars.takeWhile (· != ')')), line⟩
      | _ => none)) := by
  have named := read_path ends (follows.plain plain)
  by_cases empty : (target.chars.takeWhile (· != ')')).isEmpty = true
  · have none : Tells imported line tail none := by
      rw [Piece.takeWhile, if_pos empty] at named
      apply read_rule_of_none
      iterate 3 apply read_andThen_of_none
      exact read_andThen_of_second_none done named
    rw [empty]
    split
    · exact none
    · exact none
  · rw [Piece.takeWhile, if_neg empty] at named
    have pathed := read_andThen_of_both done named
    split
    · rename_i rest closes
      have closed := read_andThen_of_both pathed (read_literal_extend closes)
      have after := (follows.trans (follows_dropWhile target (· != ')'))).trans (follows_drop _ 1)
      have ending := read_ending ends plain after
      have left : (((target.dropWhile (· != ')')).drop 1).dropWhile isBlank).chars.isEmpty =
          rest.all isBlank := by
        rw [Piece.chars_dropWhile, isEmpty_dropWhile, Piece.chars_drop_one closes]
      rw [left] at ending
      rw [eq_false_of_ne_true empty, Bool.false_or]
      cases blanks : rest.all isBlank with
      | true =>
          rw [blanks] at ending
          have whole := read_andThen_of_both closed ending
          rw [← read_andThen_assoc] at whole
          exact tells_rule whole rfl
      | false =>
          rw [blanks] at ending
          have failed := read_andThen_of_second_none closed ending
          rw [← read_andThen_assoc] at failed
          exact read_rule_of_none failed
    · rename_i unclosed
      apply read_rule_of_none
      iterate 2 apply read_andThen_of_none
      apply read_andThen_of_second_none pathed
      apply read_literal_extend_of_ne ends rfl
      intro marked
      obtain ⟨rest, closes⟩ := List.head?_eq_some_iff.mp marked
      exact unclosed rest closes

theorem tells_imported (ends : Ends tail) (plain : Plain line.chars) :
    Tells imported line tail ((Import.ofLine? line).map .imported) := by
  unfold Import.ofLine?
  split
  · rename_i inside opened
    have afterOpen := (follows_dropWhile line isBlank).trans (follows_drop _ 1)
    have same : ((line.dropWhile isBlank).drop 1).chars = inside := Piece.chars_drop_one opened
    have started := read_andThen_of_both (read_mark_extend ends opened)
      (read_label ends (afterOpen.plain plain))
    have afterLabel := afterOpen.trans (follows_dropWhile _ (· != ']'))
    subst same
    split
    · rename_i target closes
      have closed := read_andThen_of_both started (read_literal_extend closes)
      have bracket : ((((line.dropWhile isBlank).drop 1).dropWhile (· != ']')).drop 1).chars =
          '(' :: target := Piece.chars_drop_one closes
      have whole := read_andThen_of_both closed (read_literal_extend bracket)
      have told := tells_imported_of_read ends plain
        ((afterLabel.trans (follows_drop _ 1)).trans (follows_drop _ 1)) whole
      rw [Piece.chars_drop_one bracket] at told
      exact told
    · rename_i unclosed
      apply read_rule_of_none
      iterate 4 apply read_andThen_of_none
      by_cases marked : (((line.dropWhile isBlank).drop 1).dropWhile (· != ']')).chars.head? =
          some ']'
      · obtain ⟨rest, closes⟩ := List.head?_eq_some_iff.mp marked
        apply read_andThen_of_second_none
          (read_andThen_of_both started (read_literal_extend closes))
        apply read_literal_extend_of_ne ends rfl
        rw [Piece.chars_drop_one closes]
        intro bracket
        obtain ⟨target, more⟩ := List.head?_eq_some_iff.mp bracket
        exact unclosed target (by rw [← more]; exact closes)
      · exact read_andThen_of_none (read_andThen_of_second_none started
          (read_literal_extend_of_ne ends rfl marked))
  · rename_i unopened
    apply read_rule_of_none
    iterate 7 apply read_andThen_of_none
    apply read_mark_extend_of_ne ends rfl
    intro marked
    obtain ⟨inside, opened⟩ := List.head?_eq_some_iff.mp marked
    exact unopened inside opened

/-! ### Comments and body lines -/

theorem read_restOfLine (ends : Ends tail) (plain : Plain piece.chars) :
    restOfLine.read (piece.extend tail) = some ([.node .rest piece []], ⟨piece.stop, tail⟩) := by
  have inside : ∀ c ∈ piece.chars, (!isLineBreak c) = true := by
    intro c member
    rw [plain c member]
    rfl
  have stops : Stops (fun c => !isLineBreak c) tail := ends.stops rfl rfl
  have rest : (piece.extend tail).dropWhile (fun c => !isLineBreak c) = ⟨piece.stop, tail⟩ := by
    unfold Piece.dropWhile
    rw [Piece.chars_extend, takeWhile_append_of_all inside stops,
      dropWhile_append_of_all inside stops]
    rfl
  unfold restOfLine
  rw [read_rule, read_star_congr read_untilBreak, read_star_char, rest, Option.map_some,
    Piece.upTo_extend]

theorem tells_comment (ends : Ends tail) (plain : Plain line.chars) :
    Tells comment line tail
      (if (line.chars.dropWhile isBlank).head? = some '>' then some (.comment line) else none) := by
  split
  · rename_i marked
    obtain ⟨chars, head⟩ := List.head?_eq_some_iff.mp marked
    have follows := (follows_dropWhile line isBlank).trans (follows_drop _ 1)
    have whole := read_andThen_of_both (read_mark_extend ends head)
      (read_restOfLine ends (follows.plain plain))
    rw [follows.stop] at whole
    exact tells_rule whole rfl
  · rename_i unmarked
    exact read_rule_of_none (read_andThen_of_none (read_mark_extend_of_ne ends rfl unmarked))

theorem tells_body (ends : Ends tail) (plain : Plain line.chars) :
    Tells body line tail
      (if (line.chars.dropWhile isBlank).head? = some '#' then none else some (.body line)) := by
  split
  · rename_i marked
    obtain ⟨chars, head⟩ := List.head?_eq_some_iff.mp marked
    exact read_rule_of_none
      (read_andThen_of_none (read_notAhead_of_some (read_mark_extend ends head)))
  · rename_i unmarked
    have free := read_notAhead_of_none (read_mark_extend_of_ne ends rfl unmarked)
    exact tells_rule (read_andThen_of_both free (read_restOfLine ends plain)) rfl

/-! ### Lines -/

/-- The grammar classifies a line as the reader does. -/
theorem tells_line (ends : Ends tail) (plain : Plain line.chars) :
    Tells Pattern.line line tail (Entry.ofLine line).toOption := by
  have imports := tells_imported ends plain
  have comments := tells_comment ends plain
  have bodies := tells_body ends plain
  unfold Entry.ofLine
  split
  · rename_i marked
    obtain ⟨chars, head⟩ := List.head?_eq_some_iff.mp marked
    have told := (((tells_header ends plain head).orElse imports).orElse comments).orElse bodies
    rw [Import.ofLine?_of_ne (by rw [marked]; decide), marked] at told
    cases read : Header.ofLine line with
    | error malformed =>
        rw [read] at told
        exact told
    | ok header =>
        rw [read] at told
        exact told
  · rename_i marked
    have headers := tells_header_of_ne ends (by rw [Piece.chars_dropWhile, marked]; decide)
    have told := ((headers.orElse imports).orElse comments).orElse bodies
    rw [Import.ofLine?_of_ne (by rw [marked]; decide), marked] at told
    exact told
  · rename_i header comment
    have headers := tells_header_of_ne ends header
    have told := ((headers.orElse imports).orElse comments).orElse bodies
    rw [if_neg header, if_neg comment] at told
    cases read : Import.ofLine? line with
    | none =>
        rw [read] at told
        exact told
    | some declaration =>
        rw [read] at told
        exact told

end Pattern

end TemplateServer.Grammar
