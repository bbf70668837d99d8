import TemplateServer.Proofs.Check.Expression
import TemplateServer.Proofs.Grammar.Malformed
import TemplateServer.Proofs.Text.Line

/-!
The ranges of diagnostics. Each problem is with a piece of the text: a name, a parameter, a called
name, an expression, a line without the white space at its end, or the whole line of an import. Main
statement: the range of every diagnostic lies on one line and leads back to the two ends of the
piece that its problem is with; that of a failure leads to a piece of the text, too.
-/

namespace TemplateServer

open Text Grammar Expression

/-! ### Ranges on one line -/

namespace Text

/-- Whether a range leads to the two ends of a piece of the text, without leaving the line. -/
structure Range.Marks (text : List Char) (piece : Piece) (range : Range) : Prop where
  within : piece.Within ⟨0, text⟩
  start : offsetOf? text range.start = some piece.start
  stop : offsetOf? text range.stop = some piece.stop
  line : range.start.line = range.stop.line
  ordered : range.start.le range.stop = true

theorem Piece.Within.marks {text : List Char} {piece : Piece} (within : piece.Within ⟨0, text⟩)
    (plain : '\n' ∉ piece.chars) : (piece.range text).Marks text piece := by
  obtain ⟨start, stop⟩ := within.offsetOf?_range
  obtain ⟨before, after, whole, size⟩ := within
  change text = _ at whole
  change piece.start = 0 + bytes before at size
  have first : (piece.range text).start = before.foldl Position.next Position.zero := by
    change positionOf text piece.start = _
    rw [size, Nat.zero_add, whole, positionOf_append]
  have second : (piece.range text).stop =
      ⟨(piece.range text).start.line, (piece.range text).start.character + units piece.chars⟩ := by
    change positionOf text piece.stop = _
    have reached : piece.stop = bytes (before ++ piece.chars) := by
      unfold Piece.stop
      rw [size, Nat.zero_add, bytes_append]
    rw [reached, whole, ← List.append_assoc, positionOf_append, List.foldl_append,
      foldl_next_of_plain plain, List.append_assoc, ← whole, ← first]
  refine ⟨⟨before, after, whole, size⟩, start, stop, by rw [second], ?_⟩
  rw [second]
  simp [Position.le]

end Text

/-! ### Failures -/

theorem exists_lineEnd {above : List Char} (starts : ∀ c, above.getLast? = some c → c = '\n')
    (rest : List Char) :
    ∃ content more, lineEnd? (above ++ rest) (above.count '\n') = some (bytes (above ++ content)) ∧
      rest = content ++ more ∧ '\n' ∉ content := by
  obtain ⟨turns, trimmed, _⟩ :=
    exists_dropEndWhile_append (· == '\r') (rest.takeWhile (· != '\n'))
  refine ⟨dropEndWhile (· == '\r') (rest.takeWhile (· != '\n')),
    turns ++ rest.dropWhile (· != '\n'), ?_, ?_, ?_⟩
  · unfold lineEnd?
    rw [splitLine?_append starts, bytes_append]
    rfl
  · rw [← List.append_assoc, ← trimmed, List.takeWhile_append_dropWhile]
  · intro member
    apply not_mem_takeWhile_ne '\n' rest
    rw [trimmed]
    exact List.mem_append_left turns member

/-- The diagnostic of a failure marks the rest of the line from the place of the failure on, or
nothing at that place. -/
theorem Failure.exists_marks (text : List Char) (failure : Failure) :
    ∃ piece, (failure.toDiagnostic text).range.Marks text piece ∧
      piece.start = bytes (fitting failure.offset text) := by
  obtain ⟨after, whole⟩ := fitting_prefix failure.offset text
  obtain ⟨above, current, same, starts, plain, reached⟩ :=
    exists_lastLine (fitting failure.offset text)
  have position : positionOf text failure.offset = ⟨above.count '\n', units current⟩ := reached
  have parts : text = above ++ (current ++ after) := by
    rw [← whole, same, List.append_assoc]
  obtain ⟨content, more, found, cut, unbroken⟩ := exists_lineEnd starts (current ++ after)
  rw [← parts] at found
  have range : (failure.toDiagnostic text).range = ⟨positionOf text failure.offset,
      positionOf text (max (bytes (above ++ content)) failure.offset)⟩ := by
    unfold Failure.toDiagnostic
    simp only [position, found]
  -- the offset may lie among the carriage returns at the end of the line, past what is marked
  by_cases late : bytes (above ++ content) ≤ failure.offset
  · have within : Piece.Within ⟨bytes (fitting failure.offset text), []⟩ ⟨0, text⟩ :=
      ⟨fitting failure.offset text, after, whole.symm, (Nat.zero_add _).symm⟩
    have marks := within.marks List.not_mem_nil
    refine ⟨⟨bytes (fitting failure.offset text), []⟩, ?_, rfl⟩
    unfold Piece.range rangeOf Piece.stop at marks
    rw [bytes_nil, Nat.add_zero, positionOf_fitting] at marks
    rw [range, Nat.max_eq_right late]
    exact marks
  · have early : bytes (fitting failure.offset text) ≤ bytes (above ++ content) := by
      have fits := bytes_fitting_le failure.offset text
      omega
    have ahead : fitting failure.offset text ++ after = (above ++ content) ++ more := by
      rw [whole, parts, cut, List.append_assoc]
    obtain ⟨middle, longer, remains⟩ := exists_append_of_bytes_le ahead early
    have within : Piece.Within ⟨bytes (fitting failure.offset text), middle⟩ ⟨0, text⟩ := by
      refine ⟨fitting failure.offset text, more, ?_, (Nat.zero_add _).symm⟩
      change text = _
      rw [← remains, whole]
    have unbrokenMiddle : '\n' ∉ middle := by
      intro member
      rw [same, List.append_assoc] at longer
      apply unbroken
      rw [List.append_cancel_left longer]
      exact List.mem_append_right current member
    have marks := within.marks unbrokenMiddle
    refine ⟨⟨bytes (fitting failure.offset text), middle⟩, ?_, rfl⟩
    unfold Piece.range rangeOf Piece.stop at marks
    rw [← bytes_append, ← longer, positionOf_fitting] at marks
    rw [range, Nat.max_eq_left (by omega)]
    exact marks

/-! ### What problems are with -/

def Problem.Concerns (outline : Outline) (subject : Piece) : Problem → Prop
  | .strayContent => ∃ line ∈ outline.strays, subject = ⟨line.start, trimEnd line.chars⟩
  | .repeatedImport path label => ∃ declaration ∈ outline.imports, declaration.Records subject ∧
      String.ofList declaration.path = path ∧ String.ofList declaration.label = label
  | .repeatedTemplate name => subject.text = name ∧
      ∃ part ∈ outline.sections, part.header.name = subject
  | .emptyTemplate name => subject.text = name ∧
      ∃ part ∈ outline.sections, part.header.name = subject
  | .repeatedParameter parameter template => subject.text = parameter ∧
      ∃ part ∈ outline.sections, part.name = template ∧ subject ∈ part.header.parameters
  | .unclosedExpression expression => subject.text = expression ∧
      ∃ part ∈ outline.sections, ∃ line ∈ part.lines, UnclosedIn line subject
  | .unknownFunction name => subject.text = name ∧
      (∃ part ∈ outline.sections, ∃ line ∈ part.lines, CallIn line subject) ∧
      ¬Check.Known (outline.sections.map Section.name) name

namespace Check

variable {outline : Outline} {finding : Finding}

def Sound (outline : Outline) (finding : Finding) : Prop :=
  ∃ subject, finding = .about finding.problem subject ∧ finding.problem.Concerns outline subject

theorem mem_of_mem_repeats {α β : Type} [DecidableEq β] {key : α → β} {seen : List β}
    {items : List α} {item : α} (member : item ∈ repeats key seen items) : item ∈ items := by
  induction items generalizing seen with
  | nil => cases member
  | cons head tail ih =>
      rw [repeats] at member
      split at member
      · rcases List.mem_cons.mp member with same | later
        · rw [same]
          exact List.mem_cons_self
        · exact List.mem_cons_of_mem head (ih later)
      · exact List.mem_cons_of_mem head (ih member)

theorem sound_of_mem_lineFindings {part : Section} (listed : part ∈ outline.sections) {line : Piece}
    (inside : line ∈ part.lines)
    (member : finding ∈ lineFindings (outline.sections.map Section.name) line) :
    Sound outline finding := by
  obtain ⟨⟨offset, segment⟩, located, found⟩ := List.mem_flatMap.mp member
  cases segment with
  | escape c => cases found
  | plain c => cases found
  | closed content =>
      obtain ⟨call, selected, rfl⟩ := List.mem_map.mp found
      obtain ⟨called, unresolved⟩ := List.mem_filter.mp selected
      have stands : CallIn line call :=
        mem_lineCalls.mp (List.mem_flatMap.mpr ⟨_, located, called⟩)
      refine ⟨call, rfl, rfl, ⟨part, listed, line, inside, stands⟩, ?_⟩
      intro known
      rw [resolves_iff.mpr known] at unresolved
      cases unresolved
  | unclosed rest =>
      obtain ⟨before, chars, passes, never, rfl⟩ := mem_locate_unclosed.mp located
      have same := List.mem_singleton.mp found
      subst same
      exact ⟨⟨_, _⟩, rfl, rfl, part, listed, line, inside, before, rest, chars, passes, never, rfl⟩

theorem sound_of_mem_sectionFindings {earlier : List String} {part : Section}
    (listed : part ∈ outline.sections)
    (member : finding ∈ sectionFindings (outline.sections.map Section.name) earlier part) :
    Sound outline finding := by
  unfold sectionFindings at member
  simp only [List.mem_append] at member
  rcases member with ((repeated | parameters) | hollow) | lines
  · split at repeated
    · have same := List.mem_singleton.mp repeated
      subst same
      exact ⟨part.header.name, rfl, rfl, part, listed, rfl⟩
    · cases repeated
  · obtain ⟨parameter, again, rfl⟩ := List.mem_map.mp parameters
    exact ⟨parameter, rfl, rfl, part, listed, rfl, mem_of_mem_repeats again⟩
  · split at hollow
    · have same := List.mem_singleton.mp hollow
      subst same
      exact ⟨part.header.name, rfl, rfl, part, listed, rfl⟩
    · cases hollow
  · obtain ⟨line, inside, found⟩ := List.mem_flatMap.mp lines
    exact sound_of_mem_lineFindings listed inside found

theorem mem_sectionsFindings {templates earlier : List String} {parts : List Section}
    (member : finding ∈ sectionsFindings templates earlier parts) :
    ∃ part ∈ parts, ∃ before, finding ∈ sectionFindings templates before part := by
  induction parts generalizing earlier with
  | nil => cases member
  | cons part parts ih =>
      rw [sectionsFindings] at member
      rcases List.mem_append.mp member with first | later
      · exact ⟨part, List.mem_cons_self, earlier, first⟩
      · obtain ⟨other, listed, before, found⟩ := ih later
        exact ⟨other, List.mem_cons_of_mem part listed, before, found⟩

theorem sound_of_mem_findings {front : List Piece} {blocks : List Block}
    (covers : outline.Covers front blocks) (member : finding ∈ findings outline) :
    Sound outline finding := by
  unfold findings at member
  simp only [List.mem_append] at member
  rcases member with (strays | imports) | sections
  · obtain ⟨line, listed, rfl⟩ := List.mem_map.mp strays
    exact ⟨_, rfl, line, listed, rfl⟩
  · obtain ⟨declaration, again, rfl⟩ := List.mem_map.mp imports
    have listed := mem_of_mem_repeats again
    obtain ⟨line, _, records⟩ := mem_of_forall₂ covers.imports listed
    have whole : declaration.Records declaration.line := by
      rw [records.1]
      exact records
    exact ⟨declaration.line, rfl, declaration, listed, whole, rfl, rfl⟩
  · obtain ⟨part, listed, before, found⟩ := mem_sectionsFindings sections
    exact sound_of_mem_sectionFindings listed found

end Check

theorem Expression.UnclosedIn.within {line expression : Piece}
    (stands : UnclosedIn line expression) : expression.Within line := by
  obtain ⟨before, rest, chars, _, _, same⟩ := stands
  refine ⟨before, [], ?_, ?_⟩
  · rw [chars, same, List.append_nil]
  · rw [same]

/-- What a problem is with is part of what the outline records. -/
theorem Problem.Concerns.within_piece {outline : Outline} {subject : Piece} {problem : Problem}
    (concerns : problem.Concerns outline subject) :
    ∃ piece ∈ outline.pieces, subject.Within piece := by
  have header {part : Section} (listed : part ∈ outline.sections) {piece : Piece}
      (member : piece ∈ part.header.name :: part.header.parameters) : piece ∈ outline.pieces :=
    List.mem_append_right _ (List.mem_flatMap.mpr ⟨part, listed, List.mem_append_left _ member⟩)
  have body {part : Section} (listed : part ∈ outline.sections) {line : Piece}
      (member : line ∈ part.lines) : line ∈ outline.pieces :=
    List.mem_append_right _ (List.mem_flatMap.mpr ⟨part, listed, List.mem_append_right _ member⟩)
  cases problem with
  | strayContent =>
      obtain ⟨line, listed, same⟩ := concerns
      obtain ⟨dropped, whole, _⟩ := exists_dropEndWhile_append isWhiteSpace line.chars
      refine ⟨line, List.mem_append_left _ (List.mem_append_left _ listed), [], dropped, ?_, ?_⟩
      · rw [same]
        exact whole
      · rw [same]
        rfl
  | repeatedImport path label =>
      obtain ⟨declaration, listed, records, _⟩ := concerns
      have member : declaration.line ∈ outline.imports.map Import.line :=
        List.mem_map.mpr ⟨declaration, listed, rfl⟩
      rw [records.1] at member
      exact ⟨subject, List.mem_append_left _ (List.mem_append_right _ member), subject.within_self⟩
  | repeatedTemplate name =>
      obtain ⟨_, part, listed, same⟩ := concerns
      rw [← same]
      exact ⟨_, header listed List.mem_cons_self, Piece.within_self _⟩
  | emptyTemplate name =>
      obtain ⟨_, part, listed, same⟩ := concerns
      rw [← same]
      exact ⟨_, header listed List.mem_cons_self, Piece.within_self _⟩
  | repeatedParameter parameter template =>
      obtain ⟨_, part, listed, _, member⟩ := concerns
      exact ⟨subject, header listed (List.mem_cons_of_mem _ member), subject.within_self⟩
  | unclosedExpression expression =>
      obtain ⟨_, part, listed, line, member, stands⟩ := concerns
      exact ⟨line, body listed member, stands.within⟩
  | unknownFunction name =>
      obtain ⟨_, ⟨part, listed, line, member, stands⟩, _⟩ := concerns
      exact ⟨line, body listed member, stands.within⟩

/-! ### The main statement -/

theorem Problem.Concerns.marks {text : List Char} {outline : Outline}
    (read : Outline.ofText text = .ok outline) {subject : Piece} {problem : Problem}
    (concerns : problem.Concerns outline subject) : (subject.range text).Marks text subject := by
  obtain ⟨front, blocks, apart, covers⟩ := covers_ofText read
  obtain ⟨piece, recorded, inside⟩ := concerns.within_piece
  obtain ⟨line, listed, within⟩ := covers.within_line recorded
  have whole := inside.trans within
  apply (whole.trans (apart.picks.within line listed)).marks
  intro feed
  obtain ⟨before, after, chars, _⟩ := whole
  apply (apart.plain line listed).not_mem.2
  rw [chars]
  exact List.mem_append_right before (List.mem_append_left after feed)

/-- Every diagnostic lies on one line and covers a piece of the text, which for the diagnostics of a
text that has an outline is the one that the problem is with. It is sent with its range as it is if
the text takes less than 2 ^ 32 bytes. -/
theorem Reading.ofText_marks_subjects (source : String) {text : String} {diagnostic : Diagnostic}
    (reported : diagnostic ∈ (Reading.ofText source text).diagnostics) :
    (∃ subject, diagnostic.range.Marks text.toList subject ∧
      match Outline.ofText text.toList with
      | .error fault => diagnostic.severity = .error ∧
          diagnostic.message = "Syntax error: expected " ++ Rule.enumerate fault.expected
      | .ok outline => ∃ problem : Problem, diagnostic.severity = problem.severity ∧
          diagnostic.message = problem.message ∧ problem.Concerns outline subject) ∧
    (bytes text.toList < UInt32.size → diagnostic.range.wrapped = diagnostic.range) := by
  refine ⟨?_, fun small => Reading.wrapped_range small reported⟩
  unfold Reading.ofText at reported
  cases read : Outline.ofText text.toList with
  | error fault =>
      rw [read] at reported
      have same := List.mem_singleton.mp reported
      subst same
      obtain ⟨piece, marks, _⟩ := (Failure.ofAttempts fault).exists_marks text.toList
      refine ⟨piece, marks, rfl, ?_⟩
      change "Syntax error: " ++ fault.reason = _
      rw [reason_of_ofText read, ← String.append_assoc]
      rfl
  | ok outline =>
      rw [read] at reported
      obtain ⟨front, blocks, apart, covers⟩ := covers_ofText read
      obtain ⟨finding, found, same⟩ := List.mem_map.mp (List.mem_mergeSort.mp reported)
      obtain ⟨subject, about, concerns⟩ := Check.sound_of_mem_findings covers found
      have marks := concerns.marks read
      refine ⟨subject, ?_, finding.problem, ?_, ?_, concerns⟩
      · rw [← same, about]
        exact marks
      · rw [← same]
        rfl
      · rw [← same]
        rfl

/-- A text with a problem of each kind, where the called name comes after a character that takes two
columns and four bytes. -/
theorem marked_after_wide_character :
    ∃ outline,
      Outline.ofText "é\u3000\n[l](f)\n[m]( f )\n# T(p, p)\n# T\n- 😀$\x7bnope()\x7d $\x7bok".toList =
        .ok outline ∧
      (Check.findings outline).map Finding.problem =
        [.strayContent, .repeatedImport "f" "m", .repeatedParameter "p" "T", .emptyTemplate "T",
          .repeatedTemplate "T", .unknownFunction "nope", .unclosedExpression "$\x7bok"] ∧
      ∃ subject, Range.Marks
          "é\u3000\n[l](f)\n[m]( f )\n# T(p, p)\n# T\n- 😀$\x7bnope()\x7d $\x7bok".toList subject
          ⟨⟨5, 6⟩, ⟨5, 10⟩⟩ ∧
        ∃ problem : Problem, Severity.error = problem.severity ∧
          "\x27nope\x27 is neither a template nor a builtin function" = problem.message ∧
          problem.Concerns outline subject := by
  have read : Outline.ofText
      "é\u3000\n[l](f)\n[m]( f )\n# T(p, p)\n# T\n- 😀$\x7bnope()\x7d $\x7bok".toList =
      .ok ⟨[⟨0, ['é', '\u3000']⟩],
        [⟨⟨⟨24, ['T']⟩, [⟨26, ['p']⟩, ⟨29, ['p']⟩]⟩, []⟩,
          ⟨⟨⟨34, ['T']⟩, []⟩, [⟨36, "- 😀$\x7bnope()\x7d $\x7bok".toList⟩]⟩],
        [⟨['l'], ['f'], ⟨6, "[l](f)".toList⟩⟩, ⟨['m'], ['f'], ⟨13, "[m]( f )".toList⟩⟩]⟩ := by
    decide +kernel
  have reported : ⟨.error, ⟨⟨5, 6⟩, ⟨5, 10⟩⟩,
        "\x27nope\x27 is neither a template nor a builtin function"⟩ ∈
      (Reading.ofText ""
        "é\u3000\n[l](f)\n[m]( f )\n# T(p, p)\n# T\n- 😀$\x7bnope()\x7d $\x7bok").diagnostics := by
    unfold Reading.ofText
    rw [read]
    exact List.mem_mergeSort.mpr (by decide +kernel)
  have marked := (Reading.ofText_marks_subjects "" reported).1
  rw [read] at marked
  exact ⟨_, read, by decide +kernel, marked⟩

end TemplateServer
