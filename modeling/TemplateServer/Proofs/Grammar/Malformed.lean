import TemplateServer.Proofs.Grammar.Account

/-!
Where a text fails to read. Main statement: a text that fails to read fails at the first of its
lines that starts like a header and is none, at a place on that line after the mark.
-/

namespace TemplateServer.Grammar

open Text

/-- Whether a header is reported where some part of a piece starts, for lack of a name, a parameter,
the end of the line or a list of parameters in its place. -/
structure Attempts.On (piece : Piece) (fault : Attempts) : Prop where
  place : ∃ rest : Piece, rest.Within piece ∧ fault.offset = rest.start
  lacking : fault.expected ∈ [[.name], [.parameter], [.finish], [.parameters, .finish]]
  unexpected : fault.unexpected = []

variable {fault : Attempts} {line input piece inner outer name rest : Piece} {opening : Nat}
  {continues : Char → Bool}

theorem Attempts.on_of_within {rules : List Rule} (within : inner.Within outer)
    (lacking : rules ∈ [[.name], [.parameter], [.finish], [.parameters, .finish]]) :
    Attempts.On outer ⟨inner.start, rules, []⟩ :=
  ⟨⟨inner, within, rfl⟩, lacking, rfl⟩

theorem Attempts.On.widen (reported : fault.On inner) (within : inner.Within outer) :
    fault.On outer := by
  obtain ⟨rest, inside, same⟩ := reported.place
  exact { reported with place := ⟨rest, inside.trans within, same⟩ }

theorem Attempts.On.bounds (reported : fault.On piece) :
    piece.start ≤ fault.offset ∧ fault.offset ≤ piece.stop := by
  obtain ⟨rest, inside, same⟩ := reported.place
  have first := inside.start_le
  have last := inside.stop_le
  unfold Piece.stop at last ⊢
  omega

theorem Attempts.On.reason_eq (reported : fault.On piece) :
    fault.reason = "expected " ++ Rule.enumerate fault.expected := by
  obtain ⟨offset, expected, unexpected⟩ := fault
  obtain rfl : unexpected = [] := reported.unexpected
  have lacking : expected ∈ _ := reported.lacking
  cases expected with
  | nil => simp at lacking
  | cons rule rules => rfl

theorem within_afterMark (named : readName? continues input = some (name, rest)) :
    (rest.dropWhile isBlank).Within input ∧
      (((rest.dropWhile isBlank).drop 1).dropWhile isBlank).Within input := by
  have persists := persists_within input
  have blanks := persists.dropWhile (persists.readName? input.within_self named) isBlank
  exact ⟨blanks, persists.dropWhile (persists.drop blanks 1) isBlank⟩

theorem within_readParameterList {parameters : List Piece} {following : Piece}
    (done : readParameterList opening input = .ok (parameters, following)) :
    following.Within input :=
  (persists_within input).readParameterList input.within_self done

/-- A list of parameters fails where a parameter is missing, or else where the list opens. -/
theorem readParameters_error (failed : readParameters opening input = .error fault) :
    fault.On input ∨ fault = ⟨opening, [.parameters, .finish], []⟩ := by
  induction input using readParameters_induction with
  | nameless input unnamed =>
      rw [readParameters_of_nameless unnamed] at failed
      cases failed
      exact Or.inl (Attempts.on_of_within input.within_self (by decide))
  | comma input parameter rest chars named head ih =>
      rw [readParameters_of_comma named head] at failed
      cases more : readParameters opening
          (((rest.dropWhile isBlank).drop 1).dropWhile isBlank) with
      | ok result =>
          rw [more] at failed
          cases failed
      | error malformed =>
          rw [more] at failed
          cases failed
          rcases ih more with reported | same
          · exact Or.inl (reported.widen (within_afterMark named).2)
          · exact Or.inr same
  | closing input parameter rest chars named head =>
      rw [readParameters_of_closing named head] at failed
      cases failed
  | other input parameter rest named unlisted unclosed =>
      rw [readParameters_of_other named unlisted unclosed] at failed
      cases failed
      exact Or.inr rfl

theorem readParameterList_error (failed : readParameterList opening input = .error fault) :
    fault.On input ∨ fault = ⟨opening, [.parameters, .finish], []⟩ := by
  unfold readParameterList at failed
  split at failed
  · cases failed
  · exact readParameters_error failed

/-- The ways in which a header is not well formed: it has no name, its name is followed by something
else than a list of parameters, its list fails, or its list is followed by something. -/
inductive Header.Fails (line : Piece) : Attempts → Prop where
  | nameless (unnamed : readName? isNameChar (Header.input line) = none) :
    Fails line ⟨(Header.input line).start, [.name], []⟩
  | unlisted {name rest : Piece} {c : Char} {chars : List Char}
    (named : readName? isNameChar (Header.input line) = some (name, rest))
    (more : (rest.dropWhile isBlank).chars = c :: chars) (other : c ≠ '(') :
    Fails line ⟨(rest.dropWhile isBlank).start, [.parameters, .finish], []⟩
  | listed {name rest : Piece} {chars : List Char} {fault : Attempts}
    (named : readName? isNameChar (Header.input line) = some (name, rest))
    (bracket : (rest.dropWhile isBlank).chars = '(' :: chars)
    (list : readParameterList (rest.dropWhile isBlank).start
      (((rest.dropWhile isBlank).drop 1).dropWhile isBlank) = .error fault) : Fails line fault
  | followed {name rest following : Piece} {chars : List Char} {parameters : List Piece} {c : Char}
    {others : List Char} (named : readName? isNameChar (Header.input line) = some (name, rest))
    (bracket : (rest.dropWhile isBlank).chars = '(' :: chars)
    (list : readParameterList (rest.dropWhile isBlank).start
      (((rest.dropWhile isBlank).drop 1).dropWhile isBlank) = .ok (parameters, following))
    (more : (following.dropWhile isBlank).chars = c :: others) :
    Fails line ⟨(following.dropWhile isBlank).start, [.finish], []⟩

theorem Header.fails_of_ofLine (failed : Header.ofLine line = .error fault) :
    Header.Fails line fault := by
  unfold Header.ofLine at failed
  cases named : readName? isNameChar (Header.input line) with
  | none =>
      have unnamed := named
      unfold Header.input at named
      simp only [named] at failed
      cases failed
      exact .nameless unnamed
  | some parts =>
      obtain ⟨name, rest⟩ := parts
      have starts := named
      unfold Header.input at named
      simp only [named] at failed
      split at failed
      · cases failed
      · rename_i chars bracket
        cases list : readParameterList (rest.dropWhile isBlank).start
            (((rest.dropWhile isBlank).drop 1).dropWhile isBlank) with
        | error malformed =>
            rw [list] at failed
            cases failed
            exact .listed starts bracket list
        | ok result =>
            obtain ⟨parameters, following⟩ := result
            rw [list] at failed
            change (if (following.dropWhile isBlank).chars.isEmpty then _ else _) = _ at failed
            cases more : (following.dropWhile isBlank).chars with
            | nil =>
                rw [more] at failed
                cases failed
            | cons c others =>
                rw [more] at failed
                cases failed
                exact .followed starts bracket list more
      · rename_i ended other
        cases failed
        cases more : (rest.dropWhile isBlank).chars with
        | nil => exact absurd more ended
        | cons c chars =>
            exact .unlisted starts more fun same => other chars (by rw [more, same])

theorem Header.Fails.on (fails : Header.Fails line fault) :
    fault.On ((line.dropWhile isBlank).drop 1) := by
  have input : (Header.input line).Within ((line.dropWhile isBlank).drop 1) :=
    Piece.within_dropWhile _ isBlank
  cases fails with
  | nameless _ => exact Attempts.on_of_within input (by decide)
  | unlisted named _ _ =>
      exact Attempts.on_of_within ((within_afterMark named).1.trans input) (by decide)
  | listed named _ list =>
      obtain ⟨mark, inside⟩ := within_afterMark named
      rcases readParameterList_error list with reported | same
      · exact (reported.widen inside).widen input
      · subst same
        exact Attempts.on_of_within (mark.trans input) (by decide)
  | followed named _ list _ =>
      have tail := (Piece.within_dropWhile _ isBlank).trans (within_readParameterList list)
      exact Attempts.on_of_within ((tail.trans (within_afterMark named).2).trans input) (by decide)

theorem headed_of_ofLine_error (failed : Entry.ofLine line = .error fault) :
    (line.chars.dropWhile isBlank).head? = some '#' ∧ Header.Fails line fault := by
  unfold Entry.ofLine at failed
  split at failed
  · rename_i head
    refine ⟨head, ?_⟩
    cases found : Header.ofLine line with
    | error malformed =>
        rw [found] at failed
        cases failed
        exact Header.fails_of_ofLine found
    | ok header =>
        rw [found] at failed
        cases failed
  · cases failed
  · split at failed
    · cases failed
    · cases failed

theorem ofLine_error (failed : Entry.ofLine line = .error fault) :
    line.chars ∈ Form.marked '#' ∧ fault.On ((line.dropWhile isBlank).drop 1) := by
  obtain ⟨head, fails⟩ := headed_of_ofLine_error failed
  exact ⟨(Form.mem_marked line.chars rfl).mpr head, fails.on⟩

theorem mapM_ofLine_error {lines : List Piece}
    (failed : (line :: lines).mapM Entry.ofLine = .error fault) :
    Entry.ofLine line = .error fault ∨
      (∃ entry, Entry.ofLine line = .ok entry) ∧ lines.mapM Entry.ofLine = .error fault := by
  rw [List.mapM_cons] at failed
  cases one : Entry.ofLine line with
  | error malformed =>
      rw [one] at failed
      cases failed
      exact Or.inl rfl
  | ok entry =>
      cases more : lines.mapM Entry.ofLine with
      | ok entries =>
          rw [one, more] at failed
          cases failed
      | error malformed =>
          rw [one, more] at failed
          cases failed
          exact Or.inr ⟨⟨entry, rfl⟩, rfl⟩

theorem exists_malformed_of_mapM {lines : List Piece}
    (failed : lines.mapM Entry.ofLine = .error fault) :
    ∃ before line after, lines = before ++ line :: after ∧
      (∀ other ∈ before, ∃ entry, Entry.ofLine other = .ok entry) ∧
      Entry.ofLine line = .error fault := by
  induction lines with
  | nil => cases failed
  | cons line lines ih =>
      rcases mapM_ofLine_error failed with broken | ⟨readable, later⟩
      · exact ⟨[], line, lines, rfl, fun _ => nofun, broken⟩
      · obtain ⟨before, first, after, rfl, others, broken⟩ := ih later
        exact ⟨line :: before, first, after, rfl, List.forall_mem_cons.mpr ⟨readable, others⟩,
          broken⟩

/-- A text fails at the first line that starts like a header and is none. -/
theorem exists_malformed_of_ofText {text : List Char} {lines : List Piece}
    (apart : Lines 0 text lines) (failed : Outline.ofText text = .error fault) :
    ∃ before line after, lines = before ++ line :: after ∧
      (∀ other ∈ before, ∃ entry, Entry.ofLine other = .ok entry) ∧
      Entry.ofLine line = .error fault := by
  apply exists_malformed_of_mapM
  rw [lines_iff.mp apart]
  change ((linesFrom 0 text).mapM Entry.ofLine).map Outline.ofEntries = _ at failed
  cases read : (linesFrom 0 text).mapM Entry.ofLine with
  | error malformed =>
      rw [read] at failed
      cases failed
      rfl
  | ok entries =>
      rw [read] at failed
      cases failed

theorem reason_of_ofText {text : List Char} (failed : Outline.ofText text = .error fault) :
    fault.reason = "expected " ++ Rule.enumerate fault.expected := by
  obtain ⟨_, line, _, _, _, broken⟩ := exists_malformed_of_ofText (lines_linesFrom 0 text) failed
  exact (ofLine_error broken).2.reason_eq

end TemplateServer.Grammar
