import TemplateServer.Proofs.Grammar.Malformed

/-!
Lines at other places of a text. A line that moves as a whole is read as before, and what is read
on it moves along. Main statements: the outline of lines that are moved is the moved outline of the
lines, or they fail at the moved place; a line that is a comment makes no difference.
-/

namespace TemplateServer

/-! ### Pieces -/

namespace Text.Piece

def relocate (place : Nat → Nat) (piece : Piece) : Piece :=
  ⟨place piece.start, piece.chars⟩

/-- Whether all places of a piece move by the same distance. -/
def Rigid (place : Nat → Nat) (piece : Piece) : Prop :=
  ∀ first second, piece.chars = first ++ second →
    place (piece.start + bytes first) = place piece.start + bytes first

variable {place : Nat → Nat} {piece inner outer : Piece}

@[simp]
theorem chars_relocate (place : Nat → Nat) (piece : Piece) :
    (piece.relocate place).chars = piece.chars :=
  rfl

theorem Rigid.within (rigid : outer.Rigid place) (within : inner.Within outer) :
    inner.Rigid place := by
  obtain ⟨before, after, chars, start⟩ := within
  intro first second cut
  have upTo := rigid before (inner.chars ++ after) chars
  have further := rigid (before ++ first) (second ++ after) (by
    rw [chars, cut]
    simp only [List.append_assoc])
  rw [bytes_append, ← Nat.add_assoc] at further
  rw [start, further, upTo, Nat.add_assoc]

theorem Rigid.stop (rigid : piece.Rigid place) : (piece.relocate place).stop = place piece.stop :=
  (rigid piece.chars [] (List.append_nil _).symm).symm

theorem Rigid.relocate_dropWhile (rigid : piece.Rigid place) (drops : Char → Bool) :
    (piece.relocate place).dropWhile drops = (piece.dropWhile drops).relocate place := by
  have moved := rigid (piece.chars.takeWhile drops) (piece.chars.dropWhile drops)
    List.takeWhile_append_dropWhile.symm
  unfold Piece.dropWhile relocate
  rw [moved]

theorem Rigid.relocate_drop (rigid : piece.Rigid place) (count : Nat) :
    (piece.relocate place).drop count = (piece.drop count).relocate place := by
  have moved := rigid (piece.chars.take count) (piece.chars.drop count)
    (List.take_append_drop count piece.chars).symm
  unfold Piece.drop relocate
  rw [moved]

theorem Rigid.dropWhile (rigid : piece.Rigid place) (drops : Char → Bool) :
    (piece.dropWhile drops).Rigid place :=
  rigid.within (within_dropWhile piece drops)

theorem Rigid.drop (rigid : piece.Rigid place) (count : Nat) : (piece.drop count).Rigid place :=
  rigid.within (within_drop piece count)

/-- Moving goes through the reading of a mark and the blanks around it. -/
theorem Rigid.relocate_afterMark (rigid : piece.Rigid place) (drops : Char → Bool) :
    (((piece.relocate place).dropWhile drops).drop 1).dropWhile drops =
      (((piece.dropWhile drops).drop 1).dropWhile drops).relocate place := by
  rw [rigid.relocate_dropWhile, (rigid.dropWhile drops).relocate_drop,
    ((rigid.dropWhile drops).drop 1).relocate_dropWhile]

end Text.Piece

namespace Grammar

open Text

/-! ### Headers -/

def Attempts.relocate (place : Nat → Nat) (fault : Attempts) : Attempts :=
  { fault with offset := place fault.offset }

/-- The outcome of a reading that has been moved: what was read moves as told, and a failure moves
with its place. -/
def relocated {α : Type} (place : Nat → Nat) (move : α → α) :
    Except Attempts α → Except Attempts α
  | .ok result => .ok (move result)
  | .error fault => .error (fault.relocate place)

def Header.relocate (place : Nat → Nat) (header : Header) : Header :=
  ⟨header.name.relocate place, header.parameters.map (Piece.relocate place)⟩

variable {place : Nat → Nat} {input line piece : Piece} {opening : Nat}

theorem readName?_relocate (rigid : input.Rigid place) (continues : Char → Bool) :
    readName? continues (input.relocate place) =
      (readName? continues input).map fun parts =>
        (parts.1.relocate place, parts.2.relocate place) := by
  unfold readName?
  rw [Piece.chars_relocate]
  cases input.chars with
  | nil => rfl
  | cons c rest =>
      simp only
      split
      · rw [rigid.relocate_dropWhile]
        rfl
      · rfl

theorem relocate_named {continues : Char → Bool} {name rest : Piece}
    (rigid : input.Rigid place) (named : readName? continues input = some (name, rest)) :
    readName? continues (input.relocate place) =
        some (name.relocate place, rest.relocate place) ∧ rest.Rigid place := by
  refine ⟨?_, rigid.within (within_of_readName? named).2.1⟩
  rw [readName?_relocate rigid, named]
  rfl

theorem readParameters_relocate (rigid : input.Rigid place) (opening : Nat) :
    readParameters (place opening) (input.relocate place) =
      relocated place (fun result => (result.1.map (Piece.relocate place), result.2.relocate place))
        (readParameters opening input) := by
  induction input using readParameters_induction with
  | nameless input unnamed =>
      have moved := readName?_relocate rigid isParameterChar
      rw [unnamed] at moved
      rw [readParameters_of_nameless unnamed, readParameters_of_nameless moved]
      rfl
  | comma input parameter rest chars named head ih =>
      obtain ⟨moved, rigidRest⟩ := relocate_named rigid named
      rw [readParameters_of_comma named head, readParameters_of_comma moved head,
        rigidRest.relocate_afterMark, ih (rigid.within (within_afterMark named).2)]
      cases readParameters opening (((rest.dropWhile isBlank).drop 1).dropWhile isBlank) with
      | error fault => rfl
      | ok result => rfl
  | closing input parameter rest chars named head =>
      obtain ⟨moved, rigidRest⟩ := relocate_named rigid named
      rw [readParameters_of_closing named head, readParameters_of_closing moved head,
        rigidRest.relocate_dropWhile, (rigidRest.dropWhile isBlank).relocate_drop]
      rfl
  | other input parameter rest named unlisted unclosed =>
      obtain ⟨moved, rigidRest⟩ := relocate_named rigid named
      rw [readParameters_of_other named unlisted unclosed,
        readParameters_of_other moved unlisted unclosed]
      rfl

theorem readParameterList_relocate (rigid : input.Rigid place) (opening : Nat) :
    readParameterList (place opening) (input.relocate place) =
      relocated place (fun result => (result.1.map (Piece.relocate place), result.2.relocate place))
        (readParameterList opening input) := by
  by_cases closed : input.chars.head? = some ')'
  · obtain ⟨chars, head⟩ := List.head?_eq_some_iff.mp closed
    rw [readParameterList_of_closing head,
      @readParameterList_of_closing _ (input.relocate place) _ head, rigid.relocate_drop]
    rfl
  · rw [readParameterList_of_other closed,
      @readParameterList_of_other _ (input.relocate place) closed, readParameters_relocate rigid]

theorem Header.ofLine_relocate (rigid : line.Rigid place) :
    Header.ofLine (line.relocate place) =
      relocated place (Header.relocate place) (Header.ofLine line) := by
  have input : ((line.dropWhile isBlank).drop 1).dropWhile isBlank = Header.input line := rfl
  have rigidInput : (Header.input line).Rigid place :=
    ((rigid.dropWhile isBlank).drop 1).dropWhile isBlank
  unfold Header.ofLine
  rw [rigid.relocate_afterMark, input]
  cases named : readName? isNameChar (Header.input line) with
  | none =>
      have moved := readName?_relocate rigidInput isNameChar
      rw [named] at moved
      simp only [named, moved, Option.map_none]
      rfl
  | some parts =>
      obtain ⟨name, rest⟩ := parts
      obtain ⟨moved, rigidRest⟩ := relocate_named rigidInput named
      have rigidMark := rigidRest.dropWhile isBlank
      simp only [named, moved, rigidRest.relocate_dropWhile, Piece.chars_relocate]
      cases head : (rest.dropWhile isBlank).chars with
      | nil => rfl
      | cons c chars =>
          by_cases bracket : c = '('
          · subst bracket
            simp only [rigidMark.relocate_drop, (rigidMark.drop 1).relocate_dropWhile]
            have inside := readParameterList_relocate ((rigidMark.drop 1).dropWhile isBlank)
              (rest.dropWhile isBlank).start
            change readParameterList ((rest.dropWhile isBlank).relocate place).start _ = _ at inside
            rw [inside]
            cases listed : readParameterList (rest.dropWhile isBlank).start
                (((rest.dropWhile isBlank).drop 1).dropWhile isBlank) with
            | error fault => rfl
            | ok result =>
                obtain ⟨parameters, following⟩ := result
                have rigidTail := ((rigidMark.drop 1).dropWhile isBlank).within
                  (within_readParameterList listed)
                change (if ((following.relocate place).dropWhile isBlank).chars.isEmpty then _
                  else _) = relocated place _ (if _ then _ else _)
                rw [rigidTail.relocate_dropWhile, Piece.chars_relocate]
                split
                · rfl
                · rfl
          · simp [bracket]
            rfl

/-! ### Lines -/

def Import.relocate (place : Nat → Nat) (declaration : Import) : Import :=
  { declaration with line := declaration.line.relocate place }

def Entry.relocate (place : Nat → Nat) : Entry → Entry
  | .header heading => .header (heading.relocate place)
  | .imported declaration => .imported (declaration.relocate place)
  | .comment line => .comment (line.relocate place)
  | .body line => .body (line.relocate place)

theorem Import.ofLine?_relocate (place : Nat → Nat) (line : Piece) :
    Import.ofLine? (line.relocate place) =
      (Import.ofLine? line).map (Import.relocate place) := by
  unfold Import.ofLine?
  rw [Piece.chars_relocate]
  split
  · split
    · split
      · simp only
        split
        · rfl
        · rfl
      · rfl
    · rfl
  · rfl

theorem Entry.ofLine_relocate (rigid : line.Rigid place) :
    Entry.ofLine (line.relocate place) =
      relocated place (Entry.relocate place) (Entry.ofLine line) := by
  unfold Entry.ofLine
  rw [Piece.chars_relocate]
  split
  · rw [Header.ofLine_relocate rigid]
    cases Header.ofLine line with
    | error fault => rfl
    | ok header => rfl
  · rfl
  · rw [Import.ofLine?_relocate]
    cases Import.ofLine? line with
    | none => rfl
    | some declaration => rfl

/-! ### Outlines -/

def Section.relocate (place : Nat → Nat) (part : Section) : Section :=
  ⟨part.header.relocate place, part.lines.map (Piece.relocate place)⟩

def Outline.relocate (place : Nat → Nat) (outline : Outline) : Outline :=
  ⟨outline.lead.map (Piece.relocate place), outline.sections.map (Section.relocate place),
    outline.imports.map (Import.relocate place)⟩

def Outline.ofLines (lines : List Piece) : Except Attempts Outline :=
  (lines.mapM Entry.ofLine).map Outline.ofEntries

theorem Outline.ofText_eq (text : List Char) : Outline.ofText text = ofLines (linesFrom 0 text) :=
  rfl

theorem Outline.ofLines_cons (line : Piece) (lines : List Piece) :
    ofLines (line :: lines) =
      match Entry.ofLine line with
      | .error fault => .error fault
      | .ok entry => (ofLines lines).map (cons entry) := by
  unfold ofLines
  rw [List.mapM_cons]
  cases Entry.ofLine line with
  | error fault => rfl
  | ok entry =>
      cases lines.mapM Entry.ofLine with
      | error fault => rfl
      | ok entries => rfl

theorem Outline.cons_relocate (entry : Entry) (outline : Outline) :
    cons (entry.relocate place) (outline.relocate place) = (cons entry outline).relocate place := by
  cases entry with
  | header header => rfl
  | imported declaration => rfl
  | comment line => rfl
  | body line => rfl

/-- The outline moves along with the lines. -/
theorem Outline.ofLines_relocate {lines : List Piece}
    (rigid : ∀ line ∈ lines, line.Rigid place) :
    ofLines (lines.map (Piece.relocate place)) =
      relocated place (Outline.relocate place) (ofLines lines) := by
  induction lines with
  | nil => rfl
  | cons line lines ih =>
      have later := ih fun other member => rigid other (List.mem_cons_of_mem line member)
      rw [List.map_cons, ofLines_cons, ofLines_cons,
        Entry.ofLine_relocate (rigid line List.mem_cons_self), later]
      cases Entry.ofLine line with
      | error fault => rfl
      | ok entry =>
          cases ofLines lines with
          | error fault => rfl
          | ok outline => exact congrArg Except.ok (cons_relocate entry outline)

/-- A place that moves along with what stands before it on its line leaves the lines whole. -/
theorem rigid_linesFrom {text : List Char}
    (moves : ∀ before first after, text = before ++ (first ++ after) → Plain first →
      place (bytes before + bytes first) = place (bytes before) + bytes first) :
    ∀ line ∈ linesFrom 0 text, line.Rigid place := by
  intro line listed first second cut
  have apart := lines_linesFrom 0 text
  obtain ⟨before, after, whole, start⟩ := apart.picks.within line listed
  have plain : Plain first := fun c member => apart.plain line listed c (by
    rw [cut]
    exact List.mem_append_left second member)
  change text = before ++ (line.chars ++ after) at whole
  rw [cut, List.append_assoc] at whole
  rw [start, Nat.zero_add]
  exact moves before first (second ++ after) whole plain

/-- A comment makes no difference to the outline. -/
theorem Outline.ofLines_comment {whole : Piece} (comment : Entry.ofLine line = .ok (.comment whole))
    (before after : List Piece) :
    ofLines (before ++ line :: after) = ofLines (before ++ after) := by
  induction before with
  | nil =>
      rw [List.nil_append, List.nil_append, ofLines_cons, comment]
      cases ofLines after with
      | error fault => rfl
      | ok outline => rfl
  | cons first before ih =>
      rw [List.cons_append, List.cons_append, ofLines_cons, ofLines_cons, ih]

end Grammar

end TemplateServer
