import TemplateServer.Proofs.Check.Relocation

/-!
Comments. A comment is a line of its own, so that it moves the lines below it and leaves them and
those above as they are. Main statement: a text with a comment added between two of its lines has
the same templates, and the same diagnostics with those below the comment one line further down.
-/

namespace TemplateServer

open Text Grammar

/-! ### Lines above and below a place -/

namespace Grammar

variable {start : Nat} {mark rest text above : List Char} {lines : List Piece}

/-- A line break stays one when more follows, unless it is a carriage return at the very end. -/
theorem Breaks.append (breaks : Breaks mark rest)
    (starts : ∀ c, (mark ++ rest).getLast? = some c → c = '\n') (below : List Char) :
    Breaks mark (rest ++ below) := by
  cases breaks with
  | feed => exact .feed _
  | turnFeed => exact .turnFeed _
  | turn alone =>
      cases rest with
      | nil => exact absurd (starts '\r' rfl) (by decide)
      | cons c rest => exact .turn alone

/-- The lines above a line do not depend on what follows them. -/
theorem Lines.exists_above (apart : Lines start above lines)
    (starts : ∀ c, above.getLast? = some c → c = '\n') :
    ∃ earlier, (∀ line ∈ earlier, line.start < start + bytes above) ∧
      ∀ below later, Lines (start + bytes above) below later →
        Lines start (above ++ below) (earlier ++ later) := by
  induction apart with
  | @last start line plain =>
      have empty : line = [] := by
        by_contra filled
        exact plain.not_mem.2 (@mem_of_starts [] line starts filled)
      subst empty
      refine ⟨[], fun _ => nofun, ?_⟩
      intro below later apart
      exact apart
  | @more start line mark rest lines plain breaks following ih =>
      have tail : ∀ c, (mark ++ rest).getLast? = some c → c = '\n' := by
        intro c same
        apply starts
        rw [List.getLast?_append, same]
        rfl
      have startsRest : ∀ c, rest.getLast? = some c → c = '\n' := by
        intro c same
        apply tail
        rw [List.getLast?_append, same]
        rfl
      obtain ⟨earlier, early, joins⟩ := ih startsRest
      have positive := breaks.bytes_pos
      have size : start + bytes (line ++ (mark ++ rest)) =
          start + bytes line + bytes mark + bytes rest := by
        rw [bytes_append, bytes_append]
        omega
      refine ⟨⟨start, line⟩ :: earlier, ?_, ?_⟩
      · intro other member
        rcases List.mem_cons.mp member with same | member
        · rw [same, size]
          change start < _
          omega
        · rw [size]
          exact early other member
      · intro below later apart
        rw [size] at apart
        have whole : line ++ (mark ++ rest) ++ below = line ++ (mark ++ (rest ++ below)) := by
          simp only [List.append_assoc]
        rw [whole]
        exact .more plain (breaks.append tail below) (joins below later apart)

theorem Lines.shift (apart : Lines start text lines) (distance : Nat) :
    Lines (start + distance) text (lines.map (Piece.relocate (· + distance))) := by
  induction apart with
  | last start plain => exact .last (start + distance) plain
  | @more start line mark rest lines plain breaks following ih =>
      apply Lines.more plain breaks
      have size : start + bytes line + bytes mark + distance =
          start + distance + bytes line + bytes mark := by
        omega
      rw [← size]
      exact ih

end Grammar

/-! ### Positions above and below a place -/

namespace Text

variable {above line : List Char}

theorem starts_append {more : List Char} (starts : ∀ c, above.getLast? = some c → c = '\n')
    (later : ∀ c, more.getLast? = some c → c = '\n') :
    ∀ c, (above ++ more).getLast? = some c → c = '\n' := by
  intro c same
  rw [List.getLast?_append] at same
  cases final : more.getLast? with
  | none =>
      rw [final] at same
      exact starts c same
  | some last =>
      rw [final] at same
      rw [← Option.some.inj same]
      exact later last final

theorem foldl_next_add (rows : Nat) (text : List Char) (position : Position) :
    text.foldl Position.next (position.onLine (· + rows)) =
      (text.foldl Position.next position).onLine (· + rows) := by
  induction text generalizing position with
  | nil => rfl
  | cons c text ih =>
      have step : (position.onLine (· + rows)).next c = (position.next c).onLine (· + rows) := by
        unfold Position.next Position.onLine
        by_cases feed : c = '\n'
        · rw [if_pos feed, if_pos feed, Nat.add_right_comm]
        · rw [if_neg feed, if_neg feed]
      rw [List.foldl_cons, List.foldl_cons, step, ih]

/-- Below some whole lines positions count as from the start, and the lines above them on top. -/
theorem foldl_next_below (starts : ∀ c, above.getLast? = some c → c = '\n') (rest : List Char) :
    (above ++ rest).foldl Position.next Position.zero =
      (rest.foldl Position.next Position.zero).onLine (· + above.count '\n') := by
  have first : Position.zero.onLine (· + above.count '\n') = ⟨above.count '\n', 0⟩ := by
    change Position.mk (0 + above.count '\n') 0 = _
    rw [Nat.zero_add]
  rw [List.foldl_append, foldl_next_of_starts starts, ← first, foldl_next_add]

/-- What a line shows does not depend on what follows its line feed. -/
theorem shown_append_of_mem (closed : '\n' ∈ line) (rest : List Char) :
    shown (line ++ rest) = shown line := by
  have shorter : (line.takeWhile (· != '\n')).length ≠ line.length := by
    intro same
    apply not_mem_takeWhile_ne '\n' line
    rw [(List.takeWhile_prefix _).eq_of_length same]
    exact closed
  unfold shown
  rw [List.takeWhile_append, if_neg shorter]

/-- The number that comes of adding a distance to all numbers from an edge on. -/
def shiftFrom (edge distance number : Nat) : Nat :=
  if number < edge then number else number + distance

variable {edge distance number : Nat}

theorem shiftFrom_of_lt (early : number < edge) : shiftFrom edge distance number = number :=
  if_pos early

theorem shiftFrom_of_le (late : edge ≤ number) :
    shiftFrom edge distance number = number + distance :=
  if_neg (Nat.not_lt.mpr late)

theorem strictMono_shiftFrom (edge distance : Nat) : StrictMono (shiftFrom edge distance) := by
  intro first second ordered
  unfold shiftFrom
  split
  · split
    · exact ordered
    · omega
  · rw [if_neg (by omega)]
    omega

end Text

/-! ### Adding a comment -/

variable {above below line : List Char}

theorem rigid_shiftFrom (starts : ∀ c, above.getLast? = some c → c = '\n') (distance : Nat) :
    ∀ piece ∈ linesFrom 0 (above ++ below), piece.Rigid (shiftFrom (bytes above) distance) := by
  apply rigid_linesFrom
  intro before first after whole plain
  by_cases late : bytes above ≤ bytes before
  · rw [shiftFrom_of_le late, shiftFrom_of_le (by omega)]
    omega
  · obtain ⟨middle, longer, same⟩ := exists_append_of_bytes_le whole.symm (by omega)
    have size : bytes above = bytes before + bytes middle := by
      rw [longer, bytes_append]
    by_cases early : bytes before + bytes first < bytes above
    · rw [shiftFrom_of_lt early, shiftFrom_of_lt (by omega)]
    · -- else the line goes on past the line feed before the place
      obtain ⟨more, cut, _⟩ := exists_append_of_bytes_le same.symm (by omega)
      rw [longer] at starts
      have filled : middle ≠ [] := by
        intro empty
        rw [empty, bytes_nil] at size
        omega
      have feed := mem_of_starts starts filled
      exact absurd (by rw [cut]; exact List.mem_append_left more feed) plain.not_mem.2

theorem outline_of_comment (starts : ∀ c, above.getLast? = some c → c = '\n')
    (plain : Plain line)
    (comment : Entry.ofLine ⟨bytes above, line⟩ = .ok (.comment ⟨bytes above, line⟩)) :
    Outline.ofText (above ++ (line ++ '\n' :: below)) =
      relocated (shiftFrom (bytes above) (bytes line + 1))
        (Outline.relocate (shiftFrom (bytes above) (bytes line + 1)))
        (Outline.ofText (above ++ below)) := by
  obtain ⟨earlier, early, joins⟩ := (lines_linesFrom 0 above).exists_above starts
  rw [Nat.zero_add] at early joins
  have lower := lines_linesFrom (bytes above) below
  have lines := lines_iff.mp (joins below _ lower)
  have longer : Lines (bytes above) (line ++ '\n' :: below)
      (⟨bytes above, line⟩ ::
        (linesFrom (bytes above) below).map (Piece.relocate (· + (bytes line + 1)))) :=
    .more plain (.feed below) (lower.shift (bytes line + 1))
  have moved : (linesFrom 0 (above ++ below)).map
      (Piece.relocate (shiftFrom (bytes above) (bytes line + 1))) =
        earlier ++ (linesFrom (bytes above) below).map (Piece.relocate (· + (bytes line + 1))) := by
    rw [← lines, List.map_append]
    congr 1
    · have still (piece : Piece) (member : piece ∈ earlier) :
          piece.relocate (shiftFrom (bytes above) (bytes line + 1)) = id piece := by
        unfold Piece.relocate
        rw [shiftFrom_of_lt (early piece member)]
        rfl
      rw [List.map_congr_left still, List.map_id]
    · apply List.map_congr_left
      intro piece member
      unfold Piece.relocate
      rw [shiftFrom_of_le (lower.picks.within piece member).start_le]
  rw [Outline.ofText_eq, Outline.ofText_eq, ← lines_iff.mp (joins _ _ longer),
    Outline.ofLines_comment comment, ← moved, Outline.ofLines_relocate (rigid_shiftFrom starts _)]

theorem starts_line (above line : List Char) :
    ∀ c, (above ++ (line ++ ['\n'])).getLast? = some c → c = '\n' := by
  intro c same
  rw [← List.append_assoc, List.getLast?_concat] at same
  exact (Option.some.inj same).symm

theorem count_line (plain : Plain line) (above : List Char) :
    (above ++ (line ++ ['\n'])).count '\n' = above.count '\n' + 1 := by
  rw [List.count_append, List.count_append, List.count_eq_zero_of_not_mem plain.not_mem.2]
  rfl

theorem position_of_comment (starts : ∀ c, above.getLast? = some c → c = '\n')
    (plain : Plain line) {offset : Nat} (boundary : Boundary (above ++ below) offset) :
    positionOf (above ++ (line ++ '\n' :: below))
        (shiftFrom (bytes above) (bytes line + 1) offset) =
      (positionOf (above ++ below) offset).onLine (shiftFrom (above.count '\n') 1) := by
  obtain ⟨before, after, whole, rfl⟩ := boundary
  by_cases late : bytes above ≤ bytes before
  · obtain ⟨first, rfl, rfl⟩ := exists_append_of_bytes_le whole late
    have longer : above ++ (line ++ '\n' :: (first ++ after)) =
        above ++ (line ++ ['\n']) ++ first ++ after := by
      simp only [List.append_assoc, List.cons_append, List.nil_append]
    have size : bytes (above ++ first) + (bytes line + 1) =
        bytes (above ++ (line ++ ['\n']) ++ first) := by
      simp only [bytes_append, show bytes ['\n'] = 1 from rfl]
      omega
    rw [shiftFrom_of_le late, longer, size, positionOf_append, whole, positionOf_append,
      foldl_next_below (starts_line above line), foldl_next_below starts, count_line plain]
    unfold Position.onLine
    simp only
    rw [shiftFrom_of_le (Nat.le_add_left _ _), Nat.add_assoc]
  · -- a line feed stands between the place and the comment
    obtain ⟨middle, rfl, rfl⟩ := exists_append_of_bytes_le whole.symm (by omega)
    have filled : middle ≠ [] := by
      intro empty
      rw [empty, List.append_nil] at late
      omega
    have feed := List.count_pos_iff.mpr (mem_of_starts starts filled)
    have still : shiftFrom ((before ++ middle).count '\n') 1
        (before.foldl Position.next Position.zero).line =
          (before.foldl Position.next Position.zero).line := by
      apply shiftFrom_of_lt
      rw [line_foldl_next, List.count_append]
      change 0 + _ < _
      omega
    rw [shiftFrom_of_lt (by omega), List.append_assoc, positionOf_append, List.append_assoc,
      positionOf_append]
    unfold Position.onLine
    rw [still]

theorem width_of_comment (starts : ∀ c, above.getLast? = some c → c = '\n')
    (plain : Plain line) {number : Nat} (listed : number ≤ (above ++ below).count '\n') :
    lineWidth (above ++ (line ++ '\n' :: below)) (shiftFrom (above.count '\n') 1 number) =
      lineWidth (above ++ below) number := by
  by_cases late : above.count '\n' ≤ number
  · rw [List.count_append] at listed
    obtain ⟨upper, current, rest, placed⟩ :=
      @exists_lineAt below (number - above.count '\n') (by omega)
    have counted : (above ++ upper).count '\n' = number := by
      rw [List.count_append, placed.counted]
      omega
    have longer : (above ++ (line ++ ['\n']) ++ upper).count '\n' = number + 1 := by
      rw [List.count_append, count_line plain, placed.counted]
      omega
    have before := lineWidth_append (starts_append starts placed.starts) (current ++ rest)
    have after := lineWidth_append (starts_append (starts_line above line) placed.starts)
      (current ++ rest)
    rw [counted, List.append_assoc, ← placed.parts] at before
    rw [longer, List.append_assoc, ← placed.parts, List.append_assoc, List.append_assoc] at after
    rw [shiftFrom_of_le late, before]
    exact after
  · -- the line ends above the comment, and what follows it does not show
    obtain ⟨upper, current, rest, placed⟩ := @exists_lineAt above number (by omega)
    have closed : '\n' ∈ current ++ rest := by
      have total : above.count '\n' = number + (current ++ rest).count '\n' := by
        rw [placed.parts, List.count_append, placed.counted]
      apply List.count_pos_iff.mp
      omega
    have width (more : List Char) :
        lineWidth (above ++ more) number = units (shown (current ++ rest)) := by
      have reached := lineWidth_append placed.starts (current ++ rest ++ more)
      rw [← List.append_assoc, ← placed.parts, placed.counted,
        shown_append_of_mem closed] at reached
      exact reached
    rw [shiftFrom_of_lt (by omega), width, width]

theorem displaces_comment (starts : ∀ c, above.getLast? = some c → c = '\n') (plain : Plain line)
    (comment : Entry.ofLine ⟨bytes above, line⟩ = .ok (.comment ⟨bytes above, line⟩)) :
    Displaces (shiftFrom (bytes above) (bytes line + 1)) (shiftFrom (above.count '\n') 1)
      (above ++ below) (above ++ (line ++ '\n' :: below)) where
  rising := strictMono_shiftFrom _ 1
  rigid := rigid_shiftFrom starts _
  outline := outline_of_comment starts plain comment
  position := fun _ boundary => position_of_comment starts plain boundary
  width := fun _ listed => width_of_comment starts plain listed

/-- A comment between two lines of a text changes nothing but the numbers of the lines below it. What
is told of either text is sent with its ranges as they are if it takes less than 2 ^ 32 bytes. -/
theorem Reading.ofText_ignores_comment (source above below comment : String)
    (starts : above = "" ∨ above.toList.getLast? = some '\n')
    (plain : '\r' ∉ comment.toList ∧ '\n' ∉ comment.toList) :
    ((∃ outline,
        Outline.ofText (above ++ ">" ++ comment ++ "\n" ++ below).toList = .ok outline) ↔
      ∃ outline, Outline.ofText (above ++ below).toList = .ok outline) ∧
    (Reading.ofText source (above ++ ">" ++ comment ++ "\n" ++ below)).templates =
      (Reading.ofText source (above ++ below)).templates ∧
    (Reading.ofText source (above ++ ">" ++ comment ++ "\n" ++ below)).diagnostics =
      (Reading.ofText source (above ++ below)).diagnostics.map
        (Diagnostic.onLine fun line =>
          if line < above.toList.count '\n' then line else line + 1) ∧
    ∀ text ∈ [above ++ ">" ++ comment ++ "\n" ++ below, above ++ below],
      bytes text.toList < UInt32.size → ∀ diagnostic ∈ (Reading.ofText source text).diagnostics,
        diagnostic.range.wrapped = diagnostic.range := by
  have lineStarts : ∀ c, above.toList.getLast? = some c → c = '\n' := by
    intro c same
    rcases starts with rfl | feed
    · cases same
    · rw [feed] at same
      exact (Option.some.inj same).symm
  have plainLine : Plain ('>' :: comment.toList) :=
    plain_cons rfl (plain_of_not_mem plain.1 plain.2)
  have displaces := @displaces_comment above.toList below.toList ('>' :: comment.toList)
    lineStarts plainLine rfl
  have longer : (above ++ ">" ++ comment ++ "\n" ++ below).toList =
      above.toList ++ ('>' :: comment.toList ++ '\n' :: below.toList) := by
    simp
  have shorter : (above ++ below).toList = above.toList ++ below.toList := by
    simp
  rw [← longer, ← shorter] at displaces
  have same := displaces.reading_eq source
  refine ⟨displaces.read_iff, ?_, ?_, fun _ _ small _ => Reading.wrapped_range small⟩
  · rw [same]
    rfl
  · rw [same]
    rfl

theorem Reading.ofText_ignores_comment_in_body :
    "# A\n- x\n".toList.getLast? = some '\n' ∧
      ('\r' ∉ " # B(".toList ∧ '\n' ∉ " # B(".toList) ∧
      (Reading.ofText "a" "# A\n- x\n> # B(\n- y\n# A\n").templates =
        (Reading.ofText "a" "# A\n- x\n- y\n# A\n").templates ∧
      (Reading.ofText "a" "# A\n- x\n> # B(\n- y\n# A\n").diagnostics =
        (Reading.ofText "a" "# A\n- x\n- y\n# A\n").diagnostics.map
          (Diagnostic.onLine fun line => if line < 2 then line else line + 1) :=
  have ignores := (Reading.ofText_ignores_comment "a" "# A\n- x\n" "- y\n# A\n" " # B("
    (Or.inr rfl) (by decide)).2
  ⟨rfl, by decide, ignores.1, ignores.2.1⟩

end TemplateServer
