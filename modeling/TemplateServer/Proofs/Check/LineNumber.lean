import TemplateServer.Proofs.Check.Order

/-!
Numbers of lines. The grammar ends a line at a line feed, at a carriage return with its line feed
and at a carriage return that stands alone; positions count line feeds. Main statement: the line of
a position falls behind the number of line breaks before it by the number of lone carriage returns
among them, and the diagnostics about a line by those above it.
-/

namespace TemplateServer

open Text Grammar

/-! ### Line breaks -/

namespace Grammar

/-- The line breaks of a text that starts at an offset. A carriage return and the line feed after it
are one of them. -/
def breaksFrom (start : Nat) : List Char → List Piece
  | [] => []
  | '\r' :: '\n' :: rest => ⟨start, ['\r', '\n']⟩ :: breaksFrom (start + 2) rest
  | c :: rest =>
    let others := breaksFrom (start + c.utf8Size) rest
    if isLineBreak c then ⟨start, [c]⟩ :: others else others

/-- How many line breaks of a text end at or before an offset. -/
def breaksBy (text : List Char) (offset : Nat) : Nat :=
  (breaksFrom 0 text).countP fun mark => mark.stop ≤ offset

/-- How many of these line breaks are lone carriage returns. -/
def turnsBy (text : List Char) (offset : Nat) : Nat :=
  (breaksFrom 0 text).countP fun mark => mark.chars = ['\r'] ∧ mark.stop ≤ offset

/-- Whether a carriage return without a line feed stands at a place of a text that starts at an
offset. -/
def LoneTurn (start : Nat) (text : List Char) (place : Nat) : Prop :=
  ∃ before after, text = before ++ '\r' :: after ∧ after.head? ≠ some '\n' ∧
    place = start + bytes before

variable {start limit : Nat} {text line mark rest : List Char} {lines : List Piece} {piece : Piece}

theorem breaksFrom_cons {c : Char} (inside : isLineBreak c = false) (start : Nat)
    (rest : List Char) : breaksFrom start (c :: rest) = breaksFrom (start + c.utf8Size) rest := by
  rw [breaksFrom]
  · rw [inside]
    rfl
  · rintro later rfl
    cases inside

theorem breaksFrom_append (plain : Plain line) (start : Nat) (rest : List Char) :
    breaksFrom start (line ++ rest) = breaksFrom (start + bytes line) rest := by
  induction line generalizing start with
  | nil => rfl
  | cons c line ih =>
      rw [List.cons_append, breaksFrom_cons (plain c List.mem_cons_self),
        ih fun other member => plain other (List.mem_cons_of_mem c member), bytes_cons,
        Nat.add_assoc]

theorem breaksFrom_break (breaks : Breaks mark rest) (start : Nat) :
    breaksFrom start (mark ++ rest) = ⟨start, mark⟩ :: breaksFrom (start + bytes mark) rest := by
  cases breaks with
  | feed => rfl
  | turnFeed => rfl
  | turn alone =>
      change breaksFrom start ('\r' :: rest) = _
      rw [breaksFrom]
      · rfl
      · rintro later - rfl
        exact alone rfl

/-- Each line but the first starts where a line break ends. -/
theorem Lines.map_start (apart : Lines start text lines) :
    lines.map Piece.start = start :: (breaksFrom start text).map Piece.stop := by
  induction apart with
  | @last start line plain =>
      have none := breaksFrom_append plain start []
      rw [List.append_nil] at none
      rw [none]
      rfl
  | @more start line mark rest lines plain breaks following ih =>
      rw [List.map_cons, ih, breaksFrom_append plain, breaksFrom_break breaks, List.map_cons]
      rfl

theorem start_lt_stop_of_mem_breaksFrom (member : piece ∈ breaksFrom start text) :
    start < piece.stop := by
  fun_induction breaksFrom start text with
  | case1 start => cases member
  | case2 start rest ih =>
      rcases List.mem_cons.mp member with rfl | later
      · change start < start + 2
        omega
      · have after := ih later
        omega
  | case3 start c rest lone others breaks ih =>
      have positive := c.utf8Size_pos
      rcases List.mem_cons.mp member with rfl | later
      · change start < start + (c.utf8Size + 0)
        omega
      · have after := ih later
        omega
  | case4 start c rest lone others inside ih =>
      have after := ih member
      omega

theorem countP_breaksFrom_eq_zero {counts : Piece → Bool} {offset : Nat} (late : offset ≤ start)
    (early : ∀ mark, counts mark = true → mark.stop ≤ offset) :
    (breaksFrom start text).countP counts = 0 := by
  rw [List.countP_eq_zero]
  intro mark member counted
  have after := start_lt_stop_of_mem_breaksFrom member
  have before := early mark counted
  omega

theorem fitting_append_of_le {first : List Char} (small : bytes first ≤ limit) (rest : List Char) :
    fitting limit (first ++ rest) = first ++ fitting (limit - bytes first) rest := by
  induction first generalizing limit with
  | nil => rfl
  | cons c first ih =>
      rw [bytes_cons] at small
      rw [List.cons_append, fitting, if_pos (by omega), ih (by omega), bytes_cons, Nat.sub_sub]
      rfl

/-- Only the last character of a line with its break can be a line feed. -/
theorem Breaks.not_mem_of_prefix (breaks : Breaks mark rest) (plain : Plain line)
    {first more : List Char} (parts : line ++ mark = first ++ more) (filled : more ≠ []) :
    '\n' ∉ first := by
  have within : first <+: (line ++ mark).dropLast := by
    rw [parts, List.dropLast_append_of_ne_nil filled]
    exact List.prefix_append _ _
  have unfed : '\n' ∉ (line ++ mark).dropLast := by
    cases breaks with
    | feed =>
        rw [List.dropLast_concat]
        exact plain.not_mem.2
    | turn alone =>
        rw [List.dropLast_concat]
        exact plain.not_mem.2
    | turnFeed =>
        have parts : line ++ ['\r', '\n'] = (line ++ ['\r']) ++ ['\n'] := by simp
        rw [parts, List.dropLast_concat]
        intro member
        rcases List.mem_append.mp member with early | late
        · exact plain.not_mem.2 early
        · exact absurd late (by decide)
  exact fun member => unfed (within.subset member)

/-- There is no line feed in what fits of a text if its first line with the break does not. -/
theorem Breaks.not_mem_fitting (breaks : Breaks mark rest) (plain : Plain line)
    (cut : ¬bytes (line ++ mark) ≤ limit) : '\n' ∉ fitting limit (line ++ mark ++ rest) := by
  obtain ⟨after, whole⟩ := fitting_prefix limit (line ++ mark ++ rest)
  have small := bytes_fitting_le limit (line ++ mark ++ rest)
  obtain ⟨more, parts, _⟩ := exists_append_of_bytes_le whole (by omega)
  have filled : more ≠ [] := by
    rintro rfl
    rw [List.append_nil] at parts
    rw [← parts] at small
    exact cut small
  exact breaks.not_mem_of_prefix plain parts filled

theorem Breaks.count_feed (breaks : Breaks mark rest) :
    mark.count '\n' = if mark = ['\r'] then 0 else 1 := by
  cases breaks with
  | feed => rfl
  | turnFeed => rfl
  | turn alone => rfl

/-- The line feeds in the first part of a text end the line breaks there that are no lone carriage
returns. -/
theorem Lines.count_fitting (apart : Lines start text lines) (limit : Nat) :
    (fitting limit text).count '\n' =
      (breaksFrom start text).countP
        fun mark => ¬mark.chars = ['\r'] ∧ mark.stop ≤ start + limit := by
  induction apart generalizing limit with
  | @last start line plain =>
      have none := breaksFrom_append plain start []
      rw [List.append_nil] at none
      rw [none, List.count_eq_zero_of_not_mem]
      · rfl
      · have starts := fitting_prefix limit line
        exact fun member => plain.not_mem.2 (starts.subset member)
  | @more start line mark rest lines plain breaks following ih =>
      rw [breaksFrom_append plain, breaksFrom_break breaks]
      rw [← List.append_assoc, List.countP_cons]
      by_cases reached : bytes (line ++ mark) ≤ limit
      · have size := bytes_append line mark
        have place : start + bytes line + bytes mark + (limit - bytes (line ++ mark)) =
            start + limit := by
          omega
        have ends : start + bytes line + bytes mark ≤ start + limit := by omega
        have later := ih (limit - bytes (line ++ mark))
        rw [place] at later
        rw [fitting_append_of_le reached, List.count_append, List.count_append,
          List.count_eq_zero_of_not_mem plain.not_mem.2, breaks.count_feed, later, Nat.zero_add,
          Nat.add_comm]
        congr 1
        by_cases turn : mark = ['\r']
        · simp [turn]
        · simp [turn, Piece.stop, ends]
      · have beyond : ¬start + bytes line + bytes mark ≤ start + limit := by
          rw [bytes_append] at reached
          omega
        rw [List.count_eq_zero_of_not_mem (breaks.not_mem_fitting plain reached),
          countP_breaksFrom_eq_zero (Nat.le_of_not_le beyond)]
        · simp [Piece.stop, beyond]
        · intro other counted
          exact (of_decide_eq_true counted).2

theorem line_positionOf (text : List Char) (offset : Nat) :
    (positionOf text offset).line = (fitting offset text).count '\n' := by
  unfold positionOf
  rw [line_foldl_next]
  exact Nat.zero_add _

/-- The line of a position is the number of line breaks before it that are no lone carriage
returns. -/
theorem line_add_turnsBy (text : List Char) (offset : Nat) :
    (positionOf text offset).line + turnsBy text offset = breaksBy text offset := by
  have feeds := (lines_linesFrom 0 text).count_fitting offset
  rw [Nat.zero_add] at feeds
  unfold turnsBy breaksBy
  rw [line_positionOf, feeds, List.countP_eq_countP_filter_add (breaksFrom 0 text)
    (fun mark => decide (mark.stop ≤ offset)) (fun mark => !decide (mark.chars = ['\r'])),
    List.countP_filter, List.countP_filter]
  congr 1
  · apply List.countP_congr
    intro mark _
    simp [and_comm]
  · apply List.countP_congr
    intro mark _
    simp [and_comm]

/-! ### Lone carriage returns -/

theorem loneTurn_cons {c : Char} {place : Nat} :
    LoneTurn start (c :: rest) place ↔
      (c = '\r' ∧ rest.head? ≠ some '\n' ∧ place = start) ∨
        LoneTurn (start + c.utf8Size) rest place := by
  constructor
  · rintro ⟨before, after, whole, alone, same⟩
    cases before with
    | nil =>
        obtain ⟨rfl, rfl⟩ := List.cons.inj whole
        exact Or.inl ⟨rfl, alone, same⟩
    | cons first before =>
        obtain ⟨rfl, rfl⟩ := List.cons.inj whole
        rw [bytes_cons, ← Nat.add_assoc] at same
        exact Or.inr ⟨before, after, rfl, alone, same⟩
  · rintro (⟨rfl, alone, same⟩ | ⟨before, after, rfl, alone, same⟩)
    · exact ⟨[], rest, rfl, alone, same⟩
    · rw [Nat.add_assoc, ← bytes_cons] at same
      exact ⟨c :: before, after, rfl, alone, same⟩

theorem mem_breaksFrom_iff {place : Nat} :
    ⟨place, ['\r']⟩ ∈ breaksFrom start text ↔ LoneTurn start text place := by
  fun_induction breaksFrom start text with
  | case1 start =>
      constructor
      · exact nofun
      · rintro ⟨before, after, whole, _⟩
        exact absurd whole.symm (List.append_ne_nil_of_right_ne_nil before (List.cons_ne_nil _ _))
  | case2 start rest ih =>
      have place : start + '\r'.utf8Size + '\n'.utf8Size = start + 2 := rfl
      rw [loneTurn_cons, loneTurn_cons, place, ← ih]
      simp
  | case3 start c rest lone others breaks ih =>
      have alone (turn : c = '\r') : rest.head? ≠ some '\n' := by
        intro paired
        obtain ⟨later, same⟩ := List.head?_eq_some_iff.mp paired
        exact lone later turn same
      rw [loneTurn_cons, ← ih, List.mem_cons]
      apply or_congr_left
      constructor
      · intro same
        cases same
        exact ⟨rfl, alone rfl, rfl⟩
      · rintro ⟨rfl, _, rfl⟩
        rfl
  | case4 start c rest lone others inside ih =>
      rw [loneTurn_cons, ← ih]
      constructor
      · exact Or.inr
      · rintro (⟨rfl, _⟩ | member)
        · exact absurd rfl inside
        · exact member

theorem turnsBy_eq_zero {offset : Nat} :
    turnsBy text offset = 0 ↔ ∀ place < offset, ¬LoneTurn 0 text place := by
  unfold turnsBy
  rw [List.countP_eq_zero]
  constructor
  · intro none place early turn
    have counted := none _ (mem_breaksFrom_iff.mpr turn)
    have ends : (⟨place, ['\r']⟩ : Piece).stop ≤ offset := early
    simp [ends] at counted
  · intro none mark member counted
    obtain ⟨turn, ends⟩ := of_decide_eq_true counted
    obtain ⟨place, chars⟩ := mark
    cases turn
    exact none place ends (mem_breaksFrom_iff.mp member)

/-! ### Lines -/

/-- The lines that start at or before a place on a line are that line and those above it. -/
theorem countP_start_le (ordered : lines.Pairwise fun first second => first.stop < second.start)
    {number offset : Nat} (listed : lines[number]? = some piece) (after : piece.start ≤ offset)
    (before : offset ≤ piece.stop) :
    (lines.countP fun other => other.start ≤ offset) = number + 1 := by
  induction lines generalizing number with
  | nil => cases listed
  | cons first lines ih =>
      obtain ⟨later, ordered⟩ := List.pairwise_cons.mp ordered
      rw [List.countP_cons]
      cases number with
      | zero =>
          obtain rfl : first = piece := Option.some.inj listed
          have none : (lines.countP fun other => other.start ≤ offset) = 0 := by
            rw [List.countP_eq_zero]
            intro other member reached
            have apart := later other member
            have early := of_decide_eq_true reached
            omega
          rw [none, if_pos (decide_eq_true after)]
      | succ number =>
          have apart := later piece (List.mem_of_getElem? listed)
          have reached : first.start ≤ offset := by
            unfold Piece.stop at apart
            omega
          rw [ih ordered listed, if_pos (decide_eq_true reached)]

/-- The line breaks up to a place on a line are those between the lines above it and the line. -/
theorem breaksBy_eq {number offset : Nat} (listed : (logicalLines text)[number]? = some piece)
    (after : piece.start ≤ offset) (before : offset ≤ piece.stop) :
    breaksBy text offset = number := by
  have apart := lines_linesFrom 0 text
  have counted : ((logicalLines text).map Piece.start).countP (· ≤ offset) = number + 1 := by
    rw [List.countP_map]
    exact countP_start_le apart.picks.ordered listed after before
  have starts : (logicalLines text).map Piece.start = 0 :: (breaksFrom 0 text).map Piece.stop :=
    apart.map_start
  rw [starts, List.countP_cons, if_pos (decide_eq_true (Nat.zero_le offset)), List.countP_map]
    at counted
  exact Nat.succ.inj counted

end Grammar

/-! ### Diagnostics -/

/-- A problem is with something on a line of the text. -/
theorem Problem.Concerns.exists_line {text : List Char} {outline : Outline}
    (read : Outline.ofText text = .ok outline) {subject : Piece} {problem : Problem}
    (concerns : problem.Concerns outline subject) :
    ∃ (number : Nat) (line : Piece), (logicalLines text)[number]? = some line ∧
      subject.Within line := by
  obtain ⟨front, blocks, apart, covers⟩ := covers_ofText read
  obtain ⟨piece, recorded, inside⟩ := concerns.within_piece
  obtain ⟨line, member, within⟩ := covers.within_line recorded
  rw [lines_iff.mp apart] at member
  obtain ⟨number, listed⟩ := List.mem_iff_getElem?.mp member
  exact ⟨number, line, listed, inside.trans within⟩

/-- A diagnostic tells a problem at the piece that it is with. -/
theorem Check.exists_subject {text : List Char} {outline : Outline}
    (read : Outline.ofText text = .ok outline) {diagnostic : Diagnostic}
    (reported : diagnostic ∈ diagnostics text outline) :
    ∃ (subject : Piece) (problem : Problem),
      diagnostic = ⟨problem.severity, subject.range text, problem.message⟩ ∧
        problem.Concerns outline subject := by
  obtain ⟨front, blocks, _, covers⟩ := covers_ofText read
  obtain ⟨finding, found, rfl⟩ := List.mem_map.mp (List.mem_mergeSort.mp reported)
  obtain ⟨subject, about, concerns⟩ := sound_of_mem_findings covers found
  refine ⟨subject, finding.problem, ?_, concerns⟩
  rw [about]
  rfl

/-- What is read in a text in which there is one thing to find. -/
theorem Reading.diagnostics_of_one (source : String) {text : String} {outline : Outline}
    (read : Outline.ofText text.toList = .ok outline) (finding : Finding)
    (found : Check.findings outline = [finding]) :
    (Reading.ofText source text).diagnostics = [finding.toDiagnostic text.toList] := by
  unfold Reading.ofText
  rw [read]
  change List.mergeSort ((Check.findings outline).map (Finding.toDiagnostic text.toList)) _ = _
  rw [found]
  exact List.mergeSort_singleton _

/-- The line of a position is the number of line breaks before it less the lone carriage returns
among them, and so it is that number as long as there are none; each line of the text but the first
starts at the end of a line break. A diagnostic is on the line with the number of the logical line
that its problem is with, less the lone carriage returns above. -/
theorem Reading.ofText_numbers_lines (source text : String) :
    (logicalLines text.toList).map Piece.start =
      0 :: (breaksFrom 0 text.toList).map Piece.stop ∧
    (∀ offset, (positionOf text.toList offset).line + turnsBy text.toList offset =
        breaksBy text.toList offset ∧
      ((positionOf text.toList offset).line = breaksBy text.toList offset ↔
        ∀ place < offset, ¬LoneTurn 0 text.toList place)) ∧
    ∀ outline, Outline.ofText text.toList = .ok outline →
      ∀ diagnostic ∈ (Reading.ofText source text).diagnostics,
      ∃ (number : Nat) (line subject : Piece) (problem : Problem),
        (logicalLines text.toList)[number]? = some line ∧ subject.Within line ∧
        diagnostic.range.Marks text.toList subject ∧
        diagnostic.message = problem.message ∧ problem.Concerns outline subject ∧
        diagnostic.range.start.line + turnsBy text.toList subject.start = number ∧
        (diagnostic.range.start.line = number ↔
          ∀ place < subject.start, ¬LoneTurn 0 text.toList place) := by
  have behind (offset : Nat) : (positionOf text.toList offset).line = breaksBy text.toList offset ↔
      ∀ place < offset, ¬LoneTurn 0 text.toList place := by
    rw [← turnsBy_eq_zero, ← line_add_turnsBy]
    exact Nat.left_eq_add
  refine ⟨(lines_linesFrom 0 text.toList).map_start,
    fun offset => ⟨line_add_turnsBy text.toList offset, behind offset⟩, ?_⟩
  intro outline read diagnostic reported
  have checked : (Reading.ofText source text).diagnostics =
      Check.diagnostics text.toList outline := by
    unfold Reading.ofText
    rw [read]
  rw [checked] at reported
  obtain ⟨subject, problem, rfl, concerns⟩ := Check.exists_subject read reported
  obtain ⟨number, line, listed, within⟩ := concerns.exists_line read
  have last := within.stop_le
  have counted : breaksBy text.toList subject.start = number := by
    apply breaksBy_eq listed within.start_le
    unfold Piece.stop at last ⊢
    omega
  refine ⟨number, line, subject, problem, listed, within, concerns.marks read, rfl, concerns,
    ?_, ?_⟩
  · rw [← counted]
    exact line_add_turnsBy text.toList subject.start
  · rw [← counted]
    exact behind subject.start

/-- Line feeds and carriage returns with their line feeds are counted alike: what is found on the
third line is on the line with that number. -/
theorem Reading.ofText_on_third_line :
    (Reading.ofText "" "> c\n# T\r\n- $\x7bnope()\x7d").diagnostics =
      [⟨.error, ⟨⟨2, 4⟩, ⟨2, 8⟩⟩,
        "\x27nope\x27 is neither a template nor a builtin function"⟩] ∧
    (∀ place, ¬LoneTurn 0 "> c\n# T\r\n- $\x7bnope()\x7d".toList place) ∧
    ∃ (line subject : Piece),
      (logicalLines "> c\n# T\r\n- $\x7bnope()\x7d".toList)[2]? = some line ∧
      subject.Within line ∧
      (⟨⟨2, 4⟩, ⟨2, 8⟩⟩ : Range).Marks "> c\n# T\r\n- $\x7bnope()\x7d".toList subject := by
  have read : Outline.ofText "> c\n# T\r\n- $\x7bnope()\x7d".toList =
      .ok ⟨[], [⟨⟨⟨6, ['T']⟩, []⟩, [⟨9, "- $\x7bnope()\x7d".toList⟩]⟩], []⟩ := by
    decide +kernel
  have reported := Reading.diagnostics_of_one "" read
    (.about (.unknownFunction "nope") ⟨13, "nope".toList⟩) (by decide +kernel)
  have counted : breaksFrom 0 "> c\n# T\r\n- $\x7bnope()\x7d".toList =
      [⟨3, ['\n']⟩, ⟨7, ['\r', '\n']⟩] := by
    decide +kernel
  have none (place : Nat) : ¬LoneTurn 0 "> c\n# T\r\n- $\x7bnope()\x7d".toList place := by
    rw [← mem_breaksFrom_iff, counted]
    simp
  obtain ⟨number, line, subject, problem, listed, within, marks, _, _, _, numbered⟩ :=
    (Reading.ofText_numbers_lines "" _).2.2 _ read _ (reported ▸ List.mem_singleton_self _)
  have third : 2 = number := numbered.mpr fun place _ => none place
  subst third
  exact ⟨reported, none, line, subject, listed, within, marks⟩

/-- After a lone carriage return positions stay on the line, and so does what is found on the
logical line that starts there. -/
theorem Reading.ofText_behind_lone_turn :
    (Boundary "a\rb".toList 2 ∧ (positionOf "a\rb".toList 2).line = 0 ∧
      breaksBy "a\rb".toList 2 = 1) ∧
    logicalLines "# T\r- $\x7bnope()\x7d".toList =
      [⟨0, "# T".toList⟩, ⟨4, "- $\x7bnope()\x7d".toList⟩] ∧
    (Reading.ofText "" "# T\r- $\x7bnope()\x7d").diagnostics =
      [⟨.error, ⟨⟨0, 8⟩, ⟨0, 12⟩⟩,
        "\x27nope\x27 is neither a template nor a builtin function"⟩] := by
  have read : Outline.ofText "# T\r- $\x7bnope()\x7d".toList =
      .ok ⟨[], [⟨⟨⟨2, ['T']⟩, []⟩, [⟨4, "- $\x7bnope()\x7d".toList⟩]⟩], []⟩ := by
    decide +kernel
  have reported := Reading.diagnostics_of_one "" read
    (.about (.unknownFunction "nope") ⟨8, "nope".toList⟩) (by decide +kernel)
  exact ⟨⟨⟨['a', '\r'], ['b'], rfl, rfl⟩, rfl, rfl⟩, rfl, reported⟩

end TemplateServer
