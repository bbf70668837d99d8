import TemplateServer.Proofs.Expression.Depth

/-!
Lines cut into segments. Segments that make up a line are proper if each is what it may be before
what follows it: an escaped character, an expression that ends at the first brace before which
nothing is open, or a character that neither escapes nor opens anything. Main statement: a line has
one such decomposition, its segments, and its expressions stand in it one after the other.
-/

namespace TemplateServer.Expression

open Text

variable {c : Char} {start offset : Nat} {content before after rest line : List Char}
  {segment : Segment} {parts : List Segment}

/-! ### Decompositions of a line -/

/-- Whether a segment may stand before what follows it in the line. -/
def Segment.Proper (following : List Char) : Segment → Prop
  | .escape none => following = []
  | .escape (some _) => True
  | .closed content => Complete content ∧ NeverCloses content
  | .unclosed rest => following = [] ∧ NeverCloses rest
  | .plain c => c ≠ '\\' ∧ (c = '$' → following.head? ≠ some '{')

/-- Whether segments, one after the other, make up a line, each of them proper where it stands. -/
structure Decomposes (line : List Char) (parts : List Segment) : Prop where
  spells : line = parts.flatMap Segment.chars
  proper : ∀ earlier segment later, parts = earlier ++ segment :: later →
    segment.Proper (later.flatMap Segment.chars)

theorem decomposes_nil : Decomposes line [] ↔ line = [] := by
  constructor
  · intro whole
    exact whole.spells
  · intro empty
    refine ⟨empty, ?_⟩
    intro earlier segment later same
    simp at same

theorem decomposes_cons :
    Decomposes line (segment :: parts) ↔
      ∃ rest, line = segment.chars ++ rest ∧ segment.Proper rest ∧ Decomposes rest parts := by
  constructor
  · intro whole
    refine ⟨parts.flatMap Segment.chars, ?_, whole.proper [] segment parts rfl, rfl, ?_⟩
    · rw [whole.spells, List.flatMap_cons]
    · intro earlier other later same
      apply whole.proper (segment :: earlier)
      rw [same, List.cons_append]
  · intro cut
    rcases cut with ⟨rest, same, proper, whole⟩
    refine ⟨by rw [same, List.flatMap_cons, whole.spells], ?_⟩
    intro earlier other later parts
    cases earlier with
    | nil =>
        rw [List.nil_append, List.cons.injEq] at parts
        rw [← parts.1, ← parts.2, ← whole.spells]
        exact proper
    | cons first earlier =>
        rw [List.cons_append, List.cons.injEq] at parts
        exact whole.proper earlier other later parts.2

/-- A proper segment is what is read first. -/
theorem segments_append (proper : segment.Proper rest) :
    segments (segment.chars ++ rest) = segment :: segments rest := by
  cases segment with
  | escape char =>
      cases char with
      | none =>
          have empty : rest = [] := proper
          subst empty
          simp [Segment.chars, segments]
      | some c => simp [Segment.chars, segments]
  | closed content =>
      have split : splitContent? Nesting.outermost (content ++ '}' :: rest) =
          some (content, rest) :=
        splitContent?_eq_some_iff_first.mpr ⟨rfl, proper⟩
      have spelled : (Segment.closed content).chars ++ rest =
          '$' :: '{' :: (content ++ '}' :: rest) := by
        simp [Segment.chars]
      rw [spelled, segments]
      split
      · rename_i found same
        rw [split] at same
        cases same
        rfl
      · rename_i same
        rw [split] at same
        cases same
  | unclosed whole =>
      have empty : rest = [] := proper.1
      subst empty
      have unsplit := splitContent?_eq_none_iff.mpr proper.2
      have alone : segments [] = [] := by rw [segments]
      rw [List.append_nil, Segment.chars, alone, segments]
      split
      · rename_i found same
        rw [unsplit] at same
        cases same
      · rfl
  | plain c =>
      change segments (c :: rest) = _
      rw [segments]
      · intro backslash _
        exact proper.1 backslash
      · intro other tail backslash _
        exact proper.1 backslash
      · intro tail dollar same
        apply proper.2 dollar
        rw [same]
        rfl

theorem decomposes_segments (line : List Char) : Decomposes line (segments line) := by
  fun_induction segments line with
  | case1 => exact decomposes_nil.mpr rfl
  | case2 => exact decomposes_cons.mpr ⟨[], rfl, rfl, decomposes_nil.mpr rfl⟩
  | case3 c rest ih => exact decomposes_cons.mpr ⟨rest, rfl, trivial, ih⟩
  | case4 rest content following split ih =>
      have first := splitContent?_eq_some_iff_first.mp split
      refine decomposes_cons.mpr ⟨following, ?_, first.2, ih⟩
      rw [first.1]
      simp [Segment.chars]
  | case5 rest split =>
      have never := splitContent?_eq_none_iff.mp split
      refine decomposes_cons.mpr ⟨[], ?_, ⟨rfl, never⟩, decomposes_nil.mpr rfl⟩
      rw [List.append_nil]
      rfl
  | case6 c rest notLone notEscape notOpened ih =>
      refine decomposes_cons.mpr ⟨rest, rfl, ⟨?_, ?_⟩, ih⟩
      · intro backslash
        cases rest with
        | nil => exact notLone backslash rfl
        | cons d rest => exact notEscape d rest backslash rfl
      · intro dollar
        apply head?_ne_of_forall
        intro tail
        exact notOpened tail dollar

/-- A line has one decomposition. -/
theorem decomposes_iff : Decomposes line parts ↔ parts = segments line := by
  constructor
  · intro whole
    induction parts generalizing line with
    | nil => rw [decomposes_nil.mp whole, segments]
    | cons segment parts ih =>
        rcases decomposes_cons.mp whole with ⟨rest, same, proper, later⟩
        rw [same, segments_append proper, ih later]
  · intro same
    rw [same]
    exact decomposes_segments line

/-! ### Where the segments stand -/

def Segment.inside : Segment → List Char
  | .closed content => content
  | .unclosed rest => rest
  | .escape _ => []
  | .plain _ => []

theorem Segment.Proper.neverCloses (proper : segment.Proper rest) : NeverCloses segment.inside := by
  have nothing : NeverCloses [] := by
    intro before after same
    simp at same
  cases segment with
  | escape char => exact nothing
  | closed content => exact proper.2
  | unclosed whole => exact proper.2
  | plain c => exact nothing

theorem Segment.bytes_chars_pos (segment : Segment) : 0 < bytes segment.chars := by
  have filled : segment.chars ≠ [] := by
    cases segment with
    | escape char => cases char <;> exact List.cons_ne_nil _ _
    | closed content => exact List.cons_ne_nil _ _
    | unclosed rest => exact List.cons_ne_nil _ _
    | plain c => exact List.cons_ne_nil _ _
  rcases List.exists_cons_of_ne_nil filled with ⟨c, rest, same⟩
  have positive := c.utf8Size_pos
  rw [same, bytes_cons]
  omega

theorem locate_append (start : Nat) (first second : List Segment) :
    locate start (first ++ second) =
      locate start first ++ locate (start + bytes (first.flatMap Segment.chars)) second := by
  induction first generalizing start with
  | nil => rfl
  | cons segment first ih =>
      rw [List.cons_append, locate, locate, ih, List.flatMap_cons, bytes_append, Nat.add_assoc,
        List.cons_append]

theorem mem_locate_iff :
    (offset, segment) ∈ locate start parts ↔
      ∃ earlier later, parts = earlier ++ segment :: later ∧
        offset = start + bytes (earlier.flatMap Segment.chars) := by
  induction parts generalizing start with
  | nil => simp [locate]
  | cons head parts ih =>
      rw [mem_locate_cons, ih]
      constructor
      · intro found
        rcases found with ⟨rfl, rfl⟩ | ⟨earlier, later, rfl, reached⟩
        · exact ⟨[], parts, rfl, rfl⟩
        · refine ⟨head :: earlier, later, rfl, ?_⟩
          rw [List.flatMap_cons, bytes_append]
          omega
      · intro split
        rcases split with ⟨earlier, later, same, reached⟩
        cases earlier with
        | nil =>
            rw [List.nil_append, List.cons.injEq] at same
            exact Or.inl ⟨same.1.symm, reached⟩
        | cons first earlier =>
            rw [List.cons_append, List.cons.injEq] at same
            rw [List.flatMap_cons, bytes_append, ← same.1] at reached
            exact Or.inr ⟨earlier, later, same.2, by omega⟩

theorem pairwise_locate_lt (start : Nat) (parts : List Segment) :
    (locate start parts).Pairwise fun first second =>
      first.1 < second.1 ∧ first.1 + bytes first.2.chars ≤ second.1 := by
  apply (pairwise_locate start parts).imp
  intro first second ordered
  have positive := first.2.bytes_chars_pos
  omega

/-- Every character of a line belongs to a segment. -/
theorem exists_segment_of_flatMap (spelled : parts.flatMap Segment.chars = before ++ c :: rest) :
    ∃ earlier segment later front back, parts = earlier ++ segment :: later ∧
      segment.chars = front ++ c :: back ∧ before = earlier.flatMap Segment.chars ++ front ∧
      rest = back ++ later.flatMap Segment.chars := by
  induction parts generalizing before with
  | nil => simp at spelled
  | cons head parts ih =>
      rw [List.flatMap_cons] at spelled
      rcases List.append_eq_append_iff.mp spelled with
        ⟨middle, longer, remaining⟩ | ⟨middle, longer, remaining⟩
      · -- the character comes after the first segment
        rcases ih remaining with ⟨earlier, segment, later, front, back, rfl, chars, rfl, rfl⟩
        refine ⟨head :: earlier, segment, later, front, back, rfl, chars, ?_, rfl⟩
        rw [longer, List.flatMap_cons, List.append_assoc]
      · cases middle with
        | nil =>
            rw [List.append_nil] at longer
            have first : parts.flatMap Segment.chars = [] ++ c :: rest := remaining.symm
            rcases ih first with
              ⟨earlier, segment, later, front, back, rfl, chars, nothing, rfl⟩
            refine ⟨head :: earlier, segment, later, front, back, rfl, chars, ?_, rfl⟩
            rw [← longer, List.flatMap_cons, List.append_assoc, ← nothing, List.append_nil]
        | cons first middle =>
            rw [List.cons_append, List.cons.injEq] at remaining
            refine ⟨[], head, parts, before, middle, rfl, ?_, rfl, remaining.2⟩
            rw [longer, remaining.1]

/-- What an opening of an expression can be that stands at a place of a line: the start of an
expression, an escaped character and a brace, or a part of an expression that starts before. -/
inductive Opening (items : List (Nat × Segment)) (place : Nat) : Prop where
  | starts {segment : Segment} (expression : segment.IsExpression)
    (found : (place, segment) ∈ items)
  | escaped {offset : Nat} (found : (offset, .escape (some '$')) ∈ items)
    (second : place = offset + 1)
  | inside {offset : Nat} {segment : Segment} (expression : segment.IsExpression)
    (found : (offset, segment) ∈ items) (late : offset < place)
    (early : place < offset + bytes segment.chars)

/-- Each opening in an expression is the one that starts it, or a part of it. -/
theorem Opening.of_expression {items : List (Nat × Segment)} {front back : List Char}
    (expression : segment.IsExpression) (found : (offset, segment) ∈ items)
    (chars : segment.chars = front ++ c :: back) : Opening items (offset + bytes front) := by
  cases front with
  | nil => exact .starts expression found
  | cons first front =>
      have positive := first.utf8Size_pos
      have more := c.utf8Size_pos
      apply Opening.inside expression found
      · rw [bytes_cons]
        omega
      · rw [chars, bytes_append, bytes_cons, bytes_cons]
        omega

theorem Decomposes.opening (whole : Decomposes line parts)
    (opened : line = before ++ '$' :: '{' :: rest) :
    Opening (locate start parts) (start + bytes before) := by
  have spelled : parts.flatMap Segment.chars = before ++ '$' :: '{' :: rest :=
    whole.spells.symm.trans opened
  rcases exists_segment_of_flatMap spelled with
    ⟨earlier, segment, later, front, back, same, chars, rfl, remaining⟩
  have proper := whole.proper earlier segment later same
  have found : (start + bytes (earlier.flatMap Segment.chars), segment) ∈ locate start parts :=
    mem_locate_iff.mpr ⟨earlier, later, same, rfl⟩
  rw [bytes_append, ← Nat.add_assoc]
  cases segment with
  | escape char =>
      cases char with
      | none =>
          cases front with
          | nil => simp [Segment.chars] at chars
          | cons first front => simp [Segment.chars] at chars
      | some d =>
          have placed : front = ['\\'] ∧ d = '$' ∧ back = [] := by
            cases front with
            | nil => simp [Segment.chars] at chars
            | cons first front =>
                cases front with
                | nil => simpa [Segment.chars, and_assoc, eq_comm] using chars
                | cons second front => simp [Segment.chars] at chars
          rw [placed.2.1] at found
          rw [placed.1]
          exact .escaped found rfl
  | closed content =>
      have expression : (Segment.closed content).IsExpression := trivial
      exact .of_expression expression found chars
  | unclosed whole =>
      have expression : (Segment.unclosed whole).IsExpression := trivial
      exact .of_expression expression found chars
  | plain d =>
      -- a brace follows the character, which would then not be plain
      have placed : front = [] ∧ d = '$' ∧ back = [] := by
        cases front with
        | nil => simpa [Segment.chars, eq_comm] using chars
        | cons first front => simp [Segment.chars] at chars
      rw [placed.2.2, List.nil_append] at remaining
      rw [← remaining] at proper
      exact absurd rfl (proper.2 placed.2.1)

theorem Decomposes.closed_at (whole : Decomposes line parts)
    (found : (offset, .closed content) ∈ locate start parts) :
    ∃ before after, line = before ++ '$' :: '{' :: (content ++ '}' :: after) ∧
      offset = start + bytes before ∧ Complete content ∧ NeverCloses content := by
  rcases mem_locate_iff.mp found with ⟨earlier, later, same, reached⟩
  refine ⟨earlier.flatMap Segment.chars, later.flatMap Segment.chars, ?_, reached,
    whole.proper earlier _ later same⟩
  rw [whole.spells, same, List.flatMap_append, List.flatMap_cons]
  simp [Segment.chars]

/-- An expression that is not closed takes all the rest of the line. -/
theorem Decomposes.unclosed_at (whole : Decomposes line parts)
    (found : (offset, .unclosed rest) ∈ locate start parts) :
    ∃ earlier before, locate start parts = earlier ++ [(offset, .unclosed rest)] ∧
      (∀ place other, (place, .unclosed other) ∉ earlier) ∧
      line = before ++ '$' :: '{' :: rest ∧ offset = start + bytes before ∧ NeverCloses rest := by
  -- nothing follows it, since every segment has characters
  have last {rest : List Char} {earlier later : List Segment}
      (same : parts = earlier ++ .unclosed rest :: later) : later = [] := by
    have proper := whole.proper earlier _ later same
    cases later with
    | nil => rfl
    | cons segment later =>
        have positive := segment.bytes_chars_pos
        have empty := congrArg bytes proper.1
        rw [List.flatMap_cons, bytes_append, bytes_nil] at empty
        omega
  rcases mem_locate_iff.mp found with ⟨earlier, later, same, reached⟩
  have proper := whole.proper earlier _ later same
  have nothing := last same
  subst nothing
  refine ⟨locate start earlier, earlier.flatMap Segment.chars, ?_, ?_, ?_, reached, proper.2⟩
  · rw [same, locate_append, ← reached]
    rfl
  · intro place other member
    rcases mem_locate_iff.mp member with ⟨before, after, split, _⟩
    rw [split, List.append_assoc, List.cons_append] at same
    have filled := last same
    simp at filled
  · rw [whole.spells, same, List.flatMap_append]
    simp [Segment.chars]

/-! ### The main statement -/

/-- The segments of a line are its one decomposition. They start one after the other and do not
overlap; every opening of an expression starts one, or is escaped, or stands inside of one. A closed
expression ends at the first brace after a complete part of it; an unclosed one is the last segment,
and the only one, and no brace in the rest of the line comes after a complete part. Up to there the
counter of the scan is the number of open braces, which is never negative. -/
theorem segments_decompose_line (start : Nat) (line : List Char) :
    (∀ parts, Decomposes line parts ↔ parts = segments line) ∧
    (locate start (segments line)).Pairwise (fun first second =>
      first.1 < second.1 ∧ first.1 + bytes first.2.chars ≤ second.1) ∧
    (∀ before rest, line = before ++ '$' :: '{' :: rest →
      Opening (locate start (segments line)) (start + bytes before)) ∧
    (∀ offset content, (offset, .closed content) ∈ locate start (segments line) →
      ∃ before after, line = before ++ '$' :: '{' :: (content ++ '}' :: after) ∧
        offset = start + bytes before ∧ Complete content ∧ NeverCloses content) ∧
    (∀ offset rest, (offset, .unclosed rest) ∈ locate start (segments line) →
      ∃ earlier before, locate start (segments line) = earlier ++ [(offset, .unclosed rest)] ∧
        (∀ place other, (place, .unclosed other) ∉ earlier) ∧
        line = before ++ '$' :: '{' :: rest ∧ offset = start + bytes before ∧
        NeverCloses rest) ∧
    ∀ segment ∈ segments line, ∀ before, before <+: segment.inside →
      0 ≤ braceDepth before ∧
        Nesting.outermost.run? before = some ⟨(braceDepth before).toNat, openQuote before⟩ := by
  have whole := decomposes_segments line
  refine ⟨fun parts => decomposes_iff, pairwise_locate_lt start _, ?_, ?_, ?_, ?_⟩
  · intro before rest opened
    exact whole.opening opened
  · intro offset content found
    exact whole.closed_at found
  · intro offset rest found
    exact whole.unclosed_at found
  · intro segment member before inside
    rcases List.append_of_mem member with ⟨earlier, later, same⟩
    exact (whole.proper earlier segment later same).neverCloses.run?_eq inside

/-- A line with an escaped opening, an expression with a brace in a literal and one that a nested
brace leaves open. -/
theorem decomposed_around_literal_brace :
    segments "\\$\x7ba\x7d$$\x7bb(\x27\x7d\x27)\x7d$\x7bc\x7b".toList =
      [.escape (some '$'), .plain '{', .plain 'a', .plain '}', .plain '$',
        .closed "b(\x27\x7d\x27)".toList, .unclosed "c\x7b".toList] ∧
    Complete "b(\x27\x7d\x27)".toList ∧ NeverCloses "b(\x27\x7d\x27)".toList ∧
    NeverCloses "c\x7b".toList ∧
    Opening (locate 0 (segments "\\$\x7ba\x7d$$\x7bb(\x27\x7d\x27)\x7d$\x7bc\x7b".toList)) 1 ∧
    Nesting.outermost.run? "c\x7b".toList = some ⟨1, none⟩ := by
  have read : segments "\\$\x7ba\x7d$$\x7bb(\x27\x7d\x27)\x7d$\x7bc\x7b".toList =
      [.escape (some '$'), .plain '{', .plain 'a', .plain '}', .plain '$',
        .closed "b(\x27\x7d\x27)".toList, .unclosed "c\x7b".toList] := by
    decide +kernel
  have told := segments_decompose_line 0 "\\$\x7ba\x7d$$\x7bb(\x27\x7d\x27)\x7d$\x7bc\x7b".toList
  rcases told with ⟨_, _, openings, closed, unclosed, counted⟩
  rcases closed 6 "b(\x27\x7d\x27)".toList (by rw [read]; decide) with
    ⟨_, _, _, _, complete, never⟩
  rcases unclosed 15 "c\x7b".toList (by rw [read]; decide) with ⟨_, _, _, _, _, _, unended⟩
  have last := counted (.unclosed "c\x7b".toList) (by rw [read]; decide) "c\x7b".toList
    (List.prefix_refl _)
  exact ⟨read, complete, never, unended, openings ['\\'] "a\x7d$$\x7bb(\x27\x7d\x27)\x7d$\x7bc\x7b".toList rfl,
    last.2⟩

end TemplateServer.Expression
