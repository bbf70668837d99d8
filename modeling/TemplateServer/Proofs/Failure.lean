import TemplateServer.Proofs.Check.Order
import TemplateServer.Proofs.Grammar.Furthest
import TemplateServer.Proofs.Grammar.Relocation

/-!
Failures to read a text. The diagnostic of a failure reaches from its place to the end of what its
line shows, and a text fails where the first line that starts like a header and is none stops being
one. Main statement: the reading of a text that fails depends on nothing but that line and its
number.
-/

namespace TemplateServer

open Text Grammar

/-! ### What a line shows -/

namespace Text

variable {above rest line tail : List Char}

/-- What a text shows on its first line: all up to the line feed, without carriage returns at the
end. -/
def shown (rest : List Char) : List Char :=
  dropEndWhile (· == '\r') (rest.takeWhile (· != '\n'))

def lineWidth (text : List Char) (number : Nat) : Nat :=
  ((splitLine? number text).map fun parts => units (shown parts.2)).getD 0

theorem exists_shown_append (rest : List Char) :
    ∃ more, rest = shown rest ++ more ∧ '\n' ∉ shown rest := by
  obtain ⟨turns, trimmed, _⟩ :=
    exists_dropEndWhile_append (· == '\r') (rest.takeWhile (· != '\n'))
  refine ⟨turns ++ rest.dropWhile (· != '\n'), ?_, ?_⟩
  · unfold shown
    rw [← List.append_assoc, ← trimmed, List.takeWhile_append_dropWhile]
  · intro member
    apply not_mem_takeWhile_ne '\n' rest
    rw [trimmed]
    exact List.mem_append_left turns member

theorem lineWidth_append (starts : ∀ c, above.getLast? = some c → c = '\n') (rest : List Char) :
    lineWidth (above ++ rest) (above.count '\n') = units (shown rest) := by
  unfold lineWidth
  rw [splitLine?_append starts]
  rfl

theorem lineEnd?_append (starts : ∀ c, above.getLast? = some c → c = '\n') (rest : List Char) :
    lineEnd? (above ++ rest) (above.count '\n') = some (bytes (above ++ shown rest)) := by
  unfold lineEnd?
  rw [splitLine?_append starts, bytes_append]
  rfl

theorem foldl_next_append (starts : ∀ c, above.getLast? = some c → c = '\n')
    (plain : '\n' ∉ line) :
    (above ++ line).foldl Position.next Position.zero = ⟨above.count '\n', units line⟩ := by
  rw [List.foldl_append, foldl_next_of_starts starts, foldl_next_of_plain plain, Nat.zero_add]

theorem units_le_of_bytes_le {first second other : List Char}
    (same : first ++ rest = second ++ other) (sizes : bytes first ≤ bytes second) :
    units first ≤ units second := by
  obtain ⟨middle, longer, _⟩ := exists_append_of_bytes_le same sizes
  rw [longer, units_append]
  exact Nat.le_add_right _ _

end Text

/-! ### The range of a failure -/

/-- The diagnostic of a failure reaches from the position of its offset to the end of what the line
shows, if that is further. -/
theorem Failure.toDiagnostic_eq (text : List Char) (failure : Failure) :
    failure.toDiagnostic text =
      ⟨.error, ⟨positionOf text failure.offset, (positionOf text failure.offset).line,
        max (positionOf text failure.offset).character
          (lineWidth text (positionOf text failure.offset).line)⟩, failure.message⟩ := by
  obtain ⟨after, whole⟩ := fitting_prefix failure.offset text
  obtain ⟨above, current, same, starts, plain, reached⟩ :=
    exists_lastLine (fitting failure.offset text)
  have position : positionOf text failure.offset = ⟨above.count '\n', units current⟩ := reached
  have parts : text = above ++ (current ++ after) := by
    rw [← whole, same, List.append_assoc]
  obtain ⟨more, cut, unbroken⟩ := exists_shown_append (current ++ after)
  have found : lineEnd? text (above.count '\n') =
      some (bytes (above ++ shown (current ++ after))) := by
    rw [parts]
    exact lineEnd?_append starts _
  have width : lineWidth text (above.count '\n') = units (shown (current ++ after)) := by
    rw [parts]
    exact lineWidth_append starts _
  have upTo : text = (above ++ shown (current ++ after)) ++ more := by
    rw [List.append_assoc, ← cut, ← parts]
  unfold Failure.toDiagnostic
  simp only [position, found, width]
  congr 2
  by_cases late : bytes (above ++ shown (current ++ after)) ≤ failure.offset
  · -- the end of what the line shows is a place, so that it is not after that of the failure
    have size : bytes text = bytes (above ++ shown (current ++ after)) + bytes more := by
      rw [← bytes_append, ← upTo]
    have placed := (isGreatest_fitting text failure.offset).2
      ⟨⟨above ++ shown (current ++ after), more, upTo, rfl⟩, by omega⟩
    have shorter : units (shown (current ++ after)) ≤ units current := by
      apply units_le_of_bytes_le cut.symm
      rw [same, bytes_append, bytes_append] at placed
      omega
    rw [Nat.max_eq_right late, position, Nat.max_eq_left shorter]
  · have longer : units current ≤ units (shown (current ++ after)) := by
      apply units_le_of_bytes_le cut
      have fits := bytes_fitting_le failure.offset text
      rw [same, bytes_append] at fits
      rw [bytes_append] at late
      omega
    have early : failure.offset ≤ bytes (above ++ shown (current ++ after)) := by omega
    rw [Nat.max_eq_left early, Nat.max_eq_right longer]
    conv =>
      lhs
      arg 1
      rw [upTo]
    rw [positionOf_append, foldl_next_append starts unbroken]

/-! ### The first malformed line -/

/-- Whether a text cut in three has the first line that starts like a header and is none in the
middle. -/
structure Grammar.FailsAt (text above line tail : List Char) : Prop where
  parts : text = above ++ (line ++ tail)
  marked : line ∈ Form.marked '#'
  malformed : line ∉ Form.header
  first : ∃ before after, Lines 0 text (before ++ ⟨bytes above, line⟩ :: after) ∧
    ∀ other ∈ before, other.chars ∈ Form.marked '#' → other.chars ∈ Form.header

variable {text above line tail : List Char} {fault : Attempts}

theorem Grammar.Outline.ofLines_of_first {before : List Piece} {piece : Piece}
    (readable : ∀ other ∈ before, ∃ entry, Entry.ofLine other = .ok entry)
    (broken : Entry.ofLine piece = .error fault) (after : List Piece) :
    Outline.ofLines (before ++ piece :: after) = .error fault := by
  induction before with
  | nil => rw [List.nil_append, ofLines_cons, broken]
  | cons other before ih =>
      obtain ⟨entry, read⟩ := readable other List.mem_cons_self
      have later := ih fun another member => readable another (List.mem_cons_of_mem other member)
      rw [List.cons_append, ofLines_cons, read, later]
      rfl

theorem Grammar.failsAt_of_lines {before after : List Piece}
    (parts : text = above ++ (line ++ tail))
    (apart : Lines 0 text (before ++ ⟨bytes above, line⟩ :: after))
    (readable : ∀ other ∈ before, ∃ entry, Entry.ofLine other = .ok entry)
    (broken : Entry.ofLine ⟨bytes above, line⟩ = .error fault) : FailsAt text above line tail where
  parts := parts
  marked := (ofLine_error broken).1
  malformed := by
    intro headed
    obtain ⟨entry, read⟩ := (@ofLine_iff ⟨bytes above, line⟩).mpr fun _ => headed
    rw [broken] at read
    cases read
  first := ⟨before, after, apart, fun other member => ofLine_iff.mp (readable other member)⟩

theorem Grammar.exists_failsAt (failed : Outline.ofText text = .error fault) :
    ∃ above line tail, FailsAt text above line tail := by
  have apart := lines_linesFrom 0 text
  obtain ⟨before, piece, after, split, readable, broken⟩ := exists_malformed_of_ofText apart failed
  rw [split] at apart
  obtain ⟨above, tail, parts, start⟩ :=
    apart.picks.within piece (List.mem_append_right before List.mem_cons_self)
  have same : piece = ⟨bytes above, piece.chars⟩ := by
    rw [← Nat.zero_add (bytes above)]
    change piece.start = 0 + bytes above at start
    rw [← start]
  rw [same] at apart broken
  exact ⟨above, piece.chars, tail, failsAt_of_lines parts apart readable broken⟩

/-- What is wrong with a line does not depend on where it stands. -/
theorem Grammar.Entry.ofLine_at (start : Nat) (chars : List Char) :
    Entry.ofLine ⟨start, chars⟩ =
      relocated (start + ·) (Entry.relocate (start + ·)) (Entry.ofLine ⟨0, chars⟩) := by
  have rigid : Piece.Rigid (start + ·) ⟨0, chars⟩ := by
    intro first second _
    change start + (0 + bytes first) = start + 0 + bytes first
    omega
  exact Entry.ofLine_relocate rigid

theorem Grammar.FailsAt.exists_fault (fails : FailsAt text above line tail) :
    ∃ fault, Entry.ofLine ⟨0, line⟩ = .error fault ∧
      Outline.ofText text = .error (fault.relocate (bytes above + ·)) := by
  obtain ⟨before, after, apart, readable⟩ := fails.first
  cases read : Entry.ofLine ⟨0, line⟩ with
  | ok entry =>
      have headed := ofLine_iff.mp ⟨entry, read⟩ fails.marked
      exact absurd headed fails.malformed
  | error fault =>
      refine ⟨fault, rfl, ?_⟩
      rw [Outline.ofText_eq, ← lines_iff.mp apart]
      apply Outline.ofLines_of_first
      · exact fun other member => ofLine_iff.mpr (readable other member)
      · rw [Entry.ofLine_at, read]
        rfl

/-- A line is reported at a place after its mark. -/
theorem Grammar.bounds_of_ofLine_error (broken : Entry.ofLine ⟨0, line⟩ = .error fault) :
    bytes (line.takeWhile isBlank) + 1 ≤ fault.offset ∧ fault.offset ≤ bytes line ∧
      ∃ first second, line = first ++ second ∧ fault.offset = bytes first := by
  obtain ⟨marked, reported⟩ := ofLine_error broken
  obtain ⟨chars, head⟩ := List.head?_eq_some_iff.mp ((Form.mem_marked line rfl).mp marked)
  have mark := Piece.start_lt_drop_one
    (show ((⟨0, line⟩ : Piece).dropWhile isBlank).chars = '#' :: chars from head)
  have rest : (((⟨0, line⟩ : Piece).dropWhile isBlank).drop 1).Within ⟨0, line⟩ :=
    (Piece.within_drop _ 1).trans (Piece.within_dropWhile _ isBlank)
  have after := reported.bounds.1
  have before := (reported.widen rest).bounds.2
  refine ⟨?_, ?_, ?_⟩
  · change 0 + bytes (line.takeWhile isBlank) < _ at mark
    omega
  · change fault.offset ≤ 0 + bytes line at before
    omega
  · obtain ⟨place, ⟨first, second, chars, start⟩, same⟩ := (reported.widen rest).place
    refine ⟨first, place.chars ++ second, chars, ?_⟩
    rw [same, start, Nat.zero_add]

/-! ### The reading of a text that fails -/

theorem Reading.ofText_of_error (source : String) {text : String}
    (failed : Outline.ofText text.toList = .error fault) :
    ∃ stop, Reading.ofText source text =
      ⟨[], [⟨.error, ⟨positionOf text.toList fault.offset, stop⟩,
        "Syntax error: expected " ++ Rule.enumerate fault.expected⟩]⟩ := by
  have message : (Failure.ofAttempts fault).message =
      "Syntax error: expected " ++ Rule.enumerate fault.expected := by
    change "Syntax error: " ++ fault.reason = _
    rw [reason_of_ofText failed, ← String.append_assoc]
    rfl
  refine ⟨((Failure.ofAttempts fault).toDiagnostic text.toList).range.stop, ?_⟩
  unfold Reading.ofText
  rw [failed, ← message]
  rfl

/-- Whether what follows a line ends it for the grammar and for editors alike. -/
def Text.EndsLine (tail : List Char) : Prop :=
  tail = [] ∨ (∃ rest, tail = '\n' :: rest) ∨ ∃ rest, tail = '\r' :: '\n' :: rest

theorem Text.EndsLine.shown_append (ends : EndsLine tail) (plain : Plain line) :
    shown (line ++ tail) = line := by
  have unbroken : ∀ c ∈ line, (c != '\n') = true := by
    intro c member
    rw [bne_iff_ne]
    rintro rfl
    exact plain.not_mem.2 member
  have unturned : ∀ c, line.getLast? = some c → (c == '\r') = false := by
    intro c last
    rw [beq_eq_false_iff_ne]
    rintro rfl
    exact plain.not_mem.1 (List.mem_of_getLast? last)
  unfold shown
  rcases ends with rfl | ⟨rest, rfl⟩ | ⟨rest, rfl⟩
  · rw [takeWhile_append_of_all unbroken (stops_nil _), dropEndWhile_eq_self unturned]
  · rw [takeWhile_append_of_all unbroken (stops_cons rfl rest), dropEndWhile_eq_self unturned]
  · rw [List.append_cons, takeWhile_append_of_all _ (stops_cons rfl rest)]
    · exact dropEndWhile_append_of_all (List.forall_mem_singleton.mpr rfl) unturned
    · exact List.forall_mem_append.mpr ⟨unbroken, List.forall_mem_singleton.mpr rfl⟩

/-- The reading of a text that fails is told by the line it fails at and the number of that line. -/
theorem Reading.ofText_of_failsAt (source : String) {text : String}
    (fails : FailsAt text.toList above line tail)
    (starts : ∀ c, above.getLast? = some c → c = '\n') (ends : EndsLine tail)
    (broken : Entry.ofLine ⟨0, line⟩ = .error fault) :
    Reading.ofText source text =
      ⟨[], [⟨.error, ⟨⟨above.count '\n', units (fitting fault.offset line)⟩,
        ⟨above.count '\n', units line⟩⟩, (Failure.ofAttempts fault).message⟩]⟩ := by
  obtain ⟨before, after, apart, _⟩ := fails.first
  have plain : Plain line :=
    apart.plain ⟨bytes above, line⟩ (List.mem_append_right before List.mem_cons_self)
  obtain ⟨other, same, failed⟩ := fails.exists_fault
  rw [broken] at same
  cases same
  obtain ⟨_, _, first, second, cut, offset⟩ := bounds_of_ofLine_error broken
  have position : positionOf text.toList
      (Failure.ofAttempts (fault.relocate (bytes above + ·))).offset =
        ⟨above.count '\n', units first⟩ := by
    change positionOf text.toList (bytes above + fault.offset) = _
    have plainFirst : '\n' ∉ first := by
      intro member
      apply plain.not_mem.2
      rw [cut]
      exact List.mem_append_left second member
    have whole : text.toList = (above ++ first) ++ (second ++ tail) := by
      rw [fails.parts, cut]
      simp only [List.append_assoc]
    rw [whole, offset, ← bytes_append, positionOf_append, foldl_next_append starts plainFirst]
  have width : lineWidth text.toList (above.count '\n') = units line := by
    rw [fails.parts, lineWidth_append starts, ends.shown_append plain]
  have longer : units first ≤ units line := by
    rw [cut, units_append]
    exact Nat.le_add_right _ _
  have upTo : fitting fault.offset line = first := by
    rw [offset, cut, fitting_append]
  unfold Reading.ofText
  simp only [failed, upTo, Failure.toDiagnostic_eq, position, width, Nat.max_eq_right longer]
  rfl

/-- A text is read as the grammar reads it, and fails to be read if and only if one of its lines
starts like a header and is none. Its reading is then one diagnostic, at the furthest place where a
rule of the grammar is tried in vain in all the text, which is a place of the first such line after
the mark, and sent with its range as it is if the text takes less than 2 ^ 32 bytes. Where that
line is a whole line to editors as well, the reading depends on the line and its
number alone. -/
theorem Reading.ofText_fails_locally (source text : String) :
    Outline.ofText text.toList = (Pattern.parse text.toList).map Outline.ofEntries ∧
    ((∃ fault, Pattern.parse text.toList = .error fault) ↔
      ∃ above line tail, FailsAt text.toList above line tail) ∧
    ∀ above line tail, FailsAt text.toList above line tail →
      (∃ fault stop, Pattern.parse text.toList = .error fault ∧
        IsGreatest {place | Pattern.file.TriesAt .plain ⟨0, text.toList⟩ place} fault.offset ∧
        bytes above + bytes (line.takeWhile isBlank) + 1 ≤ fault.offset ∧
        fault.offset ≤ bytes above + bytes line ∧
        Reading.ofText source text =
          ⟨[], [⟨.error, ⟨positionOf text.toList fault.offset, stop⟩,
            "Syntax error: expected " ++ Rule.enumerate fault.expected⟩]⟩ ∧
        (bytes text.toList < UInt32.size → ∀ diagnostic ∈ (Reading.ofText source text).diagnostics,
          diagnostic.range.wrapped = diagnostic.range)) ∧
      ∀ otherSource other otherAbove otherTail,
        FailsAt (String.toList other) otherAbove line otherTail →
        (∀ c, above.getLast? = some c → c = '\n') →
        (∀ c, otherAbove.getLast? = some c → c = '\n') →
        above.count '\n' = otherAbove.count '\n' → EndsLine tail → EndsLine otherTail →
        Reading.ofText otherSource other = Reading.ofText source text := by
  refine ⟨Outline.ofText_eq_parse text.toList, ⟨?_, ?_⟩, ?_⟩
  · rintro ⟨fault, failed⟩
    exact exists_failsAt (Outline.ofText_error_iff.mpr failed)
  · rintro ⟨above, line, tail, fails⟩
    obtain ⟨fault, _, failed⟩ := fails.exists_fault
    exact ⟨_, Outline.ofText_error_iff.mp failed⟩
  · intro above line tail fails
    obtain ⟨fault, broken, failed⟩ := fails.exists_fault
    obtain ⟨after, before, _⟩ := bounds_of_ofLine_error broken
    have parsed := Outline.ofText_error_iff.mp failed
    constructor
    · obtain ⟨stop, same⟩ := Reading.ofText_of_error source failed
      refine ⟨fault.relocate (bytes above + ·), stop, parsed, Pattern.isGreatest_of_parse parsed, ?_,
        ?_, same, fun small _ => Reading.wrapped_range small⟩
      · change _ ≤ bytes above + fault.offset
        omega
      · change bytes above + fault.offset ≤ _
        omega
    · intro otherSource other otherAbove otherTail otherFails starts otherStarts counted ends
        otherEnds
      rw [Reading.ofText_of_failsAt otherSource otherFails otherStarts otherEnds broken,
        Reading.ofText_of_failsAt source fails starts ends broken, counted]

theorem Reading.ofText_fails_locally_at_list :
    FailsAt "# C\n # A(p, ".toList "# C\n".toList " # A(p, ".toList [] ∧
      FailsAt "[x](y)\r\n # A(p, \r\n# (".toList "[x](y)\r\n".toList " # A(p, ".toList
        "\r\n# (".toList ∧
      Reading.ofText "a" "# C\n # A(p, " = Reading.ofText "b" "[x](y)\r\n # A(p, \r\n# (" := by
  have last : FailsAt "# C\n # A(p, ".toList "# C\n".toList " # A(p, ".toList [] := by
    have broken : Entry.ofLine ⟨4, " # A(p, ".toList⟩ = .error ⟨12, [.parameter], []⟩ := by
      decide +kernel
    have apart : Lines 0 "# C\n # A(p, ".toList
        ([⟨0, "# C".toList⟩] ++ ⟨4, " # A(p, ".toList⟩ :: []) := lines_iff.mpr (by decide)
    exact failsAt_of_lines rfl apart (List.forall_mem_singleton.mpr ⟨_, rfl⟩) broken
  have inside : FailsAt "[x](y)\r\n # A(p, \r\n# (".toList "[x](y)\r\n".toList
      " # A(p, ".toList "\r\n# (".toList := by
    have broken : Entry.ofLine ⟨8, " # A(p, ".toList⟩ = .error ⟨16, [.parameter], []⟩ := by
      decide +kernel
    have apart : Lines 0 "[x](y)\r\n # A(p, \r\n# (".toList
        ([⟨0, "[x](y)".toList⟩] ++ ⟨8, " # A(p, ".toList⟩ :: [⟨18, "# (".toList⟩]) :=
      lines_iff.mpr (by decide)
    exact failsAt_of_lines rfl apart (List.forall_mem_singleton.mpr ⟨_, rfl⟩) broken
  have alike := ((Reading.ofText_fails_locally "b" _).2.2 _ _ _ inside).2 "a" _ _ _ last
  refine ⟨last, inside, alike ?_ ?_ (by decide) (Or.inr (Or.inr ⟨_, rfl⟩)) (Or.inl rfl)⟩
  · exact fun c same => (Option.some.inj same).symm
  · exact fun c same => (Option.some.inj same).symm

end TemplateServer
