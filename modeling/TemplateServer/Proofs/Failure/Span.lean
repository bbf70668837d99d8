import TemplateServer.Proofs.Failure

/-!
The span of a failure, with every step checked. Where a text is cut, both ends have to be places of
it and in order, a table is read only where it has an entry, and lines and columns are words of 32
bits. Main statement: for every text that is smaller than such words allow and every offset, all
checks succeed, and the diagnostic reaches from the position of the offset to the end of what its
line shows, or is empty if the offset is past that.
-/

namespace TemplateServer

open Text

namespace Text

variable {text above visible turns below part : List Char} {number offset start stop : Nat}

/-! ### Places and slices -/

def isPlace (text : List Char) (offset : Nat) : Bool :=
  bytes (fitting offset text) = offset

/-- Goes back from an offset to a place; there is none to go back to before the start. -/
def backUp? (text : List Char) : Nat → Option Nat
  | 0 => if isPlace text 0 then some 0 else none
  | offset + 1 => if isPlace text (offset + 1) then some (offset + 1) else backUp? text offset

/-- The characters between two offsets, if these are places in this order. -/
def slice? (text : List Char) (start stop : Nat) : Option (List Char) :=
  if isPlace text start && isPlace text stop && decide (start ≤ stop) then
    some ((fitting stop text).drop (fitting start text).length)
  else
    none

/-- The position of an offset, looked up in the table of line starts, in words of 32 bits; there is
none if a step fails. -/
def lookUp? (text : List Char) (offset : Nat) : Option Position := do
  let place ← backUp? text (min offset (bytes text))
  let line := lineOf text place
  let current ← slice? text ((lineStarts text)[line]?.getD 0) place
  some ⟨line % 2 ^ 32, units current % 2 ^ 32⟩

/-- The end of a line, if there is such a line, looked up in the table of line starts; there is no
answer if a step fails. -/
def lookUpEnd? (text : List Char) (line : Nat) : Option (Option Nat) :=
  match (lineStarts text)[line]? with
  | none => some none
  | some lineStart => do
    let stop ←
      match (lineStarts text)[line + 1]? with
      | none => some (bytes text)
      | some 0 => none
      | some (next + 1) => some next
    let content ← slice? text lineStart stop
    some (some (lineStart + bytes (dropEndWhile (· == '\r') content)))

theorem isPlace_iff : isPlace text offset = true ↔ bytes (fitting offset text) = offset :=
  decide_eq_true_iff

theorem isPlace_append (before after : List Char) :
    isPlace (before ++ after) (bytes before) = true := by
  rw [isPlace_iff, fitting_append]

theorem fitting_eq_of_le {limit : Nat} (reached : bytes (fitting offset text) ≤ limit)
    (ordered : limit ≤ offset) : fitting limit text = fitting offset text := by
  have shorter : fitting limit text <+: fitting offset text := by
    rcases fitting_prefix limit text with ⟨after, whole⟩
    have small := bytes_fitting_le limit text
    have longer := prefix_fitting (Nat.le_trans small ordered) after
    rw [whole] at longer
    exact longer
  have longer : fitting offset text <+: fitting limit text := by
    rcases fitting_prefix offset text with ⟨after, whole⟩
    have fits := prefix_fitting reached after
    rw [whole] at fits
    exact fits
  exact shorter.eq_of_length_le longer.length_le

/-- Going back ends at the last place that is not after the offset. -/
theorem backUp?_eq (text : List Char) (offset : Nat) :
    backUp? text offset = some (bytes (fitting offset text)) := by
  induction offset with
  | zero =>
      have fits := bytes_fitting_le 0 text
      have zero : bytes (fitting 0 text) = 0 := by omega
      rw [backUp?, if_pos (isPlace_iff.mpr zero), zero]
  | succ offset ih =>
      rw [backUp?]
      by_cases placed : bytes (fitting (offset + 1) text) = offset + 1
      · rw [if_pos (isPlace_iff.mpr placed), placed]
      · have fits := bytes_fitting_le (offset + 1) text
        have same : fitting offset text = fitting (offset + 1) text :=
          fitting_eq_of_le (by omega) (by omega)
        rw [if_neg (isPlace_iff.not.mpr placed), ih, same]

theorem fitting_min (text : List Char) (offset : Nat) :
    fitting (min offset (bytes text)) text = fitting offset text := by
  rcases fitting_prefix offset text with ⟨after, whole⟩
  have fits := bytes_fitting_le offset text
  have size : bytes (fitting offset text) + bytes after = bytes text := by
    rw [← bytes_append, whole]
  exact fitting_eq_of_le (by omega) (by omega)

theorem slice?_of_places (starts : isPlace text start = true) (ends : isPlace text stop = true)
    (ordered : start ≤ stop) :
    slice? text start stop = some ((fitting stop text).drop (fitting start text).length) := by
  unfold slice?
  rw [starts, ends, decide_eq_true ordered]
  rfl

theorem slice?_append (before part after : List Char) :
    slice? (before ++ (part ++ after)) (bytes before) (bytes (before ++ part)) = some part := by
  have ends : isPlace (before ++ (part ++ after)) (bytes (before ++ part)) = true := by
    rw [← List.append_assoc]
    exact isPlace_append (before ++ part) after
  have upTo : fitting (bytes (before ++ part)) (before ++ (part ++ after)) = before ++ part := by
    rw [← List.append_assoc, fitting_append]
  have ordered : bytes before ≤ bytes (before ++ part) := by
    rw [bytes_append]
    omega
  rw [slice?_of_places (isPlace_append _ _) ends ordered, upTo, fitting_append, List.drop_left]

/-- A slice is what stands between two places. -/
theorem slice?_eq_some_iff :
    slice? text start stop = some part ↔
      ∃ before after, text = before ++ (part ++ after) ∧ start = bytes before ∧
        stop = bytes (before ++ part) := by
  constructor
  · intro sliced
    unfold slice? at sliced
    split at sliced
    · rename_i checked
      simp only [Bool.and_eq_true, isPlace_iff, decide_eq_true_eq] at checked
      rcases fitting_prefix start text with ⟨rest, wholeStart⟩
      rcases fitting_prefix stop text with ⟨after, wholeStop⟩
      have sizes : bytes (fitting start text) ≤ bytes (fitting stop text) := by omega
      rcases exists_append_of_bytes_le (wholeStart.trans wholeStop.symm) sizes with
        ⟨middle, longer, _⟩
      rw [longer, List.drop_left] at sliced
      cases sliced
      refine ⟨fitting start text, after, ?_, checked.1.1.symm, ?_⟩
      · rw [← List.append_assoc, ← longer, wholeStop]
      · rw [← longer, checked.1.2]
    · cases sliced
  · intro cut
    rcases cut with ⟨before, after, whole, first, last⟩
    rw [whole, first, last]
    exact slice?_append before part after

/-! ### Lines and what they show -/

/-- Whether a text cut in four shows the second part on the line with this number, which only
carriage returns follow there. -/
structure ShownAt (text : List Char) (number : Nat) (above visible turns below : List Char) :
    Prop where
  parts : text = above ++ (visible ++ (turns ++ below))
  counted : above.count '\n' = number
  starts : ∀ c, above.getLast? = some c → c = '\n'
  plain : '\n' ∉ visible
  trimmed : ∀ c, visible.getLast? = some c → c ≠ '\r'
  returns : ∀ c ∈ turns, c = '\r'
  ends : ∀ c, below.head? = some c → c = '\n'

theorem exists_shownAt (listed : number ≤ text.count '\n') :
    ∃ above visible turns below, ShownAt text number above visible turns below := by
  rcases exists_lineAt listed with ⟨above, line, rest, placed⟩
  -- the line without its line feed, if it has one
  have ended : ∃ front below, line ++ rest = front ++ below ∧ '\n' ∉ front ∧
      ∀ c, below.head? = some c → c = '\n' := by
    rcases placed.ends with ⟨front, closed, plain⟩ | ⟨plain, last⟩
    · refine ⟨front, '\n' :: rest, by rw [closed, List.append_assoc]; rfl, plain, ?_⟩
      intro c first
      exact (Option.some.inj first).symm
    · refine ⟨line, [], by rw [last], plain, ?_⟩
      intro c first
      cases first
  rcases ended with ⟨front, below, cut, plain, ends⟩
  rcases exists_dropEndWhile_append (· == '\r') front with ⟨turns, trimmed, returns⟩
  refine ⟨above, dropEndWhile (· == '\r') front, turns, below, ?_, placed.counted, placed.starts,
    ?_, ?_, ?_, ends⟩
  · rw [placed.parts, cut, ← List.append_assoc _ turns, ← trimmed]
  · intro member
    apply plain
    rw [trimmed]
    exact List.mem_append_left turns member
  · intro c last
    unfold dropEndWhile at last
    rw [List.getLast?_reverse] at last
    have kept := stops_dropWhile (· == '\r') front.reverse c last
    exact ne_of_beq_false kept
  · intro c member
    exact beq_iff_eq.mp (returns c member)

namespace ShownAt

variable (placed : ShownAt text number above visible turns below)
include placed

theorem dropEndWhile_eq : dropEndWhile (· == '\r') (visible ++ turns) = visible := by
  apply dropEndWhile_append_of_all
  · intro c member
    exact beq_iff_eq.mpr (placed.returns c member)
  · intro c last
    exact beq_false_of_ne (placed.trimmed c last)

theorem not_mem : '\n' ∉ visible ++ turns := by
  intro member
  rcases List.mem_append.mp member with early | late
  · exact placed.plain early
  · exact absurd (placed.returns _ late) (by decide)

theorem lineEnd?_eq : lineEnd? text number = some (bytes (above ++ visible)) := by
  have taken : (visible ++ turns ++ below).takeWhile (· != '\n') = visible ++ turns := by
    apply takeWhile_append_of_all
    · intro c member
      rw [bne_iff_ne]
      rintro rfl
      exact placed.not_mem member
    · intro c first
      rw [placed.ends c first]
      rfl
  rw [placed.parts, ← placed.counted, lineEnd?_append placed.starts]
  unfold shown
  rw [← List.append_assoc visible, taken, placed.dropEndWhile_eq]

theorem getElem?_lineStarts_eq : (lineStarts text)[number]? = some (bytes above) := by
  rw [placed.parts, ← placed.counted]
  exact getElem?_lineStarts_append placed.starts _

/-- The next line starts after the line feed that ends this one, if there is one. -/
theorem getElem?_lineStarts_next :
    (lineStarts text)[number + 1]? =
      below.head?.map fun _ => bytes (above ++ (visible ++ turns)) + 1 := by
  have unbroken := List.count_eq_zero_of_not_mem placed.not_mem
  cases below with
  | nil =>
      have counted : text.count '\n' = number := by
        rw [placed.parts, List.append_nil, List.count_append, unbroken, placed.counted]
        rfl
      have missing : text.count '\n' < number + 1 := by omega
      rw [getElem?_lineStarts, splitLine?_of_count_lt missing]
      rfl
  | cons c rest =>
      have feed : c = '\n' := placed.ends c rfl
      subst feed
      have parts : text = (above ++ (visible ++ turns) ++ ['\n']) ++ rest := by
        rw [placed.parts]
        simp
      have counted : (above ++ (visible ++ turns) ++ ['\n']).count '\n' = number + 1 := by
        rw [List.count_append, List.count_append, unbroken, placed.counted]
        rfl
      have starts : ∀ c, (above ++ (visible ++ turns) ++ ['\n']).getLast? = some c → c = '\n' := by
        intro c last
        rw [List.getLast?_concat] at last
        exact (Option.some.inj last).symm
      rw [parts, ← counted, getElem?_lineStarts_append starts, bytes_append]
      rfl

theorem lookUpEnd?_eq : lookUpEnd? text number = some (some (bytes (above ++ visible))) := by
  have sliced : slice? text (bytes above) (bytes (above ++ (visible ++ turns))) =
      some (visible ++ turns) := by
    apply slice?_eq_some_iff.mpr
    refine ⟨above, below, ?_, rfl, rfl⟩
    rw [placed.parts, List.append_assoc]
  unfold lookUpEnd?
  rw [placed.getElem?_lineStarts_eq, placed.getElem?_lineStarts_next, bytes_append above visible]
  cases found : below.head? with
  | none =>
      have last : below = [] := List.head?_eq_none_iff.mp found
      have size : bytes text = bytes (above ++ (visible ++ turns)) := by
        rw [placed.parts, last, List.append_nil]
      simp only [Option.map_none, Option.bind_eq_bind, Option.bind_some, size, sliced,
        placed.dropEndWhile_eq]
  | some c =>
      simp only [Option.map_some, Option.bind_eq_bind, Option.bind_some, sliced,
        placed.dropEndWhile_eq]

end ShownAt

/-- Every access that the look-up of a line's end makes succeeds. -/
theorem lookUpEnd?_eq_lineEnd? (text : List Char) (number : Nat) :
    lookUpEnd? text number = some (lineEnd? text number) := by
  by_cases listed : number ≤ text.count '\n'
  · rcases exists_shownAt listed with ⟨above, visible, turns, below, placed⟩
    rw [placed.lookUpEnd?_eq, placed.lineEnd?_eq]
  · have missing : text.count '\n' < number := by omega
    unfold lookUpEnd? lineEnd?
    rw [getElem?_lineStarts, splitLine?_of_count_lt missing]
    rfl

/-- Every access that the look-up of a position makes succeeds, and the words are large enough. -/
theorem lookUp?_eq_positionOf (small : bytes text < 2 ^ 32) (offset : Nat) :
    lookUp? text offset = some (positionOf text offset) := by
  have again : fitting (bytes (fitting offset text)) text = fitting offset text :=
    fitting_eq_of_le (Nat.le_refl _) (bytes_fitting_le offset text)
  have ends : isPlace text (bytes (fitting offset text)) = true := by
    rw [isPlace_iff, again]
  -- the line that is found is in the table and starts at a place that is not after this one
  rcases lineOf_spec text (bytes (fitting offset text)) with ⟨listed, notAfter, _⟩
  have found := List.getElem?_eq_getElem listed
  have ordered := notAfter _ found
  rcases exists_lineAt_of_getElem? found with ⟨above, line, below, placed, start⟩
  have starts : isPlace text (bytes above) = true := by
    rw [placed.parts]
    exact isPlace_append above (line ++ below)
  rw [start] at found ordered
  have sliced := slice?_of_places starts ends ordered
  have limits := positionOf_le_bytes text offset
  rw [← lookUp_eq_positionOf] at limits ⊢
  unfold lookUp at limits ⊢
  unfold lookUp?
  simp only [found, Option.getD_some] at limits
  simp only [backUp?_eq, fitting_min, Option.bind_eq_bind, Option.bind_some, found,
    Option.getD_some, sliced, again]
  rw [Nat.mod_eq_of_lt (Nat.lt_of_le_of_lt limits.1 small),
    Nat.mod_eq_of_lt (Nat.lt_of_le_of_lt limits.2 small)]

theorem line_positionOf_le_count (text : List Char) (offset : Nat) :
    (positionOf text offset).line ≤ text.count '\n' := by
  have placed := (isGreatest_fitting text offset).1.2
  have early : bytes (fitting offset text) ≤ bytes text := by omega
  have bound := line_positionOf_le early []
  rw [List.append_nil, positionOf_fitting] at bound
  exact bound

end Text

/-! ### The diagnostic of a failure -/

namespace Failure

/-- The diagnostic of a failure, from positions and line ends that are looked up. -/
def lookUpDiagnostic? (text : List Char) (failure : Failure) : Option Diagnostic := do
  let start ← lookUp? text failure.offset
  let lineEnd ← lookUpEnd? text start.line
  let stop ←
    match lineEnd with
    | some lineEnd => lookUp? text (max lineEnd failure.offset)
    | none => some start
  some ⟨.error, ⟨start, stop⟩, failure.message⟩

theorem lookUpDiagnostic?_eq {text : List Char} (small : bytes text < 2 ^ 32) (failure : Failure) :
    failure.lookUpDiagnostic? text = some (failure.toDiagnostic text) := by
  unfold lookUpDiagnostic? toDiagnostic
  simp only [lookUp?_eq_positionOf small, lookUpEnd?_eq_lineEnd?, Option.bind_eq_bind,
    Option.bind_some]
  cases lineEnd? text (positionOf text failure.offset).line with
  | none => rfl
  | some lineEnd => rfl

/-- For a text of fewer than 2^32 bytes all accesses succeed. The diagnostic starts at the position
of the offset and stays on its line; it stops where what the line shows ends, or where it starts if
the offset is past that. -/
theorem toDiagnostic_spans_line {text : List Char} (small : bytes text < 2 ^ 32)
    (failure : Failure) :
    (∀ offset, lookUp? text offset = some (positionOf text offset)) ∧
    (∀ line, lookUpEnd? text line = some (lineEnd? text line)) ∧
    failure.lookUpDiagnostic? text = some (failure.toDiagnostic text) ∧
    (failure.toDiagnostic text).range.start = positionOf text failure.offset ∧
    (failure.toDiagnostic text).range.start.le (failure.toDiagnostic text).range.stop = true ∧
    (failure.toDiagnostic text).range.stop.line = (failure.toDiagnostic text).range.start.line ∧
    ∃ above visible turns below,
      ShownAt text (failure.toDiagnostic text).range.start.line above visible turns below ∧
      (failure.offset ≤ bytes (above ++ visible) →
        (failure.toDiagnostic text).range.stop = positionOf text (bytes (above ++ visible))) ∧
      (bytes (above ++ visible) < failure.offset →
        (failure.toDiagnostic text).range.stop = (failure.toDiagnostic text).range.start) := by
  have start : (failure.toDiagnostic text).range.start = positionOf text failure.offset := rfl
  have spans := failure.toDiagnostic_eq text
  rcases exists_shownAt (line_positionOf_le_count text failure.offset) with
    ⟨above, visible, turns, below, placed⟩
  have stop : (failure.toDiagnostic text).range.stop =
      positionOf text (max (bytes (above ++ visible)) failure.offset) := by
    unfold toDiagnostic
    simp only [placed.lineEnd?_eq]
  refine ⟨lookUp?_eq_positionOf small, lookUpEnd?_eq_lineEnd? text,
    lookUpDiagnostic?_eq small failure, start, ?_, ?_, above, visible, turns, below, placed, ?_, ?_⟩
  · rw [spans]
    exact Position.le_iff.mpr (Or.inr ⟨rfl, Nat.le_max_left _ _⟩)
  · rw [spans]
  · intro early
    rw [stop, Nat.max_eq_left early]
  · intro late
    rw [stop, Nat.max_eq_right (Nat.le_of_lt late), start]

/-- An offset inside of a character, and one among the carriage returns at the end of a line. -/
theorem spans_inside_character_and_returns :
    bytes "aé\r\r\nb".toList < 2 ^ 32 ∧
    (Failure.toDiagnostic "aé\r\r\nb".toList ⟨2, "x"⟩).range = ⟨⟨0, 1⟩, ⟨0, 2⟩⟩ ∧
    lookUpDiagnostic? "aé\r\r\nb".toList ⟨2, "x"⟩ =
      some ⟨.error, ⟨⟨0, 1⟩, ⟨0, 2⟩⟩, "Syntax error: x"⟩ ∧
    (Failure.toDiagnostic "aé\r\r\nb".toList ⟨4, "x"⟩).range = ⟨⟨0, 3⟩, ⟨0, 3⟩⟩ ∧
    lookUpDiagnostic? "aé\r\r\nb".toList ⟨4, "x"⟩ =
      some ⟨.error, ⟨⟨0, 3⟩, ⟨0, 3⟩⟩, "Syntax error: x"⟩ := by
  have small : bytes "aé\r\r\nb".toList < 2 ^ 32 := by decide
  have inside : Failure.toDiagnostic "aé\r\r\nb".toList ⟨2, "x"⟩ =
      ⟨.error, ⟨⟨0, 1⟩, ⟨0, 2⟩⟩, "Syntax error: x"⟩ := by decide +kernel
  have among : Failure.toDiagnostic "aé\r\r\nb".toList ⟨4, "x"⟩ =
      ⟨.error, ⟨⟨0, 3⟩, ⟨0, 3⟩⟩, "Syntax error: x"⟩ := by decide +kernel
  have first := (toDiagnostic_spans_line small ⟨2, "x"⟩).2.2.1
  have second := (toDiagnostic_spans_line small ⟨4, "x"⟩).2.2.1
  rw [inside] at first
  rw [among] at second
  exact ⟨small, by rw [inside], first, by rw [among], second⟩

end Failure

end TemplateServer
