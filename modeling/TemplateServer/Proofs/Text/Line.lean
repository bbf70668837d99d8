import TemplateServer.Proofs.Text.Position

/-!
Lines and columns of a text. A line takes its line feed along, which the last line alone does not
have. A column is a place on its line unless it falls inside a character of two code units or past
the end of the line. Main statement: offsets and positions are inverse, except that the place after
a line feed is also the last column of the line that ends there.
-/

namespace TemplateServer.Text

/-- Whether an offset is that of a place between two characters, or at an end of the text. -/
def Boundary (text : List Char) (offset : Nat) : Prop :=
  ∃ before after, text = before ++ after ∧ offset = bytes before

/-- Whether a text cut in three has the line with this number in the middle. -/
structure LineAt (text : List Char) (number : Nat) (above line below : List Char) : Prop where
  parts : text = above ++ (line ++ below)
  counted : above.count '\n' = number
  starts : ∀ c, above.getLast? = some c → c = '\n'
  ends : (∃ front, line = front ++ ['\n'] ∧ '\n' ∉ front) ∨ ('\n' ∉ line ∧ below = [])

/-- Whether a column falls between the two code units of a character. -/
def InsidePair (line : List Char) (column : Nat) : Prop :=
  ∃ before c after, line = before ++ c :: after ∧ charUnits c = 2 ∧ column = units before + 1

variable {text above line below first second front rest : List Char} {number column : Nat}

/-! ### The lines of a text -/

theorem exists_firstLine (text : List Char) :
    ∃ line below, text = line ++ below ∧
      ((∃ front, line = front ++ ['\n'] ∧ '\n' ∉ front) ∨ ('\n' ∉ line ∧ below = [])) := by
  induction text with
  | nil => exact ⟨[], [], rfl, Or.inr ⟨List.not_mem_nil, rfl⟩⟩
  | cons c rest ih =>
      by_cases feed : c = '\n'
      · subst feed
        exact ⟨['\n'], rest, rfl, Or.inl ⟨[], rfl, List.not_mem_nil⟩⟩
      · obtain ⟨line, below, same, ends⟩ := ih
        refine ⟨c :: line, below, by rw [same, List.cons_append], ?_⟩
        rcases ends with ⟨front, closed, plain⟩ | ⟨plain, last⟩
        · left
          refine ⟨c :: front, by rw [closed, List.cons_append], ?_⟩
          exact List.not_mem_cons_of_ne_of_not_mem (Ne.symm feed) plain
        · right
          exact ⟨List.not_mem_cons_of_ne_of_not_mem (Ne.symm feed) plain, last⟩

theorem getLast?_cons_of_starts {c : Char} (starts : ∀ d, above.getLast? = some d → d = '\n')
    (filled : c = '\n' ∨ above ≠ []) : ∀ d, (c :: above).getLast? = some d → d = '\n' := by
  intro last same
  cases final : above.getLast? with
  | none =>
      have empty := List.getLast?_eq_none_iff.mp final
      rw [empty] at same
      rcases filled with feed | nonempty
      · rw [← Option.some.inj same]
        exact feed
      · exact absurd empty nonempty
  | some other =>
      rw [List.getLast?_cons, final] at same
      rw [← Option.some.inj same]
      exact starts other final

/-- A text has one line more than it has line feeds. -/
theorem exists_lineAt (listed : number ≤ text.count '\n') :
    ∃ above line below, LineAt text number above line below := by
  induction text generalizing number with
  | nil =>
      have zero : number = 0 := Nat.le_zero.mp listed
      subst zero
      exact ⟨[], [], [], rfl, rfl, fun _ => nofun, Or.inr ⟨List.not_mem_nil, rfl⟩⟩
  | cons c rest ih =>
      cases number with
      | zero =>
          obtain ⟨line, below, same, ends⟩ := exists_firstLine (c :: rest)
          exact ⟨[], line, below, same, rfl, fun _ => nofun, ends⟩
      | succ number =>
          by_cases feed : c = '\n'
          · subst feed
            rw [List.count_cons_self] at listed
            obtain ⟨above, line, below, found⟩ := ih (Nat.le_of_succ_le_succ listed)
            refine ⟨'\n' :: above, line, below, ?_, ?_, ?_, found.ends⟩
            · rw [found.parts, List.cons_append]
            · rw [List.count_cons_self, found.counted]
            · exact getLast?_cons_of_starts found.starts (Or.inl rfl)
          · rw [List.count_cons_of_ne feed] at listed
            obtain ⟨above, line, below, found⟩ := ih listed
            refine ⟨c :: above, line, below, ?_, ?_, ?_, found.ends⟩
            · rw [found.parts, List.cons_append]
            · rw [List.count_cons_of_ne feed, found.counted]
            · apply getLast?_cons_of_starts found.starts
              right
              -- the lines above hold a line feed
              intro empty
              have counted := found.counted
              rw [empty] at counted
              cases counted

theorem LineAt.next (placed : LineAt text number above line below) (closed : line = front ++ ['\n'])
    (plain : '\n' ∉ front) :
    ∃ following rest, LineAt text (number + 1) (above ++ line) following rest := by
  obtain ⟨following, rest, same, ends⟩ := exists_firstLine below
  refine ⟨following, rest, ?_, ?_, ?_, ends⟩
  · rw [placed.parts, same, List.append_assoc]
  · rw [closed, List.count_append, List.count_append, placed.counted,
      List.count_eq_zero_of_not_mem plain, List.count_singleton_self]
  · intro last same
    rw [closed, ← List.append_assoc, List.getLast?_concat] at same
    exact (Option.some.inj same).symm

theorem LineAt.number_lt (placed : LineAt text number above line below)
    (closed : line = front ++ ['\n']) : number < text.count '\n' := by
  have feed : 0 < line.count '\n' := by
    rw [closed, List.count_append, List.count_singleton_self]
    omega
  have total : text.count '\n' = number + (line.count '\n' + below.count '\n') := by
    rw [placed.parts, List.count_append, List.count_append, placed.counted]
  omega

/-- A part of a line from its start holds no line feed, unless it is the whole line. -/
theorem LineAt.whole_or_plain (placed : LineAt text number above line below)
    (cut : line = first ++ second) :
    '\n' ∉ first ∨ ∃ front, line = front ++ ['\n'] ∧ '\n' ∉ front ∧ second = [] := by
  rcases placed.ends with ⟨front, closed, plain⟩ | ⟨plain, _⟩
  · cases final : second.getLast? with
    | none =>
        right
        exact ⟨front, closed, plain, List.getLast?_eq_none_iff.mp final⟩
    | some last =>
        left
        obtain ⟨earlier, same⟩ := List.getLast?_eq_some_iff.mp final
        rw [closed, same, ← List.append_assoc] at cut
        have shorter := (List.append_inj' cut rfl).1
        intro member
        apply plain
        rw [shorter]
        exact List.mem_append_left earlier member
  · left
    intro member
    apply plain
    rw [cut]
    exact List.mem_append_left second member

/-! ### From positions to offsets -/

theorem splitLine?_of_count_lt (missing : text.count '\n' < number) :
    splitLine? number text = none := by
  induction text generalizing number with
  | nil =>
      cases number with
      | zero => cases missing
      | succ number => rfl
  | cons c rest ih =>
      cases number with
      | zero => cases missing
      | succ number =>
          rw [splitLine?]
          by_cases feed : c = '\n'
          · subst feed
            rw [List.count_cons_self] at missing
            rw [if_pos rfl, ih (Nat.lt_of_succ_lt_succ missing)]
            rfl
          · rw [List.count_cons_of_ne feed] at missing
            rw [if_neg feed, ih missing]
            rfl

/-- A column past some characters of the line is one past so many fewer of what follows them. -/
theorem splitColumn?_units_add (plain : '\n' ∉ front) (column : Nat) (rest : List Char) :
    splitColumn? (units front + column) (front ++ rest) =
      (splitColumn? column rest).map fun parts => (front ++ parts.1, parts.2) := by
  induction front with
  | nil =>
      rw [units_nil, Nat.zero_add, List.nil_append]
      cases splitColumn? column rest with
      | none => rfl
      | some parts => rfl
  | cons c front ih =>
      have positive := charUnits_pos c
      have different : c ≠ '\n' := fun same => plain (by rw [same]; exact List.mem_cons_self)
      have later : '\n' ∉ front := fun member => plain (List.mem_cons_of_mem c member)
      obtain ⟨before, same⟩ : ∃ before, units (c :: front) + column = before + 1 :=
        ⟨charUnits c + units front + column - 1, by rw [units_cons]; omega⟩
      have narrower : before + 1 - charUnits c = units front + column := by
        rw [← same, units_cons]
        omega
      have reached : charUnits c ≤ before + 1 := by
        rw [← same, units_cons]
        omega
      rw [same, List.cons_append, splitColumn?, if_neg different, if_pos reached, narrower,
        ih later, Option.map_map]
      rfl

theorem LineAt.split?_eq (placed : LineAt text number above line below) (column : Nat) :
    split? text ⟨number, column⟩ =
      (splitColumn? column (line ++ below)).map fun parts => (above ++ parts.1, parts.2) := by
  have found : splitLine? number text = some (above, line ++ below) := by
    rw [placed.parts, ← placed.counted]
    exact splitLine?_append placed.starts (line ++ below)
  unfold split?
  rw [found]

theorem LineAt.split?_of_cut (placed : LineAt text number above line below)
    (cut : line = first ++ second) :
    split? text ⟨number, units first⟩ = some (above ++ first, second ++ below) := by
  rw [placed.split?_eq]
  rcases placed.whole_or_plain cut with plain | ⟨front, closed, plain, empty⟩
  · rw [cut, List.append_assoc, splitColumn?_append plain]
    rfl
  · have whole : first = front ++ ['\n'] := by
      rw [← closed, cut, empty, List.append_nil]
    rw [cut, empty, whole, List.append_nil, units_append, List.append_assoc,
      splitColumn?_units_add plain]
    rfl

theorem LineAt.split?_of_insidePair (placed : LineAt text number above line below)
    (inside : InsidePair line column) : split? text ⟨number, column⟩ = none := by
  obtain ⟨before, c, after, cut, wide, same⟩ := inside
  have different : c ≠ '\n' := by
    intro feed
    rw [feed] at wide
    cases wide
  have plain : '\n' ∉ before := by
    rcases placed.whole_or_plain cut with plain | ⟨_, _, _, empty⟩
    · exact plain
    · cases empty
  have narrow : ¬charUnits c ≤ 1 := by omega
  rw [placed.split?_eq, cut, same, List.append_assoc, splitColumn?_units_add plain]
  simp [splitColumn?, different, narrow]

theorem LineAt.split?_of_beyond (placed : LineAt text number above line below)
    (beyond : units line < column) : split? text ⟨number, column⟩ = none := by
  rw [placed.split?_eq]
  rcases placed.ends with ⟨front, closed, plain⟩ | ⟨plain, last⟩
  · have size : units line = units front + 1 := by
      rw [closed, units_append]
      rfl
    obtain ⟨excess, more⟩ : ∃ excess, column = units front + (excess + 2) :=
      ⟨column - units front - 2, by omega⟩
    rw [closed, List.append_assoc, more, splitColumn?_units_add plain]
    simp [splitColumn?]
  · obtain ⟨excess, more⟩ : ∃ excess, column = units line + (excess + 1) :=
      ⟨column - units line - 1, by omega⟩
    rw [last, more, splitColumn?_units_add plain]
    rfl

/-- A column is a place on the line, or inside a character, or past the end. -/
theorem column_cases (line : List Char) (column : Nat) :
    (∃ first second, line = first ++ second ∧ column = units first) ∨ InsidePair line column ∨
      units line < column := by
  induction line generalizing column with
  | nil =>
      cases column with
      | zero => exact Or.inl ⟨[], [], rfl, rfl⟩
      | succ column => exact Or.inr (Or.inr (Nat.succ_pos column))
  | cons c line ih =>
      by_cases fits : charUnits c ≤ column
      · rcases ih (column - charUnits c) with
          ⟨first, second, cut, same⟩ | ⟨before, pair, after, cut, wide, same⟩ | beyond
        · left
          refine ⟨c :: first, second, by rw [cut, List.cons_append], ?_⟩
          rw [units_cons, ← same]
          omega
        · right
          left
          refine ⟨c :: before, pair, after, by rw [cut, List.cons_append], wide, ?_⟩
          rw [units_cons]
          omega
        · right
          right
          rw [units_cons]
          omega
      · cases column with
        | zero => exact Or.inl ⟨[], c :: line, rfl, rfl⟩
        | succ column =>
            -- the character is wider than the column, which is not zero
            right
            left
            have wide : charUnits c = 2 ∧ column = 0 := by
              unfold charUnits at fits ⊢
              split at fits
              · omega
              · rename_i large
                rw [if_neg large]
                omega
            exact ⟨[], c, line, rfl, wide.1, by rw [wide.2, units_nil]⟩

theorem number_le_of_offsetOf? {position : Position} {offset : Nat}
    (reached : offsetOf? text position = some offset) : position.line ≤ text.count '\n' := by
  apply Nat.le_of_not_lt
  intro missing
  unfold offsetOf? split? at reached
  rw [splitLine?_of_count_lt missing] at reached
  cases reached

theorem LineAt.exists_cut {position : Position} {offset : Nat}
    (placed : LineAt text position.line above line below)
    (reached : offsetOf? text position = some offset) :
    ∃ first second, line = first ++ second ∧ position.character = units first ∧
      offset = bytes (above ++ first) := by
  unfold offsetOf? at reached
  rcases column_cases line position.character with ⟨first, second, cut, same⟩ | inside | beyond
  · have found := placed.split?_of_cut cut
    rw [← same] at found
    rw [found] at reached
    exact ⟨first, second, cut, same, (Option.some.inj reached).symm⟩
  · rw [placed.split?_of_insidePair inside] at reached
    cases reached
  · rw [placed.split?_of_beyond beyond] at reached
    cases reached

theorem offsetOf?_eq_none_iff {position : Position} :
    offsetOf? text position = none ↔
      text.count '\n' < position.line ∨ ∃ above line below,
        LineAt text position.line above line below ∧
          (InsidePair line position.character ∨ units line < position.character) := by
  unfold offsetOf?
  rw [Option.map_eq_none_iff]
  constructor
  · intro nowhere
    by_cases missing : text.count '\n' < position.line
    · exact Or.inl missing
    · right
      obtain ⟨above, line, below, placed⟩ := exists_lineAt (Nat.le_of_not_lt missing)
      refine ⟨above, line, below, placed, ?_⟩
      rcases column_cases line position.character with ⟨first, second, cut, same⟩ | outside
      · have found := placed.split?_of_cut cut
        rw [← same, nowhere] at found
        cases found
      · exact outside
  · intro outside
    rcases outside with missing | ⟨above, line, below, placed, inside | beyond⟩
    · unfold split?
      rw [splitLine?_of_count_lt missing]
    · exact placed.split?_of_insidePair inside
    · exact placed.split?_of_beyond beyond

/-! ### From offsets to positions -/

theorem fitting_prefix (limit : Nat) (text : List Char) : fitting limit text <+: text := by
  induction text generalizing limit with
  | nil => exact List.prefix_rfl
  | cons c rest ih =>
      rw [fitting]
      split
      · exact (List.prefix_cons_inj c).mpr (ih _)
      · exact List.nil_prefix

theorem bytes_fitting_le (limit : Nat) (text : List Char) : bytes (fitting limit text) ≤ limit := by
  induction text generalizing limit with
  | nil => exact Nat.zero_le limit
  | cons c rest ih =>
      rw [fitting]
      split
      · have remaining := ih (limit - c.utf8Size)
        rw [bytes_cons]
        omega
      · exact Nat.zero_le limit

/-- An offset has the position of the last place that is not after it. -/
theorem positionOf_fitting (text : List Char) (offset : Nat) :
    positionOf text (bytes (fitting offset text)) = positionOf text offset := by
  obtain ⟨after, whole⟩ := fitting_prefix offset text
  have again := fitting_append (fitting offset text) after
  rw [whole] at again
  unfold positionOf
  rw [again]

theorem foldl_next_of_plain (plain : '\n' ∉ first) (position : Position) :
    first.foldl Position.next position = ⟨position.line, position.character + units first⟩ := by
  induction first generalizing position with
  | nil => rfl
  | cons c first ih =>
      have different : c ≠ '\n' := fun same => plain (by rw [same]; exact List.mem_cons_self)
      rw [List.foldl_cons, ih fun member => plain (List.mem_cons_of_mem c member)]
      unfold Position.next
      rw [if_neg different, units_cons, Nat.add_assoc]

/-- The last part of some whole lines holds a line feed. -/
theorem mem_of_starts (starts : ∀ c, (above ++ rest).getLast? = some c → c = '\n')
    (filled : rest ≠ []) : '\n' ∈ rest := by
  cases final : rest.getLast? with
  | none => exact absurd (List.getLast?_eq_none_iff.mp final) filled
  | some last =>
      have feed : last = '\n' := by
        apply starts
        rw [List.getLast?_append, final]
        rfl
      rw [← feed]
      exact List.mem_of_getLast? final

theorem foldl_next_of_starts (starts : ∀ c, above.getLast? = some c → c = '\n') :
    above.foldl Position.next Position.zero = ⟨above.count '\n', 0⟩ := by
  obtain ⟨earlier, current, same, _, plain, reached⟩ := exists_lastLine above
  have empty : current = [] := by
    by_contra filled
    rw [same] at starts
    exact plain (mem_of_starts starts filled)
  rw [empty, List.append_nil] at same
  rw [reached, empty, same]
  rfl

theorem LineAt.positionOf_of_plain (placed : LineAt text number above line below)
    (cut : line = first ++ second) (plain : '\n' ∉ first) :
    positionOf text (bytes (above ++ first)) = ⟨number, units first⟩ := by
  have whole : text = (above ++ first) ++ (second ++ below) := by
    rw [placed.parts, cut]
    simp only [List.append_assoc]
  rw [whole, positionOf_append, List.foldl_append, foldl_next_of_starts placed.starts,
    foldl_next_of_plain plain, placed.counted, Nat.zero_add]

theorem line_foldl_next (text : List Char) (position : Position) :
    (text.foldl Position.next position).line = position.line + text.count '\n' := by
  induction text generalizing position with
  | nil => rfl
  | cons c rest ih =>
      rw [List.foldl_cons, ih, List.count_cons]
      unfold Position.next
      by_cases feed : c = '\n'
      · simp only [feed, if_true, beq_self_eq_true]
        omega
      · simp only [feed, if_false, beq_false_of_ne feed, Bool.false_eq_true]
        omega

/-- What follows a text does not move the places in it to a later line. -/
theorem line_positionOf_le {offset : Nat} (early : offset ≤ bytes text) (rest : List Char) :
    (positionOf (text ++ rest) offset).line ≤ text.count '\n' := by
  obtain ⟨after, whole⟩ := fitting_prefix offset (text ++ rest)
  have fits := bytes_fitting_le offset (text ++ rest)
  obtain ⟨middle, longer, _⟩ := exists_append_of_bytes_le whole (by omega)
  have counted := congrArg (List.count '\n') longer
  rw [List.count_append] at counted
  unfold positionOf
  rw [line_foldl_next]
  change 0 + _ ≤ _
  omega

/-! ### The size of positions -/

theorem charUnits_le_utf8Size (c : Char) : charUnits c ≤ c.utf8Size := by
  have positive := c.utf8Size_pos
  unfold charUnits
  split
  · exact positive
  · rename_i large
    have wide : c.utf8Size = 4 := by
      rw [Char.utf8Size_eq_four_iff, UInt32.lt_iff_toNat_lt]
      exact Nat.lt_of_not_le fun small => large (Nat.lt_succ_of_le small)
    omega

theorem units_le_bytes (text : List Char) : units text ≤ bytes text := by
  induction text with
  | nil => exact Nat.le_refl 0
  | cons c rest ih =>
      have one := charUnits_le_utf8Size c
      rw [units_cons, bytes_cons]
      omega

theorem length_le_bytes (text : List Char) : text.length ≤ bytes text := by
  induction text with
  | nil => exact Nat.le_refl 0
  | cons c rest ih =>
      have one := c.utf8Size_pos
      rw [List.length_cons, bytes_cons]
      omega

/-- No line and no column is greater than the size of the text. -/
theorem positionOf_le_bytes (text : List Char) (offset : Nat) :
    (positionOf text offset).line ≤ bytes text ∧
      (positionOf text offset).character ≤ bytes text := by
  obtain ⟨after, whole⟩ := fitting_prefix offset text
  obtain ⟨above, current, same, _, _, reached⟩ := exists_lastLine (fitting offset text)
  have size : bytes text = bytes above + bytes current + bytes after := by
    rw [← whole, same, bytes_append, bytes_append]
  have lines : above.count '\n' ≤ bytes above :=
    Nat.le_trans List.count_le_length (length_le_bytes above)
  have columns := units_le_bytes current
  unfold positionOf
  rw [reached]
  constructor
  · change above.count '\n' ≤ bytes text
    omega
  · change units current ≤ bytes text
    omega

/-- Positions in a text of less than 2 ^ 32 bytes are sent as they are. -/
theorem wrapped_rangeOf {text : List Char} (small : bytes text < UInt32.size) (start stop : Nat) :
    (rangeOf text start stop).wrapped = rangeOf text start stop := by
  have fits (offset : Nat) : (positionOf text offset).wrapped = positionOf text offset := by
    obtain ⟨line, character⟩ := positionOf_le_bytes text offset
    unfold Position.wrapped
    rw [UInt32.toNat_ofNat_of_lt' (line.trans_lt small),
      UInt32.toNat_ofNat_of_lt' (character.trans_lt small)]
  unfold rangeOf Range.wrapped
  rw [fits start, fits stop]

/-! ### The main statement -/

/-- The position of a place leads back to it; a position that leads to a place is the one of that
place, or the last column of a line that is not the last one; and a position leads nowhere if its
line is missing, or its column falls inside a character or past the end of the line. Positions are
never greater than the size of the text, so they fit where that does. -/
theorem offsetOf?_inverts_positionOf (text : List Char) :
    (∀ offset, Boundary text offset →
      offsetOf? text (positionOf text offset) = some offset) ∧
    (∀ position offset, offsetOf? text position = some offset →
      Boundary text offset ∧
        (positionOf text offset = position ∨
          position.line < text.count '\n' ∧ ∃ above line below following rest,
            LineAt text position.line above line below ∧ position.character = units line ∧
            LineAt text (position.line + 1) (above ++ line) following rest ∧
            offset = bytes (above ++ line) ∧
            positionOf text offset = ⟨position.line + 1, 0⟩)) ∧
    (∀ position, offsetOf? text position = none ↔
      text.count '\n' < position.line ∨ ∃ above line below,
        LineAt text position.line above line below ∧
          (InsidePair line position.character ∨ units line < position.character)) ∧
    ∀ offset, (positionOf text offset).line ≤ bytes text ∧
      (positionOf text offset).character ≤ bytes text := by
  refine ⟨?_, ?_, ?_, positionOf_le_bytes text⟩
  · intro offset boundary
    obtain ⟨before, after, whole, same⟩ := boundary
    rw [whole, same]
    exact offsetOf?_positionOf before after
  · intro position offset reached
    obtain ⟨above, line, below, placed⟩ := exists_lineAt (number_le_of_offsetOf? reached)
    obtain ⟨first, second, cut, column, size⟩ := placed.exists_cut reached
    have whole : text = (above ++ first) ++ (second ++ below) := by
      rw [placed.parts, cut]
      simp only [List.append_assoc]
    refine ⟨⟨above ++ first, second ++ below, whole, size⟩, ?_⟩
    rcases placed.whole_or_plain cut with plain | ⟨front, closed, plain, empty⟩
    · left
      rw [size, placed.positionOf_of_plain cut plain, ← column]
    · right
      obtain ⟨following, rest, next⟩ := placed.next closed plain
      have all : first = line := by rw [cut, empty, List.append_nil]
      rw [all] at column size
      refine ⟨placed.number_lt closed, above, line, below, following, rest, placed, column, next,
        size, ?_⟩
      have start := next.positionOf_of_plain (List.nil_append following).symm List.not_mem_nil
      rw [List.append_nil] at start
      rw [size, start]
      rfl
  · exact fun position => offsetOf?_eq_none_iff

end TemplateServer.Text
