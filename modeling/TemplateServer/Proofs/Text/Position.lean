import Mathlib.Data.List.Induction
import TemplateServer.Proofs.Text.Piece
import TemplateServer.Text.Position

/-!
Places in a text. A place cuts the text in two parts, and its offset is the size of the first one.
Main statements: places are told apart by their offsets, and the position of an offset designates
the place with that offset.
-/

namespace TemplateServer.Text

variable {text before after first second rest other : List Char}

/-! ### Offsets -/

theorem bytes_eq_zero : bytes text = 0 ↔ text = [] := by
  cases text with
  | nil => simp
  | cons c rest =>
      have positive := c.utf8Size_pos
      simp only [bytes_cons, List.cons_ne_nil, iff_false]
      omega

/-- Of two places, the one with the greater offset comes later. -/
theorem exists_append_of_bytes_le (same : first ++ rest = second ++ other)
    (sizes : bytes first ≤ bytes second) :
    ∃ middle, second = first ++ middle ∧ rest = middle ++ other := by
  rcases List.append_eq_append_iff.mp same with ⟨middle, longer, shorter⟩ | ⟨middle, longer, shorter⟩
  · exact ⟨middle, longer, shorter⟩
  · have none : middle = [] := by
      rw [longer, bytes_append] at sizes
      apply bytes_eq_zero.mp
      omega
    rw [none, List.append_nil] at longer
    rw [none, List.nil_append] at shorter
    exact ⟨[], by rw [longer, List.append_nil], by rw [shorter, List.nil_append]⟩

theorem eq_of_bytes_eq (same : first ++ rest = second ++ other)
    (sizes : bytes first = bytes second) : first = second ∧ rest = other := by
  obtain ⟨middle, longer, shorter⟩ := exists_append_of_bytes_le same (Nat.le_of_eq sizes)
  have none : middle = [] := by
    rw [longer, bytes_append] at sizes
    apply bytes_eq_zero.mp
    omega
  rw [none] at longer shorter
  exact ⟨by rw [longer, List.append_nil], by rw [shorter, List.nil_append]⟩

theorem fitting_append (before after : List Char) :
    fitting (bytes before) (before ++ after) = before := by
  induction before with
  | nil =>
      cases after with
      | nil => rfl
      | cons c rest =>
          have positive := c.utf8Size_pos
          apply if_neg
          rw [bytes_nil]
          omega
  | cons c rest ih =>
      rw [List.cons_append, fitting, bytes_cons, if_pos (Nat.le_add_right _ _),
        Nat.add_sub_cancel_left, ih]

theorem positionOf_append (before after : List Char) :
    positionOf (before ++ after) (bytes before) = before.foldl Position.next Position.zero := by
  unfold positionOf
  rw [fitting_append]

/-! ### Positions -/

/-- A text is so many whole lines and a part of one that holds no line feed; these give the position
of its end. -/
theorem exists_lastLine (before : List Char) :
    ∃ above current, before = above ++ current ∧ (∀ c, above.getLast? = some c → c = '\n') ∧
      '\n' ∉ current ∧
      before.foldl Position.next Position.zero = ⟨above.count '\n', units current⟩ := by
  induction before using List.reverseRecOn with
  | nil => exact ⟨[], [], rfl, fun _ => nofun, List.not_mem_nil, rfl⟩
  | append_singleton earlier c ih =>
      obtain ⟨above, current, rfl, ends, plain, reached⟩ := ih
      rw [List.foldl_append, reached]
      by_cases feed : c = '\n'
      · subst feed
        refine ⟨above ++ current ++ ['\n'], [], (List.append_nil _).symm, ?_, List.not_mem_nil, ?_⟩
        · intro last same
          rw [List.getLast?_concat] at same
          exact (Option.some.inj same).symm
        · simp [Position.next, List.count_eq_zero_of_not_mem plain]
      · refine ⟨above, current ++ [c], List.append_assoc _ _ _, ends, ?_, ?_⟩
        · intro member
          rcases List.mem_append.mp member with early | late
          · exact plain early
          · exact feed (List.mem_singleton.mp late).symm
        · simp [Position.next, feed]

theorem splitLine?_append {above : List Char} (ends : ∀ c, above.getLast? = some c → c = '\n')
    (rest : List Char) : splitLine? (above.count '\n') (above ++ rest) = some (above, rest) := by
  induction above with
  | nil => rw [List.count_nil, List.nil_append, splitLine?]
  | cons c above ih =>
      have endsAgain : ∀ last, above.getLast? = some last → last = '\n' := by
        intro last same
        apply ends
        rw [List.getLast?_cons, same]
        rfl
      by_cases feed : c = '\n'
      · subst feed
        rw [List.count_cons_self, List.cons_append, splitLine?, if_pos rfl, ih endsAgain]
        rfl
      · -- a line feed is still to come, since the last character is one
        have more : '\n' ∈ above := by
          cases last : above.getLast? with
          | none =>
              rw [List.getLast?_eq_none_iff.mp last] at ends
              exact absurd (ends c rfl) feed
          | some final =>
              rw [← endsAgain final last]
              exact List.mem_of_getLast? last
        obtain ⟨count, counted⟩ := Nat.exists_eq_add_of_lt (List.count_pos_iff.mpr more)
        have counted : above.count '\n' = count + 1 := by omega
        rw [List.count_cons_of_ne feed, counted, List.cons_append, splitLine?, if_neg feed,
          ← counted, ih endsAgain]
        rfl

theorem charUnits_pos (c : Char) : 0 < charUnits c := by
  unfold charUnits
  split
  · exact Nat.one_pos
  · exact Nat.two_pos

theorem splitColumn?_append {current : List Char} (plain : '\n' ∉ current) (rest : List Char) :
    splitColumn? (units current) (current ++ rest) = some (current, rest) := by
  induction current with
  | nil => rw [units_nil, List.nil_append, splitColumn?]
  | cons c current ih =>
      have positive := charUnits_pos c
      obtain ⟨different, plain⟩ := not_or.mp (List.mem_cons.not.mp plain)
      obtain ⟨column, same⟩ : ∃ column, units (c :: current) = column + 1 :=
        ⟨charUnits c + units current - 1, by rw [units_cons]; omega⟩
      have left : column + 1 - charUnits c = units current := by
        rw [units_cons] at same
        omega
      rw [same, List.cons_append, splitColumn?, if_neg (Ne.symm different), if_pos, left, ih plain]
      · rfl
      · rw [← same, units_cons]
        omega

/-- The position of the end of a part of the text cuts the text after that part. -/
theorem split?_positionOf (before after : List Char) :
    split? (before ++ after) (positionOf (before ++ after) (bytes before)) =
      some (before, after) := by
  obtain ⟨above, current, same, ends, plain, reached⟩ := exists_lastLine before
  rw [positionOf_append, reached]
  unfold split?
  rw [same, List.append_assoc, splitLine?_append ends]
  simp only
  rw [splitColumn?_append plain]
  rfl

theorem offsetOf?_positionOf (before after : List Char) :
    offsetOf? (before ++ after) (positionOf (before ++ after) (bytes before)) =
      some (bytes before) := by
  unfold offsetOf?
  rw [split?_positionOf]
  rfl

/-- The range of a piece of the text leads back to the piece. -/
theorem Piece.Within.offsetOf?_range {piece : Piece} (within : piece.Within ⟨0, text⟩) :
    offsetOf? text (piece.range text).start = some piece.start ∧
      offsetOf? text (piece.range text).stop = some piece.stop := by
  obtain ⟨before, after, chars, start⟩ := within
  simp only [Nat.zero_add] at chars start
  subst chars
  have stop : piece.stop = bytes (before ++ piece.chars) := by
    unfold Piece.stop
    rw [start, bytes_append]
  constructor
  · change offsetOf? _ (positionOf _ piece.start) = _
    rw [start]
    exact offsetOf?_positionOf before (piece.chars ++ after)
  · change offsetOf? _ (positionOf _ piece.stop) = _
    rw [stop, ← List.append_assoc]
    exact offsetOf?_positionOf (before ++ piece.chars) after

/-- A piece of the text is told by the range it covers. -/
theorem eq_of_range_eq {piece other : Piece} (within : piece.Within ⟨0, text⟩)
    (otherWithin : other.Within ⟨0, text⟩) (same : piece.range text = other.range text) :
    piece = other := by
  obtain ⟨start, stop⟩ := within.offsetOf?_range
  obtain ⟨otherStart, otherStop⟩ := otherWithin.offsetOf?_range
  rw [same, otherStart] at start
  rw [same, otherStop] at stop
  have starts : other.start = piece.start := Option.some.inj start
  have stops : other.stop = piece.stop := Option.some.inj stop
  obtain ⟨before, after, whole, reached⟩ := within
  obtain ⟨otherBefore, otherAfter, otherWhole, otherReached⟩ := otherWithin
  obtain ⟨rfl, rest⟩ := eq_of_bytes_eq (whole.symm.trans otherWhole) (by
    simp only [Nat.zero_add] at reached otherReached
    omega)
  obtain ⟨chars, _⟩ := eq_of_bytes_eq rest (by
    unfold Piece.stop at stops
    omega)
  obtain ⟨_, _⟩ := piece
  obtain ⟨_, _⟩ := other
  simp only at starts chars
  rw [starts, chars]

/-! ### Cutting a text in two -/

theorem append_of_splitLine? {line : Nat} (split : splitLine? line text = some (before, after)) :
    text = before ++ after := by
  induction text generalizing line before with
  | nil =>
      cases line with
      | zero =>
          cases split
          rfl
      | succ line => cases split
  | cons c text ih =>
      cases line with
      | zero =>
          cases split
          rfl
      | succ line =>
          rw [splitLine?] at split
          obtain ⟨parts, found, same⟩ := Option.map_eq_some_iff.mp split
          cases same
          rw [List.cons_append, ← ih found]

theorem append_of_splitColumn? {column : Nat}
    (split : splitColumn? column text = some (before, after)) : text = before ++ after := by
  induction text generalizing column before with
  | nil =>
      cases column with
      | zero =>
          cases split
          rfl
      | succ column => cases split
  | cons c text ih =>
      cases column with
      | zero =>
          cases split
          rfl
      | succ column =>
          rw [splitColumn?] at split
          split at split
          · split at split
            · cases split
              rfl
            · cases split
          · split at split
            · obtain ⟨parts, found, same⟩ := Option.map_eq_some_iff.mp split
              cases same
              rw [List.cons_append, ← ih found]
            · cases split

theorem append_of_split? {position : Position}
    (split : split? text position = some (before, after)) : text = before ++ after := by
  unfold split? at split
  cases found : splitLine? position.line text with
  | none =>
      rw [found] at split
      cases split
  | some parts =>
      rw [found] at split
      obtain ⟨columns, cut, same⟩ := Option.map_eq_some_iff.mp split
      cases same
      rw [append_of_splitLine? found, append_of_splitColumn? cut, List.append_assoc]

theorem exists_split_of_reached {position : Position} {offset : Nat}
    (reached : offsetOf? text position = some offset) :
    ∃ before after, text = before ++ after ∧ offset = bytes before ∧
      split? text position = some (before, after) := by
  unfold offsetOf? at reached
  obtain ⟨⟨before, after⟩, split, rfl⟩ := Option.map_eq_some_iff.mp reached
  exact ⟨before, after, append_of_split? split, rfl, split⟩

/-- A place that is not outside of a part of the text cuts that part in two. -/
theorem exists_split_of_offsetOf? {position : Position} {offset : Nat} {middle : List Char}
    (reached : offsetOf? (before ++ (middle ++ after)) position = some offset)
    (notBefore : bytes before ≤ offset) (notAfter : offset ≤ bytes before + bytes middle) :
    ∃ first second, middle = first ++ second ∧
      split? (before ++ (middle ++ after)) position = some (before ++ first, second ++ after) := by
  obtain ⟨early, late, cut, rfl, split⟩ := exists_split_of_reached reached
  obtain ⟨first, left, rest⟩ := exists_append_of_bytes_le cut notBefore
  have wide : early ++ late = (before ++ middle) ++ after := by
    rw [← cut, List.append_assoc]
  obtain ⟨second, whole, right⟩ := exists_append_of_bytes_le wide (by rw [bytes_append]; exact notAfter)
  rw [left, List.append_assoc] at whole
  refine ⟨first, second, List.append_cancel_left whole, ?_⟩
  rw [split, ← left, ← right]

end TemplateServer.Text
