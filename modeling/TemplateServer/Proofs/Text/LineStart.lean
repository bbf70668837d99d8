import Mathlib.Data.List.DropRight
import Mathlib.Order.Bounds.Defs
import TemplateServer.Proofs.Text.Line

/-!
Looking up positions. The offsets at which the lines of a text start form an ascending table, and
the line of a place is the last one that does not start after it, which halving the table finds.
Main statements: the position of an offset counts the line feeds before it and the code units after
the last of them, the look-up gives the same position, and positions are in the order of offsets.
-/

namespace TemplateServer.Text

variable {text before after above line below more : List Char} {start offset number value : Nat}
  {table : List Nat}

/-! ### The table of line starts -/

/-- The offsets after the line feeds of a text that starts at an offset. -/
def feedsFrom (start : Nat) : List Char → List Nat
  | [] => []
  | c :: rest =>
    let others := feedsFrom (start + c.utf8Size) rest
    if c = '\n' then (start + c.utf8Size) :: others else others

def lineStarts (text : List Char) : List Nat :=
  0 :: feedsFrom 0 text

theorem mem_feedsFrom :
    offset ∈ feedsFrom start text ↔
      ∃ before after, text = before ++ '\n' :: after ∧ offset = start + bytes before + 1 := by
  induction text generalizing start with
  | nil => simp [feedsFrom]
  | cons c rest ih =>
      have later : offset ∈ feedsFrom (start + c.utf8Size) rest ↔
          ∃ before after, c :: rest = (c :: before) ++ '\n' :: after ∧
            offset = start + bytes (c :: before) + 1 := by
        rw [ih]
        simp only [List.cons_append, List.cons.injEq, true_and, bytes_cons, Nat.add_assoc]
      rw [feedsFrom]
      constructor
      · intro member
        split at member
        · rename_i feed
          rcases List.mem_cons.mp member with same | member
          · subst feed
            exact ⟨[], rest, rfl, same⟩
          · obtain ⟨before, after, whole, same⟩ := later.mp member
            exact ⟨c :: before, after, whole, same⟩
        · obtain ⟨before, after, whole, same⟩ := later.mp member
          exact ⟨c :: before, after, whole, same⟩
      · rintro ⟨before, after, whole, same⟩
        cases before with
        | nil =>
            obtain ⟨rfl, rfl⟩ := List.cons.inj whole
            rw [if_pos rfl, same]
            exact List.mem_cons_self
        | cons first before =>
            obtain ⟨rfl, _⟩ := List.cons.inj whole
            have found := later.mpr ⟨before, after, whole, same⟩
            split
            · exact List.mem_cons_of_mem _ found
            · exact found

/-- The table lists the start of the text and the places after its line feeds. -/
theorem mem_lineStarts :
    offset ∈ lineStarts text ↔
      offset = 0 ∨ ∃ before after, text = before ++ '\n' :: after ∧ offset = bytes before + 1 := by
  unfold lineStarts
  rw [List.mem_cons, mem_feedsFrom]
  simp only [Nat.zero_add]

theorem pairwise_feedsFrom (start : Nat) (text : List Char) :
    (feedsFrom start text).Pairwise (· < ·) := by
  induction text generalizing start with
  | nil => exact .nil
  | cons c rest ih =>
      rw [feedsFrom]
      split
      · apply List.Pairwise.cons _ (ih _)
        intro later member
        obtain ⟨before, _, _, same⟩ := mem_feedsFrom.mp member
        omega
      · exact ih _

theorem pairwise_lineStarts (text : List Char) : (lineStarts text).Pairwise (· < ·) := by
  apply List.Pairwise.cons _ (pairwise_feedsFrom 0 text)
  intro later member
  obtain ⟨before, _, _, same⟩ := mem_feedsFrom.mp member
  omega

theorem getElem?_feedsFrom (start number : Nat) (text : List Char) :
    (feedsFrom start text)[number]? =
      (splitLine? (number + 1) text).map fun parts => start + bytes parts.1 := by
  induction text generalizing start number with
  | nil => rfl
  | cons c rest ih =>
      rw [feedsFrom, splitLine?, Option.map_map]
      by_cases feed : c = '\n'
      · rw [if_pos feed, if_pos feed]
        cases number with
        | zero => cases rest <;> rfl
        | succ number =>
            rw [List.getElem?_cons_succ, ih]
            congr 1
            funext parts
            exact Nat.add_assoc _ _ _
      · rw [if_neg feed, if_neg feed, ih]
        congr 1
        funext parts
        exact Nat.add_assoc _ _ _

/-- The entries of the table are the places where the text splits into lines. -/
theorem getElem?_lineStarts (text : List Char) (number : Nat) :
    (lineStarts text)[number]? = (splitLine? number text).map fun parts => bytes parts.1 := by
  cases number with
  | zero => cases text <;> rfl
  | succ number =>
      unfold lineStarts
      rw [List.getElem?_cons_succ, getElem?_feedsFrom]
      simp only [Nat.zero_add]

/-! ### Halving -/

/-- The number of the last entry of a table that is not above a value, found by halving the `size`
entries from number `low` on. -/
def search (table : List Nat) (value low size : Nat) (fits : low + size ≤ table.length) : Nat :=
  if large : 1 < size then
    if table[low + size / 2] ≤ value then
      search table value (low + size / 2) (size - size / 2) (by omega)
    else
      search table value low (size - size / 2) (by omega)
  else
    low
termination_by size

/-- What is between the first entry and those above the value shrinks to one entry. -/
theorem search_spec (ascending : table.Pairwise (· < ·)) {low size : Nat}
    (fits : low + size ≤ table.length) (filled : 0 < size)
    (notAbove : ∀ entry, table[low]? = some entry → entry ≤ value)
    (above : ∀ later entry, low + size ≤ later → table[later]? = some entry → value < entry) :
    search table value low size fits < table.length ∧
      (∀ entry, table[search table value low size fits]? = some entry → entry ≤ value) ∧
      ∀ later entry, search table value low size fits < later → table[later]? = some entry →
        value < entry := by
  fun_induction search table value low size fits with
  | case1 low size fits large reached ih =>
      apply ih (by omega)
      · intro entry found
        rw [List.getElem?_eq_getElem (by omega)] at found
        rw [← Option.some.inj found]
        exact reached
      · intro later entry far
        exact above later entry (by omega)
  | case2 low size fits large missed ih =>
      apply ih (by omega) notAbove
      intro later entry far found
      -- the middle is above the value, and so is all that follows it
      obtain ⟨inside, rfl⟩ := List.getElem?_eq_some_iff.mp found
      rcases Nat.lt_or_ge (low + size / 2) later with past | middle
      · have order := List.pairwise_iff_getElem.mp ascending _ _ (by omega) inside past
        omega
      · have same : later = low + size / 2 := by omega
        subst same
        omega
  | case3 low size fits small =>
      refine ⟨by omega, notAbove, ?_⟩
      intro later entry far
      exact above later entry (by omega)

/-- The line of a place: the last one that does not start after it. -/
def lineOf (text : List Char) (place : Nat) : Nat :=
  search (lineStarts text) place 0 (lineStarts text).length (by omega)

theorem lineOf_spec (text : List Char) (place : Nat) :
    lineOf text place < (lineStarts text).length ∧
      (∀ entry, (lineStarts text)[lineOf text place]? = some entry → entry ≤ place) ∧
      ∀ later entry, lineOf text place < later → (lineStarts text)[later]? = some entry →
        place < entry := by
  apply search_spec (pairwise_lineStarts text)
  · exact Nat.succ_pos _
  · intro entry found
    cases found
    exact Nat.zero_le place
  · intro later entry far found
    rw [List.getElem?_eq_none (by omega)] at found
    cases found

def lookUp (text : List Char) (offset : Nat) : Position :=
  let before := fitting offset text
  let line := lineOf text (bytes before)
  let lineStart := (lineStarts text)[line]?.getD 0
  ⟨line, units (before.drop (fitting lineStart text).length)⟩

theorem getElem?_lineStarts_append (starts : ∀ c, above.getLast? = some c → c = '\n')
    (rest : List Char) : (lineStarts (above ++ rest))[above.count '\n']? = some (bytes above) := by
  rw [getElem?_lineStarts, splitLine?_append starts]
  rfl

/-- The lines that do not start after a place are those up to the one it is on. -/
theorem LineAt.bytes_le_iff (placed : LineAt (before ++ after) number above line below) :
    bytes above ≤ bytes before ↔ number ≤ before.count '\n' := by
  constructor
  · intro early
    obtain ⟨middle, longer, _⟩ := exists_append_of_bytes_le placed.parts.symm early
    rw [longer, List.count_append, placed.counted]
    exact Nat.le_add_right _ _
  · intro listed
    obtain ⟨earlier, current, rest, found⟩ := exists_lineAt listed
    -- the line with this number starts where it does in the part before the place
    have same : splitLine? number (before ++ after) = some (earlier, current ++ rest ++ after) := by
      rw [found.parts, List.append_assoc, ← found.counted]
      exact splitLine?_append found.starts _
    rw [placed.parts, ← placed.counted, splitLine?_append placed.starts] at same
    obtain ⟨rfl, _⟩ := Prod.mk.inj (Option.some.inj same)
    rw [found.parts, bytes_append]
    exact Nat.le_add_right _ _

theorem exists_lineAt_of_getElem? {entry : Nat} (found : (lineStarts text)[number]? = some entry) :
    ∃ above line below, LineAt text number above line below ∧ entry = bytes above := by
  have listed : number ≤ text.count '\n' := by
    apply Nat.le_of_not_lt
    intro missing
    rw [getElem?_lineStarts, splitLine?_of_count_lt missing] at found
    cases found
  obtain ⟨above, line, below, placed⟩ := exists_lineAt listed
  refine ⟨above, line, below, placed, ?_⟩
  rw [placed.parts, ← placed.counted, getElem?_lineStarts_append placed.starts] at found
  exact (Option.some.inj found).symm

theorem lineOf_append (before after : List Char) :
    lineOf (before ++ after) (bytes before) = before.count '\n' := by
  obtain ⟨inside, notAbove, above⟩ := lineOf_spec (before ++ after) (bytes before)
  apply Nat.le_antisymm
  · obtain ⟨earlier, line, below, placed, same⟩ :=
      exists_lineAt_of_getElem? (List.getElem?_eq_getElem inside)
    apply placed.bytes_le_iff.mp
    rw [← same]
    exact notAbove _ (List.getElem?_eq_getElem inside)
  · apply Nat.le_of_not_lt
    intro short
    have listed : before.count '\n' ≤ (before ++ after).count '\n' := by
      rw [List.count_append]
      exact Nat.le_add_right _ _
    obtain ⟨earlier, line, below, placed⟩ := exists_lineAt listed
    have found := getElem?_lineStarts_append placed.starts (line ++ below)
    rw [← placed.parts, placed.counted] at found
    have late := above _ _ short found
    have early := placed.bytes_le_iff.mpr (Nat.le_refl _)
    omega

/-! ### Positions by counting -/

/-- The line of a place counts the line feeds before it, and its column the code units after the
last of them. -/
theorem foldl_next_eq (before : List Char) :
    before.foldl Position.next Position.zero =
      ⟨before.count '\n', units (before.rtakeWhile (· != '\n'))⟩ := by
  obtain ⟨above, current, rfl, starts, plain, reached⟩ := exists_lastLine before
  have last : (above ++ current).rtakeWhile (· != '\n') = current := by
    apply takeWhile_reverse_append
    · intro c member
      rw [bne_iff_ne]
      rintro rfl
      exact plain member
    · intro c final
      rw [starts c final]
      rfl
  rw [reached, last, List.count_append, List.count_eq_zero_of_not_mem plain, Nat.add_zero]

/-- Looking a position up gives the one that reading up to the place gives. -/
theorem lookUp_eq_positionOf (text : List Char) (offset : Nat) :
    lookUp text offset = positionOf text offset := by
  obtain ⟨after, whole⟩ := fitting_prefix offset text
  obtain ⟨above, current, same, starts, plain, reached⟩ := exists_lastLine (fitting offset text)
  have parts : text = above ++ (current ++ after) := by
    rw [← whole, same, List.append_assoc]
  have line : lineOf text (bytes (fitting offset text)) = above.count '\n' := by
    conv =>
      lhs
      arg 1
      rw [← whole]
    rw [lineOf_append, same, List.count_append, List.count_eq_zero_of_not_mem plain, Nat.add_zero]
  have lineStart : (lineStarts text)[above.count '\n']? = some (bytes above) := by
    rw [parts]
    exact getElem?_lineStarts_append starts _
  have upTo : fitting (bytes above) text = above := by
    rw [parts, fitting_append]
  unfold positionOf lookUp
  simp only [line, lineStart, Option.getD_some, upTo]
  rw [reached, same, List.drop_left]

theorem prefix_fitting {first : List Char} {limit : Nat} (small : bytes first ≤ limit)
    (rest : List Char) : first <+: fitting limit (first ++ rest) := by
  induction first generalizing limit with
  | nil => exact List.nil_prefix
  | cons c first ih =>
      rw [bytes_cons] at small
      rw [List.cons_append, fitting, if_pos (by omega)]
      exact (List.prefix_cons_inj c).mpr (ih (by omega))

/-- The place of an offset is the last one that is neither after the offset nor after the text. -/
theorem isGreatest_fitting (text : List Char) (offset : Nat) :
    IsGreatest {place | Boundary text place ∧ place ≤ min offset (bytes text)}
      (bytes (fitting offset text)) := by
  obtain ⟨after, whole⟩ := fitting_prefix offset text
  have fits := bytes_fitting_le offset text
  constructor
  · refine ⟨⟨fitting offset text, after, whole.symm, rfl⟩, ?_⟩
    have size : bytes text = bytes (fitting offset text) + bytes after := by
      rw [← bytes_append, whole]
    omega
  · rintro place ⟨⟨first, rest, parts, rfl⟩, early⟩
    obtain ⟨more, longer⟩ := prefix_fitting (Nat.le_trans early (Nat.min_le_left _ _)) rest
    rw [← parts] at longer
    rw [← longer, bytes_append]
    exact Nat.le_add_right _ _

/-! ### The order of positions -/

/-- Whether a position comes before another one: on an earlier line, or in an earlier column of the
same line. -/
def Position.Before (left right : Position) : Prop :=
  left.line < right.line ∨ left.line = right.line ∧ left.character < right.character

namespace Position

variable {left right : Position}

theorem le_iff : left.le right = true ↔
    left.line < right.line ∨ left.line = right.line ∧ left.character ≤ right.character := by
  unfold le
  simp only [Bool.or_eq_true, Bool.and_eq_true, decide_eq_true_eq, beq_iff_eq]

theorem Before.le (earlier : left.Before right) : left.le right = true := by
  rw [le_iff]
  rcases earlier with above | ⟨same, shorter⟩
  · exact Or.inl above
  · exact Or.inr ⟨same, Nat.le_of_lt shorter⟩

theorem Before.not_le (earlier : left.Before right) : right.le left = false := by
  rw [← Bool.not_eq_true, le_iff]
  unfold Before at earlier
  omega

theorem le_refl (position : Position) : position.le position = true :=
  le_iff.mpr (Or.inr ⟨rfl, Nat.le_refl _⟩)

/-- Reading on leads to a later position. -/
theorem before_foldl_next (position : Position) (filled : more ≠ []) :
    position.Before (more.foldl next position) := by
  by_cases feed : '\n' ∈ more
  · left
    have counted := List.count_pos_iff.mpr feed
    rw [line_foldl_next]
    omega
  · right
    rw [foldl_next_of_plain feed]
    refine ⟨rfl, ?_⟩
    obtain ⟨c, rest, rfl⟩ := List.exists_cons_of_ne_nil filled
    have positive := charUnits_pos c
    change position.character < position.character + units (c :: rest)
    rw [units_cons]
    omega

end Position

theorem positionOf_mono {first second : Nat} (ordered : first ≤ second) (text : List Char) :
    (positionOf text first).le (positionOf text second) = true := by
  obtain ⟨after, whole⟩ := fitting_prefix first text
  have small := Nat.le_trans (bytes_fitting_le first text) ordered
  obtain ⟨more, longer⟩ := prefix_fitting small after
  rw [whole] at longer
  unfold positionOf
  rw [← longer, List.foldl_append]
  by_cases filled : more = []
  · rw [filled]
    exact Position.le_refl _
  · exact (Position.before_foldl_next _ filled).le

theorem Boundary.positionOf_before {first second : Nat} (starts : Boundary text first)
    (ends : Boundary text second) (ordered : first < second) :
    (positionOf text first).Before (positionOf text second) := by
  obtain ⟨before, after, whole, rfl⟩ := starts
  obtain ⟨longer, rest, other, rfl⟩ := ends
  obtain ⟨more, rfl, _⟩ := exists_append_of_bytes_le (whole.symm.trans other) (Nat.le_of_lt ordered)
  have filled : more ≠ [] := by
    rintro rfl
    rw [List.append_nil] at ordered
    exact Nat.lt_irrefl _ ordered
  rw [other, positionOf_append, ← other, whole, positionOf_append, List.foldl_append]
  exact Position.before_foldl_next _ filled

/-- Places are in the order of their positions. -/
theorem Boundary.le_positionOf {first second : Nat} (starts : Boundary text first)
    (ends : Boundary text second) :
    (positionOf text first).le (positionOf text second) = decide (first ≤ second) := by
  by_cases ordered : first ≤ second
  · rw [positionOf_mono ordered, decide_eq_true ordered]
  · rw [(ends.positionOf_before starts (Nat.lt_of_not_le ordered)).not_le, decide_eq_false ordered]

end TemplateServer.Text
