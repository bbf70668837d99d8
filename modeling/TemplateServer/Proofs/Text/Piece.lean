import Mathlib.Data.List.TakeWhile
import TemplateServer.Text.Class
import TemplateServer.Text.Piece

/-!
Pieces that are used up from the front. What is dropped from a piece does not move its end, and a
piece that is followed by more text is used up alike as long as that text stops the reading.
-/

namespace TemplateServer.Text

/-- Whether a text does not start with a character that is taken. -/
def Stops (takes : Char → Bool) (text : List Char) : Prop :=
  ∀ c, text.head? = some c → takes c = false

variable {takes : Char → Bool} {text first second tail : List Char}

theorem stops_nil (takes : Char → Bool) : Stops takes [] :=
  fun _ => nofun

theorem stops_cons {c : Char} (refused : takes c = false) (rest : List Char) :
    Stops takes (c :: rest) := by
  intro other same
  rw [← Option.some.inj same]
  exact refused

theorem Stops.takeWhile_eq (stops : Stops takes text) : text.takeWhile takes = [] := by
  cases text with
  | nil => rfl
  | cons c rest => exact List.takeWhile_cons_of_neg (by rw [stops c rfl]; exact Bool.false_ne_true)

theorem Stops.dropWhile_eq (stops : Stops takes text) : text.dropWhile takes = text := by
  cases text with
  | nil => rfl
  | cons c rest => exact List.dropWhile_cons_of_neg (by rw [stops c rfl]; exact Bool.false_ne_true)

theorem stops_dropWhile (takes : Char → Bool) (text : List Char) :
    Stops takes (text.dropWhile takes) := by
  intro c first
  have head := List.head?_dropWhile_not takes text
  rw [first] at head
  exact head

theorem head?_ne_of_forall {c : Char} (never : ∀ rest, text = c :: rest → False) :
    text.head? ≠ some c := by
  intro head
  obtain ⟨rest, same⟩ := List.head?_eq_some_iff.mp head
  exact never rest same

theorem isEmpty_dropWhile (takes : Char → Bool) (text : List Char) :
    (text.dropWhile takes).isEmpty = text.all takes := by
  rw [Bool.eq_iff_iff, List.isEmpty_iff, List.dropWhile_eq_nil_iff, List.all_eq_true]

theorem takeWhile_append_of_stops (stops : Stops takes second) :
    (first ++ second).takeWhile takes = first.takeWhile takes := by
  induction first with
  | nil => exact stops.takeWhile_eq
  | cons c rest ih =>
      rw [List.cons_append, List.takeWhile_cons, List.takeWhile_cons, ih]

theorem dropWhile_append_of_stops (stops : Stops takes second) :
    (first ++ second).dropWhile takes = first.dropWhile takes ++ second := by
  induction first with
  | nil => exact stops.dropWhile_eq
  | cons c rest ih =>
      rw [List.cons_append, List.dropWhile_cons, List.dropWhile_cons, ih]
      split
      · rfl
      · rfl

theorem takeWhile_append_of_all (taken : ∀ c ∈ first, takes c = true) (stops : Stops takes second) :
    (first ++ second).takeWhile takes = first := by
  rw [takeWhile_append_of_stops stops]
  exact List.takeWhile_eq_self_iff.mpr taken

theorem dropWhile_append_of_all (taken : ∀ c ∈ first, takes c = true) (stops : Stops takes second) :
    (first ++ second).dropWhile takes = second := by
  rw [List.dropWhile_append_of_pos taken]
  exact stops.dropWhile_eq

theorem takeWhile_congr {other : Char → Bool} (same : ∀ c ∈ text, takes c = other c) :
    text.takeWhile takes = text.takeWhile other := by
  induction text with
  | nil => rfl
  | cons c rest ih =>
      rw [List.takeWhile_cons, List.takeWhile_cons, same c List.mem_cons_self,
        ih fun d member => same d (List.mem_cons_of_mem c member)]

theorem dropWhile_congr {other : Char → Bool} (same : ∀ c ∈ text, takes c = other c) :
    text.dropWhile takes = text.dropWhile other := by
  induction text with
  | nil => rfl
  | cons c rest ih =>
      rw [List.dropWhile_cons, List.dropWhile_cons, same c List.mem_cons_self,
        ih fun d member => same d (List.mem_cons_of_mem c member)]

theorem not_mem_takeWhile_ne (mark : Char) (text : List Char) :
    mark ∉ text.takeWhile (· != mark) := by
  intro member
  have different := List.mem_takeWhile_imp member
  simp at different

theorem takeWhile_append_of_dropWhile {rest : List Char} (dropped : text.dropWhile takes = rest) :
    text = text.takeWhile takes ++ rest := by
  rw [← dropped, List.takeWhile_append_dropWhile]

/-! ### The end of a text -/

/-- The characters that are dropped at the end of a text all satisfy the condition. -/
theorem exists_dropEndWhile_append (drops : Char → Bool) (text : List Char) :
    ∃ dropped, text = dropEndWhile drops text ++ dropped ∧ ∀ c ∈ dropped, drops c = true := by
  refine ⟨(text.reverse.takeWhile drops).reverse, ?_, ?_⟩
  · unfold dropEndWhile
    rw [← List.reverse_append, List.takeWhile_append_dropWhile, List.reverse_reverse]
  · intro c member
    exact List.mem_takeWhile_imp (List.mem_reverse.mp member)

theorem dropEndWhile_eq_nil {drops : Char → Bool} :
    dropEndWhile drops text = [] ↔ ∀ c ∈ text, drops c = true := by
  unfold dropEndWhile
  rw [List.reverse_eq_nil_iff, List.dropWhile_eq_nil_iff]
  simp only [List.mem_reverse]

theorem stops_reverse (ends : ∀ c, first.getLast? = some c → takes c = false) :
    Stops takes first.reverse := by
  intro c head
  rw [List.head?_reverse] at head
  exact ends c head

theorem dropEndWhile_append_of_all (dropped : ∀ c ∈ second, takes c = true)
    (ends : ∀ c, first.getLast? = some c → takes c = false) :
    dropEndWhile takes (first ++ second) = first := by
  unfold dropEndWhile
  rw [List.reverse_append, dropWhile_append_of_all _ (stops_reverse ends), List.reverse_reverse]
  intro c member
  exact dropped c (List.mem_reverse.mp member)

theorem dropEndWhile_eq_self (ends : ∀ c, text.getLast? = some c → takes c = false) :
    dropEndWhile takes text = text := by
  have kept := @dropEndWhile_append_of_all takes text [] (fun _ => nofun) ends
  rw [List.append_nil] at kept
  exact kept

theorem takeWhile_reverse_append (taken : ∀ c ∈ second, takes c = true)
    (ends : ∀ c, first.getLast? = some c → takes c = false) :
    ((first ++ second).reverse.takeWhile takes).reverse = second := by
  rw [List.reverse_append, takeWhile_append_of_all _ (stops_reverse ends), List.reverse_reverse]
  intro c member
  exact taken c (List.mem_reverse.mp member)

theorem exists_trim (text : List Char) :
    ∃ before after, text = before ++ (trim text ++ after) := by
  obtain ⟨dropped, same, _⟩ := exists_dropEndWhile_append isWhiteSpace (trimStart text)
  refine ⟨text.takeWhile isWhiteSpace, dropped, ?_⟩
  calc
    text = text.takeWhile isWhiteSpace ++ trimStart text := List.takeWhile_append_dropWhile.symm
    _ = text.takeWhile isWhiteSpace ++ (trim text ++ dropped) := congrArg _ same

theorem trim_eq_nil : trim text = [] ↔ isEmptyToEye text = true := by
  unfold trim trimEnd trimStart isEmptyToEye
  rw [dropEndWhile_eq_nil, List.all_eq_true]
  constructor
  · intro dropped c member
    rw [← List.takeWhile_append_dropWhile (p := isWhiteSpace) (l := text)] at member
    rcases List.mem_append.mp member with early | late
    · exact List.mem_takeWhile_imp early
    · exact dropped c late
  · intro all c member
    exact all c ((List.dropWhile_suffix isWhiteSpace).subset member)

namespace Piece

def extend (tail : List Char) (piece : Piece) : Piece :=
  ⟨piece.start, piece.chars ++ tail⟩

def upTo (piece rest : Piece) : Piece :=
  ⟨piece.start, piece.chars.take (piece.chars.length - rest.chars.length)⟩

variable {piece : Piece}

@[simp]
theorem chars_extend (tail : List Char) (piece : Piece) :
    (piece.extend tail).chars = piece.chars ++ tail :=
  rfl

@[simp]
theorem chars_dropWhile (piece : Piece) (drops : Char → Bool) :
    (piece.dropWhile drops).chars = piece.chars.dropWhile drops :=
  rfl

@[simp]
theorem chars_drop (piece : Piece) (count : Nat) :
    (piece.drop count).chars = piece.chars.drop count :=
  rfl

@[simp]
theorem stop_dropWhile (piece : Piece) (drops : Char → Bool) :
    (piece.dropWhile drops).stop = piece.stop := by
  unfold stop dropWhile
  rw [Nat.add_assoc, ← bytes_append, List.takeWhile_append_dropWhile]

@[simp]
theorem stop_drop (piece : Piece) (count : Nat) : (piece.drop count).stop = piece.stop := by
  unfold stop drop
  rw [Nat.add_assoc, ← bytes_append, List.take_append_drop]

theorem eq_of_stop {rest : Piece} (same : rest.stop = piece.stop) (empty : rest.chars = []) :
    rest = ⟨piece.stop, []⟩ := by
  obtain ⟨start, chars⟩ := rest
  cases empty
  have reached : start + 0 = piece.stop := same
  rw [← reached]
  rfl

theorem dropWhile_of_stops (stops : Stops takes piece.chars) : piece.dropWhile takes = piece := by
  unfold dropWhile
  rw [stops.takeWhile_eq, stops.dropWhile_eq]
  rfl

theorem dropWhile_extend (stops : Stops takes tail) :
    (piece.extend tail).dropWhile takes = (piece.dropWhile takes).extend tail := by
  unfold dropWhile extend
  rw [takeWhile_append_of_stops stops, dropWhile_append_of_stops stops]

theorem takeWhile_extend (stops : Stops takes tail) :
    (piece.extend tail).takeWhile takes = piece.takeWhile takes := by
  unfold takeWhile extend
  rw [takeWhile_append_of_stops stops]

theorem chars_extend_cons {c : Char} {rest : List Char} (first : piece.chars = c :: rest) :
    (piece.extend tail).chars = c :: (rest ++ tail) := by
  rw [chars_extend, first]
  rfl

theorem drop_one_extend {c : Char} {rest : List Char} (first : piece.chars = c :: rest) :
    (piece.extend tail).drop 1 = (piece.drop 1).extend tail := by
  unfold drop extend
  rw [first]
  rfl

theorem drop_one_dropWhile {c : Char} {rest : List Char} (first : piece.chars = c :: rest)
    (taken : takes c = true) : (piece.drop 1).dropWhile takes = piece.dropWhile takes := by
  unfold drop dropWhile
  rw [first]
  simp [taken, Nat.add_assoc]

theorem chars_drop_one {c : Char} {rest : List Char} (first : piece.chars = c :: rest) :
    (piece.drop 1).chars = rest := by
  rw [chars_drop, first]
  rfl

theorem toList_text (pieces : List Piece) :
    (pieces.map Piece.text).map String.toList = pieces.map Piece.chars := by
  rw [List.map_map]
  apply List.map_congr_left
  intro piece _
  exact String.toList_ofList

theorem upTo_dropWhile (piece : Piece) (takes : Char → Bool) :
    piece.upTo (piece.dropWhile takes) = piece.takeWhile takes := by
  unfold upTo takeWhile
  have whole : (piece.chars.takeWhile takes).length + (piece.chars.dropWhile takes).length =
      piece.chars.length := by
    rw [← List.length_append, List.takeWhile_append_dropWhile]
  have shorter : piece.chars.length - (piece.dropWhile takes).chars.length =
      (piece.chars.takeWhile takes).length := by
    rw [chars_dropWhile]
    omega
  rw [shorter, ← List.prefix_iff_eq_take.mp (List.takeWhile_prefix takes)]

theorem upTo_extend (start : Nat) (piece : Piece) (tail : List Char) :
    (piece.extend tail).upTo ⟨start, tail⟩ = piece := by
  unfold upTo extend
  simp

/-! ### Pieces of pieces -/

/-- Whether a piece is what stands in another one at its offset. -/
def Within (inner outer : Piece) : Prop :=
  ∃ before after, outer.chars = before ++ (inner.chars ++ after) ∧
    inner.start = outer.start + bytes before

variable {inner middle outer : Piece}

theorem within_self (piece : Piece) : piece.Within piece :=
  ⟨[], [], by simp, rfl⟩

theorem Within.trans (first : inner.Within middle) (second : middle.Within outer) :
    inner.Within outer := by
  obtain ⟨before, after, chars, start⟩ := first
  obtain ⟨earlier, later, outerChars, outerStart⟩ := second
  refine ⟨earlier ++ before, after ++ later, ?_, ?_⟩
  · rw [outerChars, chars]
    simp only [List.append_assoc]
  · rw [start, outerStart, bytes_append, Nat.add_assoc]

theorem Within.start_le (within : inner.Within outer) : outer.start ≤ inner.start := by
  obtain ⟨before, after, _, start⟩ := within
  omega

theorem Within.stop_le (within : inner.Within outer) : inner.stop ≤ outer.stop := by
  obtain ⟨before, after, chars, start⟩ := within
  unfold stop
  rw [chars, bytes_append, bytes_append]
  omega

theorem within_takeWhile (piece : Piece) (takes : Char → Bool) :
    (piece.takeWhile takes).Within piece :=
  ⟨[], piece.chars.dropWhile takes, List.takeWhile_append_dropWhile.symm, rfl⟩

theorem within_dropWhile (piece : Piece) (drops : Char → Bool) :
    (piece.dropWhile drops).Within piece :=
  ⟨piece.chars.takeWhile drops, [], by simp [dropWhile], rfl⟩

theorem within_drop (piece : Piece) (count : Nat) : (piece.drop count).Within piece :=
  ⟨piece.chars.take count, [], by simp [drop], rfl⟩

theorem start_lt_drop_one {c : Char} {rest : List Char} (first : piece.chars = c :: rest) :
    piece.start < (piece.drop 1).start := by
  have positive := c.utf8Size_pos
  unfold drop
  rw [first]
  simp only [List.take_succ_cons, List.take_zero, bytes_cons, bytes_nil]
  omega

/-- Pieces of a piece, one after the other with something between them. -/
structure Picks (pieces : List Piece) (outer : Piece) : Prop where
  within : ∀ piece ∈ pieces, piece.Within outer
  ordered : pieces.Pairwise fun first second => first.stop < second.start

theorem picks_nil (outer : Piece) : Picks [] outer :=
  ⟨fun _ => nofun, .nil⟩

theorem picks_singleton (within : inner.Within outer) : Picks [inner] outer :=
  ⟨List.forall_mem_singleton.mpr within, List.pairwise_singleton _ _⟩

theorem Picks.cons {pieces : List Piece} {rest : Piece} (first : inner.Within outer)
    (picks : Picks pieces rest) (remains : rest.Within outer) (apart : inner.stop < rest.start) :
    Picks (inner :: pieces) outer := by
  constructor
  · intro piece member
    rcases List.mem_cons.mp member with same | later
    · rw [same]
      exact first
    · exact (picks.within piece later).trans remains
  · apply List.Pairwise.cons _ picks.ordered
    intro piece member
    have after := (picks.within piece member).start_le
    omega

end Piece

end TemplateServer.Text
