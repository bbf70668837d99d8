import Mathlib.Data.List.Basic
import Mathlib.Data.List.DropRight
import TemplateServer.Proofs.Text.Position

/-!
Words around a place. The word characters around a place form a run, and the word at the place is
what the run holds between the dots at its ends. Main statement: around every place there is one
longest run, the word is found in it, and only a run that holds nothing but dots has none.
-/

namespace TemplateServer.Text

/-- Whether a piece of the text consists of word characters and has an offset in it or at one of its
ends. -/
structure RunAround (text : List Char) (offset : Nat) (run : Piece) : Prop where
  within : run.Within ⟨0, text⟩
  word : ∀ c ∈ run.chars, isWordChar c = true
  start_le : run.start ≤ offset
  le_stop : offset ≤ run.stop

/-- Whether a run around an offset is part of no longer one. -/
structure LongestRun (text : List Char) (offset : Nat) (run : Piece) : Prop
    extends RunAround text offset run where
  longest : ∀ other, RunAround text offset other → run.Within other → other = run

/-- Whether a word is what a run holds between the dots at its ends. -/
structure Undots (run word : Piece) : Prop where
  parts : ∃ left right, run.chars = left ++ (word.chars ++ right) ∧
    word.start = run.start + bytes left ∧ (∀ c ∈ left, c = '.') ∧ ∀ c ∈ right, c = '.'
  filled : word.chars ≠ []
  undottedStart : word.chars.head? ≠ some '.'
  undottedEnd : word.chars.getLast? ≠ some '.'

variable {text before after left right chars : List Char} {run word other inner outer : Piece}
  {offset place : Nat} {position : Position}

/-! ### Longest runs -/

theorem Piece.Within.antisymm (first : inner.Within outer) (second : outer.Within inner) :
    inner = outer := by
  obtain ⟨before, after, chars, start⟩ := first
  obtain ⟨earlier, later, again, _⟩ := second
  have sizes := congrArg List.length chars
  have sizesAgain := congrArg List.length again
  simp only [List.length_append] at sizes sizesAgain
  have none : before = [] := List.length_eq_zero_iff.mp (by omega)
  have nothing : after = [] := List.length_eq_zero_iff.mp (by omega)
  subst none nothing
  obtain ⟨_, _⟩ := inner
  obtain ⟨_, _⟩ := outer
  simp only [List.nil_append, List.append_nil, bytes_nil, Nat.add_zero] at chars start
  rw [chars, start]

/-- The word characters before and after a place, up to the next other ones. -/
def runAt (before after : List Char) : Piece :=
  ⟨bytes (dropEndWhile isWordChar before),
    (before.reverse.takeWhile isWordChar).reverse ++ after.takeWhile isWordChar⟩

theorem dropEndWhile_append_takeWhile (takes : Char → Bool) (text : List Char) :
    dropEndWhile takes text ++ (text.reverse.takeWhile takes).reverse = text :=
  List.rdropWhile_append_rtakeWhile

theorem runAround_runAt (before after : List Char) :
    RunAround (before ++ after) (bytes before) (runAt before after) := by
  have size := congrArg bytes (dropEndWhile_append_takeWhile isWordChar before)
  rw [bytes_append] at size
  refine ⟨⟨dropEndWhile isWordChar before, after.dropWhile isWordChar, ?_, ?_⟩, ?_, ?_, ?_⟩
  · change before ++ after = _ ++ ((_ ++ _) ++ _)
    rw [List.append_assoc, List.takeWhile_append_dropWhile, ← List.append_assoc,
      dropEndWhile_append_takeWhile]
  · exact (Nat.zero_add _).symm
  · intro c member
    rcases List.mem_append.mp member with earlier | later
    · exact List.mem_takeWhile_imp (List.mem_reverse.mp earlier)
    · exact List.mem_takeWhile_imp later
  · change bytes (dropEndWhile isWordChar before) ≤ bytes before
    omega
  · change bytes before ≤ bytes (dropEndWhile isWordChar before) + bytes (_ ++ _)
    rw [bytes_append]
    omega

/-- A run around a place is cut in two there. -/
theorem RunAround.exists_cut (around : RunAround (before ++ after) (bytes before) run) :
    ∃ outside first second beyond, before = outside ++ first ∧ after = second ++ beyond ∧
      run = ⟨bytes outside, first ++ second⟩ := by
  obtain ⟨⟨outside, beyond, whole, start⟩, _, notBefore, notAfter⟩ := around
  obtain ⟨runStart, chars⟩ := run
  simp only [Nat.zero_add] at whole start
  subst start
  change bytes before ≤ bytes outside + bytes chars at notAfter
  obtain ⟨first, early, rest⟩ := exists_append_of_bytes_le whole.symm notBefore
  rw [early, bytes_append] at notAfter
  obtain ⟨second, parts, late⟩ := exists_append_of_bytes_le rest.symm (by omega)
  exact ⟨outside, first, second, beyond, early, late, by rw [parts]⟩

/-- Every run around a place is part of the one that is read from there in both directions. -/
theorem RunAround.within_runAt (around : RunAround (before ++ after) (bytes before) run) :
    run.Within (runAt before after) := by
  obtain ⟨outside, first, second, beyond, rfl, rfl, rfl⟩ := around.exists_cut
  have earlier : ∀ c ∈ first.reverse, isWordChar c = true :=
    fun c member => around.word c (List.mem_append_left second (List.mem_reverse.mp member))
  have later : ∀ c ∈ second, isWordChar c = true :=
    fun c member => around.word c (List.mem_append_right first member)
  have size := congrArg bytes (dropEndWhile_append_takeWhile isWordChar outside)
  refine ⟨(outside.reverse.takeWhile isWordChar).reverse, beyond.takeWhile isWordChar, ?_, ?_⟩
  · change ((outside ++ first).reverse.takeWhile isWordChar).reverse ++
      (second ++ beyond).takeWhile isWordChar = _
    rw [List.reverse_append, List.takeWhile_append_of_pos earlier, List.reverse_append,
      List.reverse_reverse, List.takeWhile_append_of_pos later]
    simp only [List.append_assoc]
  · change bytes outside = bytes ((outside ++ first).reverse.dropWhile isWordChar).reverse + _
    rw [List.reverse_append, List.dropWhile_append_of_pos earlier, ← size, bytes_append]
    rfl

/-- The run that is read from a place in both directions is the longest one around it. -/
theorem longestRun_iff : LongestRun (before ++ after) (bytes before) run ↔ run = runAt before after := by
  constructor
  · intro longest
    exact (longest.longest _ (runAround_runAt before after) longest.within_runAt).symm
  · intro same
    rw [same]
    exact ⟨runAround_runAt before after, fun other around inside =>
      around.within_runAt.antisymm inside⟩

/-- Word characters between others are the run around each of their places. -/
theorem runAt_of_ends {first second : List Char} (word : ∀ c ∈ first ++ second, isWordChar c = true)
    (leftEnd : ∀ c, before.getLast? = some c → isWordChar c = false)
    (rightEnd : Stops isWordChar after) :
    runAt (before ++ first) (second ++ after) = ⟨bytes before, first ++ second⟩ := by
  have earlier : ∀ c ∈ first, isWordChar c = true :=
    fun c member => word c (List.mem_append_left second member)
  have later : ∀ c ∈ second, isWordChar c = true :=
    fun c member => word c (List.mem_append_right first member)
  unfold runAt
  rw [takeWhile_reverse_append earlier leftEnd, takeWhile_append_of_all later rightEnd,
    dropEndWhile_append_of_all earlier leftEnd]

/-- A longest run is one around each of its places. -/
theorem LongestRun.move (longest : LongestRun text offset run) (notBefore : run.start ≤ place)
    (notAfter : place ≤ run.stop) : LongestRun text place run := by
  refine ⟨⟨longest.within, longest.word, notBefore, notAfter⟩, ?_⟩
  intro other around inside
  apply longest.longest other _ inside
  exact ⟨around.within, around.word, Nat.le_trans inside.start_le longest.start_le,
    Nat.le_trans longest.le_stop inside.stop_le⟩

/-! ### Dots at the ends -/

/-- What a run holds between the dots at its ends, if there is something. -/
def Piece.undotted? (run : Piece) : Option Piece :=
  let word := dropEndWhile (· == '.') (run.chars.dropWhile (· == '.'))
  if word.isEmpty then none
  else some ⟨run.start + bytes (run.chars.takeWhile (· == '.')), word⟩

theorem wordAt?_of_split? (split : split? text position = some (before, after)) :
    wordAt? text position = (runAt before after).undotted? := by
  unfold wordAt?
  rw [split]
  rfl

/-- The word at each place of a run between other characters is found in that run. -/
theorem wordAt?_of_ends (whole : text = before ++ (run.chars ++ after))
    (start : run.start = bytes before) (word : ∀ c ∈ run.chars, isWordChar c = true)
    (leftEnd : ∀ c, before.getLast? = some c → isWordChar c = false)
    (rightEnd : Stops isWordChar after) (reached : offsetOf? text position = some offset)
    (notBefore : run.start ≤ offset) (notAfter : offset ≤ run.stop) :
    wordAt? text position = run.undotted? := by
  obtain ⟨_, chars⟩ := run
  subst whole start
  obtain ⟨first, second, cut, split⟩ := exists_split_of_offsetOf? reached notBefore notAfter
  rw [cut] at word
  rw [wordAt?_of_split? split, runAt_of_ends word leftEnd rightEnd, ← cut]

theorem beq_dot_of_all (dots : ∀ c ∈ chars, c = '.') : ∀ c ∈ chars, (c == '.') = true :=
  fun c member => beq_iff_eq.mpr (dots c member)

theorem eq_dot_of_mem_takeWhile {c : Char} (member : c ∈ chars.takeWhile (· == '.')) : c = '.' := by
  have dot := List.mem_takeWhile_imp member
  exact beq_iff_eq.mp dot

theorem undotted?_of_undots (undots : Undots run word) : run.undotted? = some word := by
  obtain ⟨⟨left, right, parts, start, dotsLeft, dotsRight⟩, filled, headed, ended⟩ := undots
  have stops : Stops (· == '.') (word.chars ++ right) := by
    intro c head
    rw [List.head?_append_of_ne_nil _ filled] at head
    rw [beq_eq_false_iff_ne]
    intro dot
    rw [dot] at head
    exact headed head
  have lasts : ∀ c, word.chars.getLast? = some c → (c == '.') = false := by
    intro c last
    rw [beq_eq_false_iff_ne]
    intro dot
    rw [dot] at last
    exact ended last
  unfold Piece.undotted?
  simp only
  rw [parts, dropWhile_append_of_all (beq_dot_of_all dotsLeft) stops,
    takeWhile_append_of_all (beq_dot_of_all dotsLeft) stops,
    dropEndWhile_append_of_all (beq_dot_of_all dotsRight) lasts,
    List.isEmpty_eq_false_iff.mpr filled, ← start]
  rfl

theorem undots_of_undotted? (found : run.undotted? = some word) : Undots run word := by
  unfold Piece.undotted? at found
  simp only at found
  split at found
  · cases found
  · rename_i filled
    have filled := List.isEmpty_eq_false_iff.mp (eq_false_of_ne_true filled)
    cases found
    obtain ⟨dropped, same, dots⟩ :=
      exists_dropEndWhile_append (· == '.') (run.chars.dropWhile (· == '.'))
    refine ⟨⟨run.chars.takeWhile (· == '.'), dropped, ?_, rfl, ?_, ?_⟩, filled, ?_, ?_⟩
    · rw [← same, List.takeWhile_append_dropWhile]
    · exact fun c member => eq_dot_of_mem_takeWhile member
    · exact fun c member => beq_iff_eq.mp (dots c member)
    · intro head
      have stops := stops_dropWhile (· == '.') run.chars '.'
      rw [same, List.head?_append_of_ne_nil _ filled] at stops
      cases stops head
    · intro last
      have stops := stops_dropWhile (· == '.') (run.chars.dropWhile (· == '.')).reverse '.'
      unfold dropEndWhile at last
      rw [List.getLast?_reverse] at last
      cases stops last

/-- Only a run that holds nothing but dots has nothing between them. -/
theorem undotted?_eq_none : run.undotted? = none ↔ ∀ c ∈ run.chars, c = '.' := by
  have empty : run.undotted? = none ↔
      dropEndWhile (· == '.') (run.chars.dropWhile (· == '.')) = [] := by
    unfold Piece.undotted?
    simp
  rw [empty, dropEndWhile_eq_nil]
  constructor
  · intro dots c member
    rw [← List.takeWhile_append_dropWhile (p := (· == '.')) (l := run.chars)] at member
    rcases List.mem_append.mp member with early | late
    · exact eq_dot_of_mem_takeWhile early
    · exact beq_iff_eq.mp (dots c late)
  · intro dots c member
    exact beq_dot_of_all dots c ((List.dropWhile_suffix _).subset member)

theorem LongestRun.wordAt?_eq (longest : LongestRun text offset run)
    (reached : offsetOf? text position = some offset) :
    wordAt? text position = run.undotted? := by
  obtain ⟨before, after, rfl, rfl, split⟩ := exists_split_of_reached reached
  rw [wordAt?_of_split? split, longestRun_iff.mp longest]

theorem wordAt?_of_offsetOf?_none (unreached : offsetOf? text position = none) :
    wordAt? text position = none := by
  unfold offsetOf? at unreached
  unfold wordAt?
  rw [Option.map_eq_none_iff.mp unreached]

/-- The word at a position stands between dots in a run of word characters that the position cuts in
two. -/
theorem exists_run_of_wordAt? (found : wordAt? text position = some word) :
    ∃ before first second after left right, text = before ++ ((first ++ second) ++ after) ∧
      offsetOf? text position = some (bytes before + bytes first) ∧
      (∀ c ∈ first ++ second, isWordChar c = true) ∧
      first ++ second = left ++ (word.chars ++ right) ∧ word.start = bytes before + bytes left ∧
      (∀ c ∈ left, c = '.') ∧ ∀ c ∈ right, c = '.' := by
  cases reached : offsetOf? text position with
  | none =>
      rw [wordAt?_of_offsetOf?_none reached] at found
      cases found
  | some offset =>
      obtain ⟨before, after, whole, place, split⟩ := exists_split_of_reached reached
      have around := runAround_runAt before after
      obtain ⟨outside, first, second, beyond, early, late, run⟩ := around.exists_cut
      rw [wordAt?_of_split? split, run] at found
      rw [run] at around
      obtain ⟨left, right, parts, start, dots⟩ := (undots_of_undotted? found).parts
      refine ⟨outside, first, second, beyond, left, right, ?_, ?_, around.word, parts, start, dots⟩
      · rw [whole, early, late]
        simp only [List.append_assoc]
      · rw [place, early, bytes_append]

/-! ### The main statement -/

/-- A position that designates no place has no word. Around the place of any other one there is one
longest run. It has no word if it holds nothing but dots; otherwise the word is what it holds between
the dots at its ends, for every position with a place in the run alike. -/
theorem wordAt?_undots_longestRun (text : List Char) (position : Position) :
    (offsetOf? text position = none → wordAt? text position = none) ∧
    ∀ offset, offsetOf? text position = some offset →
      (∃! run, LongestRun text offset run) ∧
      ∀ run, LongestRun text offset run →
        (wordAt? text position = none ↔ run.chars = [] ∨ ∀ c ∈ run.chars, c = '.') ∧
        (∀ word, wordAt? text position = some word →
          word.Within ⟨0, text⟩ ∧ run.start ≤ word.start ∧ word.start < word.stop ∧
            word.stop ≤ run.stop ∧ Undots run word) ∧
        ∀ other place, offsetOf? text other = some place → run.start ≤ place → place ≤ run.stop →
          wordAt? text other = wordAt? text position := by
  refine ⟨wordAt?_of_offsetOf?_none, ?_⟩
  intro offset reached
  obtain ⟨before, after, rfl, rfl, split⟩ := exists_split_of_reached reached
  refine ⟨⟨runAt before after, longestRun_iff.mpr rfl, fun run => longestRun_iff.mp⟩, ?_⟩
  intro run longest
  have found := longest.wordAt?_eq reached
  rw [found]
  refine ⟨?_, ?_, ?_⟩
  · rw [undotted?_eq_none]
    constructor
    · exact Or.inr
    · intro plain
      rcases plain with empty | dots
      · rw [empty]
        exact fun _ => nofun
      · exact dots
  · intro word same
    have undots := undots_of_undotted? same
    have inside : word.Within run := by
      obtain ⟨left, right, parts, start, _⟩ := undots.parts
      exact ⟨left, right, parts, start⟩
    have positive : bytes word.chars ≠ 0 := fun empty => undots.filled (bytes_eq_zero.mp empty)
    refine ⟨inside.trans longest.within, inside.start_le, ?_, inside.stop_le, undots⟩
    unfold Piece.stop
    omega
  · intro other place reachedAgain notBefore notAfter
    exact (longest.move notBefore notAfter).wordAt?_eq reachedAgain

end TemplateServer.Text
