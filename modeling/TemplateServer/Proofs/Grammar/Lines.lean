import TemplateServer.Grammar.Outline
import TemplateServer.Proofs.Text.Piece

/-!
Logical lines, told by what stands between them: a line break is a line feed, a carriage return with
its line feed, or a carriage return that no line feed follows. Main statement: the lines of a text
are those of the one way to take it apart at its line breaks.
-/

namespace TemplateServer.Grammar

open Text

/-- Whether a text is at the end of a line: nothing follows, or a line break. -/
def Ends (tail : List Char) : Prop :=
  ∀ c, tail.head? = some c → isLineBreak c = true

/-- Whether a text lies on one line. -/
def Plain (text : List Char) : Prop :=
  ∀ c ∈ text, isLineBreak c = false

variable {tail : List Char} {takes : Char → Bool}

theorem Ends.stops (ends : Ends tail) (feed : takes '\n' = false) (turn : takes '\r' = false) :
    Stops takes tail := by
  intro c head
  rcases Bool.or_eq_true_iff.mp (ends c head) with isFeed | isTurn
  · rw [eq_of_beq isFeed]
    exact feed
  · rw [eq_of_beq isTurn]
    exact turn

theorem Plain.dropWhile {text : List Char} (plain : Plain text) (drops : Char → Bool) :
    Plain (text.dropWhile drops) :=
  fun c member => plain c ((List.dropWhile_suffix drops).subset member)

theorem Plain.drop {text : List Char} (plain : Plain text) (count : Nat) :
    Plain (text.drop count) :=
  fun c member => plain c (List.mem_of_mem_drop member)

/-! ### Taking a text apart -/

/-- A line break, before the text that follows it. -/
inductive Breaks : List Char → List Char → Prop where
  | feed (rest : List Char) : Breaks ['\n'] rest
  | turnFeed (rest : List Char) : Breaks ['\r', '\n'] rest
  | turn {rest : List Char} (alone : rest.head? ≠ some '\n') : Breaks ['\r'] rest

inductive Lines : Nat → List Char → List Piece → Prop where
  | last (start : Nat) {line : List Char} (plain : Plain line) : Lines start line [⟨start, line⟩]
  | more {start : Nat} {line mark rest : List Char} {lines : List Piece} (plain : Plain line)
    (breaks : Breaks mark rest) (following : Lines (start + bytes line + bytes mark) rest lines) :
    Lines start (line ++ (mark ++ rest)) (⟨start, line⟩ :: lines)

def linesFrom (start : Nat) (text : List Char) : List Piece :=
  ⟨start, (splitLines start text).1⟩ :: (splitLines start text).2

theorem Breaks.ends {mark rest : List Char} (breaks : Breaks mark rest) : Ends (mark ++ rest) := by
  intro c head
  cases breaks with
  | feed =>
      cases head
      rfl
  | turnFeed =>
      cases head
      rfl
  | turn alone =>
      cases head
      rfl

theorem plain_cons {c : Char} {line : List Char} (inside : isLineBreak c = false)
    (plain : Plain line) : Plain (c :: line) := by
  intro other member
  rcases List.mem_cons.mp member with same | later
  · rw [same]
    exact inside
  · exact plain other later

/-- A character before the first line. -/
theorem Lines.cons {start : Nat} {c : Char} {text line : List Char} {lines : List Piece}
    (inside : isLineBreak c = false)
    (apart : Lines (start + c.utf8Size) text (⟨start + c.utf8Size, line⟩ :: lines)) :
    Lines start (c :: text) (⟨start, c :: line⟩ :: lines) := by
  cases apart with
  | last _ plain => exact .last start (plain_cons inside plain)
  | more plain breaks following =>
      apply Lines.more (plain_cons inside plain) breaks
      rw [bytes_cons, ← Nat.add_assoc]
      exact following

/-- A line break before the first line. -/
theorem Lines.break {start : Nat} {mark text : List Char} {lines : List Piece}
    (breaks : Breaks mark text) (apart : Lines (start + bytes mark) text lines) :
    Lines start (mark ++ text) (⟨start, []⟩ :: lines) := by
  apply @Lines.more start [] mark text lines (fun _ => nofun) breaks
  rw [bytes_nil, Nat.add_zero]
  exact apart

theorem lines_linesFrom (start : Nat) (text : List Char) :
    Lines start text (linesFrom start text) := by
  unfold linesFrom
  fun_induction splitLines start text with
  | case1 start => exact .last start (fun _ => nofun)
  | case2 start rest following ih => exact .break (.turnFeed rest) ih
  | case3 start c rest lone following breaks ih =>
      rcases Bool.or_eq_true_iff.mp breaks with feed | turn
      · obtain rfl : c = '\n' := eq_of_beq feed
        exact .break (.feed rest) ih
      · obtain rfl : c = '\r' := eq_of_beq turn
        apply Lines.break (.turn ?_) ih
        intro paired
        obtain ⟨later, same⟩ := List.head?_eq_some_iff.mp paired
        exact lone later rfl same
  | case4 start c rest lone following inside ih =>
      exact .cons (eq_false_of_ne_true inside) ih

/-! ### What the lines are -/

theorem Breaks.bytes_pos {mark rest : List Char} (breaks : Breaks mark rest) : 0 < bytes mark := by
  cases breaks with
  | feed => decide
  | turnFeed => decide
  | turn alone => decide

/-- The lines stand in the text one after the other. -/
theorem Lines.picks {start : Nat} {text : List Char} {lines : List Piece}
    (apart : Lines start text lines) : Piece.Picks lines ⟨start, text⟩ := by
  induction apart with
  | last start plain => exact Piece.picks_singleton (Piece.within_self _)
  | @more start line mark rest lines plain breaks following ih =>
      have positive := breaks.bytes_pos
      have first : Piece.Within ⟨start, line⟩ ⟨start, line ++ (mark ++ rest)⟩ :=
        ⟨[], mark ++ rest, rfl, rfl⟩
      apply Piece.Picks.cons first ih
      · refine ⟨line ++ mark, [], by simp, ?_⟩
        rw [bytes_append, Nat.add_assoc]
      · change start + bytes line < start + bytes line + bytes mark
        omega

theorem Lines.plain {start : Nat} {text : List Char} {lines : List Piece}
    (apart : Lines start text lines) : ∀ line ∈ lines, Plain line.chars := by
  induction apart with
  | last start plain => exact List.forall_mem_singleton.mpr plain
  | more plain breaks following ih => exact List.forall_mem_cons.mpr ⟨plain, ih⟩

/-- Each line stands in the text before a line break or the end. -/
theorem Lines.exists_surroundings {start : Nat} {text : List Char} {lines : List Piece}
    (apart : Lines start text lines) {line : Piece} (listed : line ∈ lines) :
    ∃ above below, text = above ++ (line.chars ++ below) ∧ line.start = start + bytes above ∧
      Ends below := by
  induction apart with
  | @last start chars plain =>
      obtain rfl := List.mem_singleton.mp listed
      exact ⟨[], [], (List.append_nil chars).symm, rfl, fun _ => nofun⟩
  | @more start chars mark rest lines plain breaks following ih =>
      rcases List.mem_cons.mp listed with rfl | later
      · exact ⟨[], mark ++ rest, rfl, rfl, breaks.ends⟩
      · obtain ⟨above, below, parts, begins, ends⟩ := ih later
        refine ⟨chars ++ (mark ++ above), below, ?_, ?_, ends⟩
        · rw [parts]
          simp only [List.append_assoc]
        · rw [begins, bytes_append, bytes_append]
          omega

/-! ### One way to take a text apart -/

theorem splitLines_cons {c : Char} (inside : isLineBreak c = false) (start : Nat)
    (text : List Char) :
    splitLines start (c :: text) =
      (c :: (splitLines (start + c.utf8Size) text).1,
        (splitLines (start + c.utf8Size) text).2) := by
  rw [splitLines]
  · rw [inside]
    rfl
  · rintro rest rfl
    cases inside

theorem splitLines_plain {line : List Char} (plain : Plain line) (start : Nat) :
    splitLines start line = (line, []) := by
  induction line generalizing start with
  | nil => rfl
  | cons c rest ih =>
      rw [splitLines_cons (plain c List.mem_cons_self),
        ih fun other member => plain other (List.mem_cons_of_mem c member)]

theorem splitLines_break {mark rest : List Char} (breaks : Breaks mark rest) (start : Nat) :
    splitLines start (mark ++ rest) = ([], linesFrom (start + bytes mark) rest) := by
  cases breaks with
  | feed => rfl
  | turnFeed => rfl
  | turn alone =>
      change splitLines start ('\r' :: rest) = _
      rw [splitLines]
      · rfl
      · rintro later - rfl
        exact alone rfl

theorem splitLines_append {line mark rest : List Char} (plain : Plain line)
    (breaks : Breaks mark rest) (start : Nat) :
    splitLines start (line ++ (mark ++ rest)) =
      (line, linesFrom (start + bytes line + bytes mark) rest) := by
  induction line generalizing start with
  | nil => exact splitLines_break breaks start
  | cons c line ih =>
      rw [List.cons_append, splitLines_cons (plain c List.mem_cons_self),
        ih fun other member => plain other (List.mem_cons_of_mem c member), bytes_cons,
        Nat.add_assoc start]

/-- There is one way to take a text apart. -/
theorem lines_iff {start : Nat} {text : List Char} {lines : List Piece} :
    Lines start text lines ↔ lines = linesFrom start text := by
  constructor
  · intro apart
    induction apart with
    | last start plain =>
        unfold linesFrom
        rw [splitLines_plain plain]
    | more plain breaks following ih =>
        rw [ih]
        conv =>
          rhs
          unfold linesFrom
        rw [splitLines_append plain breaks]
  · intro same
    rw [same]
    exact lines_linesFrom start text

end TemplateServer.Grammar
