import TemplateServer.Proofs.Check.Relocation

/-!
Line feeds and carriage returns. A carriage return in front of a line feed belongs to the line break
and leaves all positions as they are. Main statement: a text without carriage returns has the same
templates and diagnostics when some of its line feeds get one.
-/

namespace TemplateServer

open Text Grammar

/-! ### Adding carriage returns -/

namespace Text

def lineBreak (turned : Bool) : List Char :=
  if turned then ['\r', '\n'] else ['\n']

/-- The text with a carriage return before each line feed whose number is chosen. -/
def addTurns (chosen : Nat → Bool) : List Char → List Char
  | [] => []
  | c :: rest =>
    if c = '\n' then lineBreak (chosen 0) ++ addTurns (fun number => chosen (number + 1)) rest
    else c :: addTurns chosen rest

variable {chosen : Nat → Bool} {text line above : List Char}

theorem breaks_lineBreak (turned : Bool) (rest : List Char) : Breaks (lineBreak turned) rest := by
  cases turned with
  | false => exact .feed rest
  | true => exact .turnFeed rest

theorem endsLine_lineBreak (turned : Bool) (rest : List Char) :
    EndsLine (lineBreak turned ++ rest) := by
  cases turned with
  | false => exact Or.inr (Or.inl ⟨rest, rfl⟩)
  | true => exact Or.inr (Or.inr ⟨rest, rfl⟩)

theorem count_lineBreak (turned : Bool) : (lineBreak turned).count '\n' = 1 := by
  cases turned with
  | false => rfl
  | true => rfl

/-- The line feed takes back the column that a carriage return before it takes. -/
theorem foldl_next_lineBreak (turned : Bool) (position : Position) :
    (lineBreak turned).foldl Position.next position = position.next '\n' := by
  cases turned with
  | false => rfl
  | true => rfl

theorem addTurns_feed (chosen : Nat → Bool) (rest : List Char) :
    addTurns chosen ('\n' :: rest) =
      lineBreak (chosen 0) ++ addTurns (fun number => chosen (number + 1)) rest := by
  rw [addTurns, if_pos rfl]

theorem addTurns_cons {c : Char} (other : c ≠ '\n') (chosen : Nat → Bool) (rest : List Char) :
    addTurns chosen (c :: rest) = c :: addTurns chosen rest := by
  rw [addTurns, if_neg other]

theorem addTurns_append (chosen : Nat → Bool) (first second : List Char) :
    addTurns chosen (first ++ second) =
      addTurns chosen first ++
        addTurns (fun number => chosen (number + first.count '\n')) second := by
  induction first generalizing chosen with
  | nil => rfl
  | cons c first ih =>
      by_cases feed : c = '\n'
      · subst feed
        have later (number : Nat) : number + ('\n' :: first).count '\n' =
            number + first.count '\n' + 1 := by
          rw [List.count_cons_self, Nat.add_assoc]
        rw [List.cons_append, addTurns_feed, addTurns_feed, ih, List.append_assoc]
        simp only [later]
      · rw [List.cons_append, addTurns_cons feed, addTurns_cons feed, ih, List.cons_append,
          List.count_cons_of_ne feed]

theorem addTurns_of_plain (plain : '\n' ∉ line) (chosen : Nat → Bool) :
    addTurns chosen line = line := by
  induction line with
  | nil => rfl
  | cons c line ih =>
      obtain ⟨other, later⟩ := not_or.mp (List.mem_cons.not.mp plain)
      rw [addTurns_cons (Ne.symm other), ih later]

/-- The first line feed of a text, with what follows it. -/
theorem addTurns_line (plain : '\n' ∉ line) (chosen : Nat → Bool) (rest : List Char) :
    addTurns chosen (line ++ '\n' :: rest) =
      line ++ (lineBreak (chosen 0) ++ addTurns (fun number => chosen (number + 1)) rest) := by
  rw [addTurns_append, addTurns_of_plain plain, List.count_eq_zero_of_not_mem plain, addTurns_feed]

theorem count_addTurns (chosen : Nat → Bool) (text : List Char) :
    (addTurns chosen text).count '\n' = text.count '\n' := by
  induction text generalizing chosen with
  | nil => rfl
  | cons c text ih =>
      by_cases feed : c = '\n'
      · subst feed
        rw [addTurns_feed, List.count_append, ih, List.count_cons_self, count_lineBreak,
          Nat.add_comm]
      · rw [addTurns_cons feed, List.count_cons_of_ne feed, List.count_cons_of_ne feed, ih]

theorem getLast?_addTurns (starts : ∀ c, above.getLast? = some c → c = '\n')
    (chosen : Nat → Bool) : ∀ c, (addTurns chosen above).getLast? = some c → c = '\n' := by
  cases final : above.getLast? with
  | none =>
      rw [List.getLast?_eq_none_iff.mp final]
      exact fun _ => nofun
  | some last =>
      obtain ⟨earlier, rfl⟩ := List.getLast?_eq_some_iff.mp final
      rw [starts last final, addTurns_append, List.getLast?_append, addTurns_feed]
      intro c same
      cases turned : chosen (0 + earlier.count '\n') with
      | false =>
          rw [turned] at same
          exact (Option.some.inj same).symm
      | true =>
          rw [turned] at same
          exact (Option.some.inj same).symm

theorem foldl_next_addTurns (chosen : Nat → Bool) (text : List Char) (position : Position) :
    (addTurns chosen text).foldl Position.next position = text.foldl Position.next position := by
  induction text generalizing chosen position with
  | nil => rfl
  | cons c text ih =>
      by_cases feed : c = '\n'
      · subst feed
        rw [addTurns_feed, List.foldl_append, ih, List.foldl_cons, foldl_next_lineBreak]
      · rw [addTurns_cons feed, List.foldl_cons, List.foldl_cons, ih]

/-- A text without carriage returns is one line, or a line before a line feed. -/
theorem line_cases (unturned : '\r' ∉ text) :
    Plain text ∨ ∃ line rest, text = line ++ '\n' :: rest ∧ Plain line := by
  obtain ⟨line, rest, whole, ends⟩ := exists_firstLine text
  rcases ends with ⟨front, closed, unfed⟩ | ⟨unfed, last⟩
  · right
    rw [closed, List.append_assoc] at whole
    refine ⟨front, rest, whole, plain_of_not_mem (fun member => unturned ?_) unfed⟩
    rw [whole]
    exact List.mem_append_left _ member
  · left
    rw [last, List.append_nil] at whole
    rw [← whole] at unfed
    exact plain_of_not_mem unturned unfed

theorem shown_addTurns (unturned : '\r' ∉ text) (chosen : Nat → Bool) :
    shown (addTurns chosen text) = shown text := by
  rcases line_cases unturned with plain | ⟨line, rest, rfl, plain⟩
  · rw [addTurns_of_plain plain.not_mem.2]
  · rw [addTurns_line plain.not_mem.2, (endsLine_lineBreak _ _).shown_append plain]
    exact ((endsLine_lineBreak false rest).shown_append plain).symm

def placeWithTurns (chosen : Nat → Bool) (text : List Char) (offset : Nat) : Nat :=
  bytes (addTurns chosen (fitting offset text))

theorem placeWithTurns_append (chosen : Nat → Bool) (before after : List Char) :
    placeWithTurns chosen (before ++ after) (bytes before) = bytes (addTurns chosen before) := by
  unfold placeWithTurns
  rw [fitting_append]

end Text

/-! ### Reading the text -/

variable {chosen : Nat → Bool} {text : List Char}

/-- A line keeps its characters whether or not its line feed gets a carriage return. -/
theorem Grammar.Lines.withTurns {place : Nat → Nat} {start : Nat} {lines : List Piece}
    (apart : Lines start text lines) (unturned : '\r' ∉ text) (chosen : Nat → Bool)
    (moves : ∀ before after, text = before ++ after →
      place (start + bytes before) = place start + bytes (addTurns chosen before)) :
    Lines (place start) (addTurns chosen text) (lines.map (Piece.relocate place)) := by
  induction apart generalizing chosen with
  | last start plain =>
      rw [addTurns_of_plain plain.not_mem.2]
      exact .last (place start) plain
  | @more start line mark rest lines plain breaks following ih =>
      cases breaks with
      | turnFeed => exact absurd (List.mem_append_right line List.mem_cons_self) unturned
      | turn alone => exact absurd (List.mem_append_right line List.mem_cons_self) unturned
      | feed =>
          have unfed := plain.not_mem.2
          -- the places on later lines, with the line feeds counted from the next line on
          have beyond (before after : List Char) (cut : rest = before ++ after) :
              place (start + bytes line + bytes ['\n'] + bytes before) =
                place start + bytes line + bytes (lineBreak (chosen 0)) +
                  bytes (addTurns (fun number => chosen (number + 1)) before) := by
            have size : start + bytes line + bytes ['\n'] + bytes before =
                start + bytes (line ++ '\n' :: before) := by
              rw [bytes_append, bytes_cons, bytes_cons, bytes_nil]
              omega
            rw [size, moves _ after (by simp [cut]), addTurns_line unfed, bytes_append,
              bytes_append]
            omega
          have next : place (start + bytes line + bytes ['\n']) =
              place start + bytes line + bytes (lineBreak (chosen 0)) := beyond [] rest rfl
          have unturnedRest : '\r' ∉ rest := fun member =>
            unturned (List.mem_append_right line (List.mem_cons_of_mem '\n' member))
          have later := ih unturnedRest (fun number => chosen (number + 1)) (by
            intro before after cut
            rw [beyond before after cut, next])
          rw [next] at later
          change Lines _ (addTurns chosen (line ++ '\n' :: rest)) _
          rw [addTurns_line unfed]
          exact .more plain (breaks_lineBreak _ _) later

theorem rigid_placeWithTurns (chosen : Nat → Bool) :
    ∀ line ∈ linesFrom 0 text, line.Rigid (placeWithTurns chosen text) := by
  apply rigid_linesFrom
  rintro before first after rfl plain
  have further := placeWithTurns_append chosen (before ++ first) after
  rw [addTurns_append, addTurns_of_plain plain.not_mem.2, bytes_append, bytes_append,
    List.append_assoc] at further
  rw [further, placeWithTurns_append]

theorem displaces_addTurns (unturned : '\r' ∉ text) (chosen : Nat → Bool) :
    Displaces (placeWithTurns chosen text) id text (addTurns chosen text) where
  rising := strictMono_id
  rigid := rigid_placeWithTurns chosen
  outline := by
    have lines : Lines 0 (addTurns chosen text)
        ((linesFrom 0 text).map (Piece.relocate (placeWithTurns chosen text))) := by
      have start : placeWithTurns chosen text 0 = 0 := placeWithTurns_append chosen [] text
      have moves (before after : List Char) (cut : text = before ++ after) :
          placeWithTurns chosen text (0 + bytes before) =
            placeWithTurns chosen text 0 + bytes (addTurns chosen before) := by
        rw [start, Nat.zero_add, Nat.zero_add, cut, placeWithTurns_append]
      have turned := (lines_linesFrom 0 text).withTurns unturned chosen moves
      rw [start] at turned
      exact turned
    rw [Outline.ofText_eq, Outline.ofText_eq, ← lines_iff.mp lines]
    exact Outline.ofLines_relocate (rigid_placeWithTurns chosen)
  position := by
    rintro offset ⟨before, after, rfl, rfl⟩
    rw [placeWithTurns_append, addTurns_append, positionOf_append, positionOf_append,
      foldl_next_addTurns]
    rfl
  width := by
    intro number listed
    obtain ⟨above, line, below, placed⟩ := exists_lineAt listed
    have unturnedRest : '\r' ∉ line ++ below := by
      intro member
      apply unturned
      rw [placed.parts]
      exact List.mem_append_right above member
    have turned := lineWidth_append (getLast?_addTurns placed.starts chosen)
      (addTurns (fun number => chosen (number + above.count '\n')) (line ++ below))
    rw [← addTurns_append, count_addTurns, shown_addTurns unturnedRest] at turned
    rw [placed.parts, ← placed.counted]
    exact turned.trans (lineWidth_append placed.starts (line ++ below)).symm

theorem Reading.onLine_id (reading : Reading) : reading.onLine id = reading := by
  unfold Reading.onLine
  rw [show Diagnostic.onLine id = id from rfl, List.map_id]

/-- Texts that differ in the carriage returns before their line feeds alone are read alike. What is
told of them is sent with its ranges as they are if the shorter text takes less than 2 ^ 32 bytes. -/
theorem Reading.ofText_addTurns (source text : String) (unturned : '\r' ∉ text.toList)
    (chosen : Nat → Bool) :
    ((∃ outline, Outline.ofText (addTurns chosen text.toList) = .ok outline) ↔
      ∃ outline, Outline.ofText text.toList = .ok outline) ∧
    Reading.ofText source (String.ofList (addTurns chosen text.toList)) =
      Reading.ofText source text ∧
    (bytes text.toList < UInt32.size → ∀ diagnostic ∈ (Reading.ofText source text).diagnostics,
      diagnostic.range.wrapped = diagnostic.range) := by
  have displaces := displaces_addTurns unturned chosen
  refine ⟨displaces.read_iff, ?_, fun small _ => Reading.wrapped_range small⟩
  rw [← @String.toList_ofList (addTurns chosen text.toList)] at displaces
  rw [displaces.reading_eq, Reading.onLine_id]

theorem Reading.ofText_addTurns_of_failure :
    '\r' ∉ "x\n# A\n- 😀 $\x7bB(\n # C(p,\n".toList ∧
      Reading.ofText "a" "x\r\n# A\n- 😀 $\x7bB(\r\n # C(p,\r\n" =
        Reading.ofText "a" "x\n# A\n- 😀 $\x7bB(\n # C(p,\n" := by
  have unturned : '\r' ∉ "x\n# A\n- 😀 $\x7bB(\n # C(p,\n".toList := by decide
  have turned : addTurns (· != 1) "x\n# A\n- 😀 $\x7bB(\n # C(p,\n".toList =
      "x\r\n# A\n- 😀 $\x7bB(\r\n # C(p,\r\n".toList := by
    decide
  have alike :=
    (Reading.ofText_addTurns "a" "x\n# A\n- 😀 $\x7bB(\n # C(p,\n" unturned (· != 1)).2.1
  rw [turned, String.ofList_toList] at alike
  exact ⟨unturned, alike⟩

end TemplateServer
