import TemplateServer.Proofs.Grammar.File
import TemplateServer.Proofs.Grammar.Language

/-!
What is accepted. Main statement: a text has an outline if and only if each of its lines that
starts with `#` has the form of a header; its lines are then classified by the first form they
have, and the grammar reads the same lines, or fails where there is no outline.
-/

namespace TemplateServer.Grammar

open Text

/-- What a line is: a header if it has that form, else an import, else a comment, else a line of a
body. -/
def Classified (line : Piece) : Entry → Prop
  | .header _ => line.chars ∈ Form.header
  | .imported _ => line.chars ∉ Form.header ∧ line.chars ∈ Form.imported
  | .comment whole => whole = line ∧ line.chars ∉ Form.header ∧ line.chars ∉ Form.imported ∧
      line.chars ∈ Form.marked '>'
  | .body whole => whole = line ∧ line.chars ∉ Form.header ∧ line.chars ∉ Form.imported ∧
      line.chars ∉ Form.marked '>'

variable {line : Piece} {entry : Entry}

/-! ### One line -/

theorem not_mem_header (different : (line.chars.dropWhile isBlank).head? ≠ some '#') :
    line.chars ∉ Form.header := by
  intro member
  exact different ((Form.mem_header line).mp member).1

theorem not_mem_imported (absent : Import.ofLine? line = none) : line.chars ∉ Form.imported := by
  intro member
  have found := (Form.mem_imported line).mp member
  rw [absent] at found
  cases found

theorem classified_of_ofLine (read : Entry.ofLine line = .ok entry) : Classified line entry := by
  unfold Entry.ofLine at read
  split at read
  · rename_i marked
    cases found : Header.ofLine line with
    | error malformed =>
        rw [found] at read
        cases read
    | ok header =>
        rw [found] at read
        cases read
        exact (Form.mem_header line).mpr ⟨marked, by rw [found]; rfl⟩
  · rename_i marked
    cases read
    refine ⟨rfl, not_mem_header ?_, not_mem_imported (Import.ofLine?_of_ne ?_), ?_⟩
    · rw [marked]
      decide
    · rw [marked]
      decide
    · exact (Form.mem_marked line.chars rfl).mpr marked
  · rename_i unheaded uncommented
    have plain := not_mem_header unheaded
    cases found : Import.ofLine? line with
    | none =>
        rw [found] at read
        cases read
        refine ⟨rfl, plain, not_mem_imported found, ?_⟩
        exact fun member => uncommented ((Form.mem_marked line.chars rfl).mp member)
    | some declaration =>
        rw [found] at read
        cases read
        exact ⟨plain, (Form.mem_imported line).mpr (by rw [found]; rfl)⟩

/-- Only a line that starts with `#` can fail, and it does unless it has the form of a header. -/
theorem ofLine_iff :
    (∃ entry, Entry.ofLine line = .ok entry) ↔
      (line.chars ∈ Form.marked '#' → line.chars ∈ Form.header) := by
  rw [Form.mem_marked line.chars rfl, Form.mem_header]
  unfold Entry.ofLine
  split
  · rename_i marked
    cases found : Header.ofLine line with
    | error malformed => simp [marked, Except.map, Except.toOption]
    | ok header => simp [marked, Except.map, Except.toOption]
  · rename_i marked
    simp [marked]
  · rename_i unheaded uncommented
    have fine : (line.chars.dropWhile isBlank).head? = some '#' →
        (line.chars.dropWhile isBlank).head? = some '#' ∧
          (Header.ofLine line).toOption.isSome = true := fun marked => absurd marked unheaded
    cases found : Import.ofLine? line with
    | none => exact ⟨fun _ => fine, fun _ => ⟨.body line, rfl⟩⟩
    | some declaration => exact ⟨fun _ => fine, fun _ => ⟨.imported declaration, rfl⟩⟩

/-! ### All lines -/

theorem classified_of_mapM {lines : List Piece} {entries : List Entry}
    (read : lines.mapM Entry.ofLine = .ok entries) : List.Forall₂ Classified lines entries := by
  induction lines generalizing entries with
  | nil =>
      cases read
      exact .nil
  | cons line lines ih =>
      rw [List.mapM_cons] at read
      cases one : Entry.ofLine line with
      | error malformed =>
          rw [one] at read
          cases read
      | ok entry =>
          cases more : lines.mapM Entry.ofLine with
          | error malformed =>
              rw [one, more] at read
              cases read
          | ok others =>
              rw [one, more] at read
              cases read
              exact .cons (classified_of_ofLine one) (ih more)

theorem mapM_ofLine_iff {lines : List Piece} :
    (∃ entries, lines.mapM Entry.ofLine = .ok entries) ↔
      ∀ line ∈ lines, ∃ entry, Entry.ofLine line = .ok entry := by
  induction lines with
  | nil => exact ⟨fun _ _ => nofun, fun _ => ⟨[], rfl⟩⟩
  | cons line lines ih =>
      rw [List.mapM_cons, List.forall_mem_cons, ← ih]
      cases one : Entry.ofLine line with
      | error malformed => exact ⟨nofun, nofun⟩
      | ok entry =>
          cases more : lines.mapM Entry.ofLine with
          | error malformed => exact ⟨nofun, nofun⟩
          | ok others =>
              exact ⟨fun _ => ⟨⟨entry, rfl⟩, others, rfl⟩, fun _ => ⟨entry :: others, rfl⟩⟩

/-- A text has an outline if and only if each of its lines that starts with `#` is a header. The
lines of the outline are classified by their forms, and they are what the grammar reads. -/
theorem Outline.ofText_accepts (text : List Char) :
    (∀ lines, Lines 0 text lines ↔ lines = logicalLines text) ∧
    ((∃ outline, Outline.ofText text = .ok outline) ↔
      ∀ line ∈ logicalLines text, line.chars ∈ Form.marked '#' → line.chars ∈ Form.header) ∧
    match Outline.ofText text with
    | .error _ => Pattern.parse? text = none
    | .ok outline => ∃ entries, (logicalLines text).mapM Entry.ofLine = .ok entries ∧
        outline = Outline.ofEntries entries ∧ Pattern.parse? text = some entries ∧
        List.Forall₂ Classified (logicalLines text) entries := by
  have agreed := Pattern.parse?_eq text
  refine ⟨fun lines => lines_iff, ?_, ?_⟩
  · rw [← forall₂_congr fun line _ => ofLine_iff, ← mapM_ofLine_iff]
    unfold Outline.ofText
    cases (logicalLines text).mapM Entry.ofLine with
    | error malformed => exact ⟨nofun, nofun⟩
    | ok entries => exact ⟨fun _ => ⟨entries, rfl⟩, fun _ => ⟨Outline.ofEntries entries, rfl⟩⟩
  · unfold Outline.ofText
    cases read : (logicalLines text).mapM Entry.ofLine with
    | error malformed =>
        rw [read] at agreed
        exact agreed
    | ok entries =>
        rw [read] at agreed
        exact ⟨entries, rfl, rfl, agreed, classified_of_mapM read⟩

end TemplateServer.Grammar
