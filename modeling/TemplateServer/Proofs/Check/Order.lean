import TemplateServer.Proofs.Check.Range
import TemplateServer.Proofs.Text.LineStart

/-!
The order of diagnostics. What a problem is with starts at a place of the text, and places are in
the order of their positions. Main statement: positions count line feeds and code units up to the
place of an offset, they are in the order of offsets, and so diagnostics are sorted by offset.
-/

namespace TemplateServer

open Text Grammar

variable {text : List Char} {outline : Outline}

theorem Text.Piece.Within.boundary_start {piece : Piece} (within : piece.Within ⟨0, text⟩) :
    Boundary text piece.start := by
  obtain ⟨before, after, whole, start⟩ := within
  exact ⟨before, piece.chars ++ after, whole, start.trans (Nat.zero_add _)⟩

theorem Text.Piece.Within.boundary_stop {piece : Piece} (within : piece.Within ⟨0, text⟩) :
    Boundary text piece.stop := by
  obtain ⟨before, after, whole, start⟩ := within
  refine ⟨before ++ piece.chars, after, whole.trans (List.append_assoc _ _ _).symm, ?_⟩
  unfold Piece.stop
  rw [start, Nat.zero_add, bytes_append]

namespace Check

/-- What is found is about a piece of the text. -/
theorem boundary_of_mem_findings (read : Outline.ofText text = .ok outline) {finding : Finding}
    (found : finding ∈ findings outline) :
    Boundary text finding.start ∧ Boundary text finding.stop := by
  obtain ⟨front, blocks, apart, covers⟩ := covers_ofText read
  obtain ⟨subject, about, concerns⟩ := sound_of_mem_findings covers found
  have within := (concerns.marks read).within
  rw [about]
  exact ⟨within.boundary_start, within.boundary_stop⟩

theorem diagnostics_eq (read : Outline.ofText text = .ok outline) :
    diagnostics text outline =
      ((findings outline).mergeSort fun first second => first.start ≤ second.start).map
        (Finding.toDiagnostic text) := by
  symm
  apply List.map_mergeSort
  intro first found second foundAgain
  symm
  exact (boundary_of_mem_findings read found).1.le_positionOf
    (boundary_of_mem_findings read foundAgain).1

end Check

/-- The position of an offset counts the line feeds and the code units of the text up to the last
place that is not after it, and a look-up in the table of line starts finds it. Later offsets have
later positions, places even strictly so, and the diagnostics are the findings in the order of their
offsets. -/
theorem Text.positionOf_agrees_with_scan (text : List Char) :
    (∀ offset, ∃ before, before <+: text ∧
      IsGreatest {place | Boundary text place ∧ place ≤ min offset (bytes text)} (bytes before) ∧
      positionOf text offset =
        ⟨before.count '\n', units (before.rtakeWhile (· != '\n'))⟩ ∧
      (positionOf text offset).line ≤ bytes text ∧
      (positionOf text offset).character ≤ bytes text) ∧
    ((∀ start, start ∈ lineStarts text ↔ start = 0 ∨
        ∃ before after, text = before ++ '\n' :: after ∧ start = bytes before + 1) ∧
      (lineStarts text).Pairwise (· < ·) ∧
      ∀ offset, lookUp text offset = positionOf text offset) ∧
    (∀ first second, first ≤ second →
      (positionOf text first).le (positionOf text second) = true) ∧
    (∀ first second, Boundary text first → Boundary text second → first < second →
      (positionOf text first).Before (positionOf text second)) ∧
    ∀ outline, Outline.ofText text = .ok outline →
      Check.diagnostics text outline =
        ((Check.findings outline).mergeSort fun first second => first.start ≤ second.start).map
          (Finding.toDiagnostic text) := by
  refine ⟨?_, ⟨?_, pairwise_lineStarts text, lookUp_eq_positionOf text⟩, ?_, ?_, ?_⟩
  · intro offset
    refine ⟨fitting offset text, fitting_prefix offset text, isGreatest_fitting text offset, ?_,
      positionOf_le_bytes text offset⟩
    exact foldl_next_eq (fitting offset text)
  · exact fun start => mem_lineStarts
  · exact fun first second ordered => positionOf_mono ordered text
  · exact fun first second starts ends ordered => starts.positionOf_before ends ordered
  · exact fun outline read => Check.diagnostics_eq read

end TemplateServer
