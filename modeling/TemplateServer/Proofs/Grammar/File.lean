import TemplateServer.Grammar.Outline
import TemplateServer.Proofs.Grammar.Agreement

/-!
Whole files. Main statement: the grammar reads a file as the lines that the reader finds in it, and
fails if and only if the reader does.
-/

namespace TemplateServer.Grammar

open Text

namespace Pattern

theorem read_newline_of_breaks {mark rest : List Char} (breaks : Breaks mark rest) (start : Nat) :
    newline.read ⟨start, mark ++ rest⟩ = some ([], ⟨start + bytes mark, rest⟩) := by
  have feedless (chars : List Char) : (literal '\n').read ⟨start, '\r' :: chars⟩ = none :=
    read_literal_of_ne (by rw [List.head?_cons]; decide)
  have turned (chars : List Char) : (literal '\r').read ⟨start, '\r' :: chars⟩ =
      some ([], ⟨start + bytes ['\r'], chars⟩) :=
    read_literal_of_cons rfl
  unfold newline
  cases breaks with
  | feed => exact read_orElse_of_some (read_orElse_of_some (read_literal_of_cons rfl))
  | turnFeed =>
      apply read_orElse_of_some
      exact (read_orElse_of_none (feedless _)).trans
        (read_andThen_of_both (turned ('\n' :: rest)) (read_literal_of_cons rfl))
  | turn alone =>
      have unpaired := read_andThen_of_second_none (turned rest) (read_literal_of_ne alone)
      exact (read_orElse_of_none ((read_orElse_of_none (feedless rest)).trans unpaired)).trans
        (turned rest)

def fileEnd : Pattern :=
  .rule .finish .finish

theorem read_fileEnd_of_nil {input : Piece} (empty : input.chars = []) :
    fileEnd.read input = some ([.node .finish (input.upTo input) []], input) :=
  read_rule_of_some (read_finish_of_nil empty)

theorem read_fileEnd_of_newline {input : Piece} {result : List Token × Piece}
    (done : newline.read input = some result) : fileEnd.read input = none := by
  cases head : input.chars with
  | nil =>
      rw [read_newline_of_stops (by rw [head]; exact stops_nil isLineBreak)] at done
      cases done
  | cons c chars => exact read_rule_of_none (read_finish_of_cons head)

def allLines : Pattern :=
  (line.andThen (star (newline.andThen line))).andThen fileEnd

/-- After a line there comes a line break and more lines, or the end of the file. -/
theorem read_allLines (input : Piece) :
    allLines.read input =
      (line.read input).bind fun head =>
        match newline.read head.2 with
        | none => (fileEnd.read head.2).map fun result => (head.1 ++ result.1, result.2)
        | some middle =>
          (allLines.read middle.2).map fun result => (head.1 ++ middle.1 ++ result.1, result.2) :=
  read_separated (fun done => length_andThen_lt done length_newline_lt) read_fileEnd_of_newline
    input

theorem toOption_mapM_cons (line : Piece) (lines : List Piece) :
    ((line :: lines).mapM Entry.ofLine).toOption =
      (Entry.ofLine line).toOption.bind fun entry =>
        (lines.mapM Entry.ofLine).toOption.map (entry :: ·) := by
  rw [List.mapM_cons]
  cases Entry.ofLine line with
  | error malformed => rfl
  | ok entry =>
      cases lines.mapM Entry.ofLine with
      | error malformed => rfl
      | ok entries => rfl

/-- The grammar reads lines one after the other as the reader does. -/
theorem read_lines {start : Nat} {text : List Char} {lines : List Piece}
    (apart : Lines start text lines) :
    (allLines.read ⟨start, text⟩).map (fun result => result.1.filterMap Entry.ofToken?) =
      (lines.mapM Entry.ofLine).toOption := by
  induction apart with
  | @last start text plain =>
      have told := @tells_line [] ⟨start, text⟩ (fun _ => nofun) plain
      have whole : Piece.extend [] ⟨start, text⟩ = ⟨start, text⟩ := by
        unfold Piece.extend
        rw [List.append_nil]
      rw [read_allLines, toOption_mapM_cons]
      cases read : Entry.ofLine ⟨start, text⟩ with
      | error malformed =>
          rw [read] at told
          have failed : line.read (Piece.extend [] ⟨start, text⟩) = none := told
          rw [whole] at failed
          rw [failed]
          rfl
      | ok entry =>
          rw [read] at told
          obtain ⟨token, done, about⟩ := told
          rw [whole] at done
          have broken := @read_newline_of_stops ⟨start + bytes text, []⟩ (stops_nil isLineBreak)
          have one : line.read ⟨start, text⟩ = some ([token], ⟨start + bytes text, []⟩) := done
          rw [one, Option.bind_some, broken]
          simp only
          rw [read_fileEnd_of_nil rfl]
          exact congrArg some (List.filterMap_cons_some about)
  | @more start first mark rest lines plain breaks following ih =>
      have told := @tells_line (mark ++ rest) ⟨start, first⟩ breaks.ends plain
      rw [read_allLines, toOption_mapM_cons, ← ih]
      cases read : Entry.ofLine ⟨start, first⟩ with
      | error malformed =>
          rw [read] at told
          have failed : line.read ⟨start, first ++ (mark ++ rest)⟩ = none := told
          rw [failed]
          rfl
      | ok entry =>
          rw [read] at told
          obtain ⟨token, done, about⟩ := told
          have one : line.read ⟨start, first ++ (mark ++ rest)⟩ =
              some ([token], ⟨start + bytes first, mark ++ rest⟩) := done
          have broken := read_newline_of_breaks breaks (start + bytes first)
          rw [one, Option.bind_some, broken]
          simp only
          cases allLines.read ⟨start + bytes first + bytes mark, rest⟩ with
          | none => rfl
          | some result => exact congrArg some (List.filterMap_cons_some about)

theorem read_file (text : List Char) :
    file.read ⟨0, text⟩ = (allLines.read ⟨0, text⟩).map fun result =>
      ([.node .file (Piece.upTo ⟨0, text⟩ result.2) result.1], result.2) := by
  have begins : start.read ⟨0, text⟩ = some ([], ⟨0, text⟩) := rfl
  have grouped : (start.andThen line |>.andThen (star (newline.andThen line))
      |>.andThen (.rule .finish .finish)).read = (start.andThen allLines).read := by
    rw [read_andThen_congr (read_andThen_assoc ..) rfl, read_andThen_assoc]
    rfl
  unfold file
  rw [read_rule, grouped, read_andThen_of_some begins, Option.map_map]
  rfl

/-- The grammar reads a file as the reader does. -/
theorem parse?_eq (text : List Char) :
    parse? text = ((logicalLines text).mapM Entry.ofLine).toOption := by
  have lines : _ = ((logicalLines text).mapM Entry.ofLine).toOption :=
    read_lines (lines_linesFrom 0 text)
  rw [← lines]
  unfold parse?
  rw [read_file]
  cases allLines.read ⟨0, text⟩ with
  | none => rfl
  | some result => simp [Token.inner]

end Pattern

end TemplateServer.Grammar
