import Mathlib.Order.Monotone.Defs
import TemplateServer.Proofs.Failure

/-!
Texts with their lines at other places. What is found in an outline moves along with it, and so do
its diagnostics. Main statement: if the lines of a text stand in another one at other places, then
the other text has the same templates, and the same diagnostics on the lines where these places are.
-/

namespace TemplateServer

open Text Grammar Expression

/-! ### Findings -/

def Finding.relocate (place : Nat → Nat) (finding : Finding) : Finding :=
  ⟨finding.problem, place finding.start, place finding.stop⟩

variable {place : Nat → Nat} {piece line : Piece} {templates : List String} {outline : Outline}

theorem Finding.about_relocate (rigid : piece.Rigid place) (problem : Problem) :
    Finding.about problem (piece.relocate place) =
      (Finding.about problem piece).relocate place := by
  unfold Finding.about
  rw [rigid.stop]
  rfl

theorem rigid_add (distance : Nat) (piece : Piece) : piece.Rigid (· + distance) :=
  fun _ _ _ => Nat.add_right_comm _ _ _

namespace Expression

theorem locate_add (start distance : Nat) (items : List Segment) :
    locate (start + distance) items =
      (locate start items).map fun item => (item.1 + distance, item.2) := by
  induction items generalizing start with
  | nil => rfl
  | cons segment items ih =>
      rw [locate, locate, List.map_cons, Nat.add_right_comm, ih]

theorem callsIn_add (start distance : Nat) (items : List Lexeme) :
    callsIn (start + distance) items =
      (callsIn start items).map (Piece.relocate (· + distance)) := by
  induction items generalizing start with
  | nil => rfl
  | cons lexeme items ih =>
      cases lexeme with
      | word chars =>
          rw [callsIn, callsIn, Nat.add_right_comm, ih]
          split
          · rfl
          · rfl
      | literal mark inside terminated =>
          rw [callsIn, callsIn, Nat.add_right_comm, ih]
          all_goals
            intro chars same
            cases same
      | other c =>
          rw [callsIn, callsIn, Nat.add_right_comm, ih]
          all_goals
            intro chars same
            cases same

end Expression

namespace Check

theorem segmentFindings_add (templates : List String) (distance : Nat) (item : Nat × Segment) :
    segmentFindings templates (item.1 + distance, item.2) =
      (segmentFindings templates item).map (Finding.relocate (· + distance)) := by
  obtain ⟨start, segment⟩ := item
  cases segment with
  | escape c => rfl
  | plain c => rfl
  | unclosed rest =>
      change [Finding.about _ (Piece.relocate (· + distance) ⟨start, _⟩)] = _
      rw [Finding.about_relocate (rigid_add distance _)]
      rfl
  | closed content =>
      unfold segmentFindings calls
      simp only
      rw [Nat.add_right_comm, callsIn_add, List.filter_map, List.map_map, List.map_map]
      apply List.map_congr_left
      intro call _
      exact Finding.about_relocate (rigid_add distance call) _

theorem lineFindings_add (templates : List String) (start : Nat) (chars : List Char) :
    lineFindings templates ⟨start, chars⟩ =
      (lineFindings templates ⟨0, chars⟩).map (Finding.relocate (· + start)) := by
  have located := locate_add 0 start (segments chars)
  rw [Nat.zero_add] at located
  unfold lineFindings
  simp only
  rw [located, List.flatMap_map, List.map_flatMap]
  apply List.flatMap_congr
  intro item _
  exact segmentFindings_add templates start item

/-- What is found in a line is about pieces of it. -/
theorem within_of_mem_lineFindings {finding : Finding}
    (found : finding ∈ lineFindings templates line) :
    ∃ piece, piece.Within line ∧ finding = .about finding.problem piece := by
  obtain ⟨⟨offset, segment⟩, located, found⟩ := List.mem_flatMap.mp found
  cases segment with
  | escape c => cases found
  | plain c => cases found
  | closed content =>
      obtain ⟨call, selected, rfl⟩ := List.mem_map.mp found
      have called := (List.mem_filter.mp selected).1
      have stands : CallIn line call :=
        mem_lineCalls.mp (List.mem_flatMap.mpr ⟨_, located, called⟩)
      exact ⟨call, stands.within, rfl⟩
  | unclosed rest =>
      obtain ⟨before, chars, _, _, rfl⟩ := mem_locate_unclosed.mp located
      rw [List.mem_singleton.mp found]
      exact ⟨_, ⟨before, [], by rw [List.append_nil]; exact chars, rfl⟩, rfl⟩

theorem lineFindings_relocate (rigid : line.Rigid place) :
    lineFindings templates (line.relocate place) =
      (lineFindings templates line).map (Finding.relocate place) := by
  have moved := lineFindings_add templates (place line.start) line.chars
  have still := lineFindings_add templates line.start line.chars
  change lineFindings templates (line.relocate place) = _ at moved
  change lineFindings templates line = _ at still
  rw [moved, still, List.map_map]
  apply List.map_congr_left
  intro finding found
  obtain ⟨piece, ⟨before, after, chars, start⟩, same⟩ := within_of_mem_lineFindings found
  have first := rigid before (piece.chars ++ after) chars
  have second := rigid (before ++ piece.chars) after (by rw [List.append_assoc]; exact chars)
  change piece.start = 0 + bytes before at start
  rw [bytes_append] at second
  rw [same]
  unfold Finding.about Finding.relocate Function.comp Piece.stop
  simp only [start, Nat.zero_add, Nat.add_comm _ line.start]
  rw [first, second, Nat.add_comm (place line.start), Nat.add_comm (place line.start)]

/-! ### Outlines -/

theorem repeats_map {α β γ : Type} [DecidableEq γ] (key : β → γ) (move : α → β) (seen : List γ)
    (items : List α) :
    repeats key seen (items.map move) = (repeats (key ∘ move) seen items).map move := by
  induction items generalizing seen with
  | nil => rfl
  | cons item items ih =>
      rw [List.map_cons, repeats, repeats, ih]
      simp only [Function.comp_apply]
      split
      · rfl
      · rfl

def sectionPieces (part : Section) : List Piece :=
  part.header.name :: part.header.parameters ++ part.lines

theorem sectionFindings_relocate {part : Section} (earlier : List String)
    (rigid : ∀ piece ∈ sectionPieces part, piece.Rigid place) :
    sectionFindings templates earlier (part.relocate place) =
      (sectionFindings templates earlier part).map (Finding.relocate place) := by
  have name : part.header.name.Rigid place := rigid _ List.mem_cons_self
  have parameters : ∀ parameter ∈ part.header.parameters, parameter.Rigid place :=
    fun parameter member => rigid _ (List.mem_cons_of_mem _ (List.mem_append_left _ member))
  have lines : ∀ line ∈ part.lines, line.Rigid place :=
    fun line member => rigid _ (List.mem_cons_of_mem _ (List.mem_append_right _ member))
  have hollow : (part.relocate place).isHollow = part.isHollow := by
    unfold Section.isHollow Section.relocate
    rw [List.all_map]
    rfl
  have about (problem : Problem) (told : Prop) [Decidable told] :
      (if told then [Finding.about problem (part.relocate place).header.name] else []) =
        (if told then [Finding.about problem part.header.name] else []).map
          (Finding.relocate place) := by
    change (if told then [Finding.about problem (part.header.name.relocate place)] else []) = _
    rw [Finding.about_relocate name]
    split
    · rfl
    · rfl
  have again : (repeats Piece.chars [] (part.relocate place).header.parameters).map
      (parameterFinding (part.relocate place)) =
        ((repeats Piece.chars [] part.header.parameters).map (parameterFinding part)).map
          (Finding.relocate place) := by
    change (repeats Piece.chars [] (part.header.parameters.map (Piece.relocate place))).map _ = _
    rw [repeats_map, List.map_map, List.map_map]
    apply List.map_congr_left
    intro parameter repeated
    exact Finding.about_relocate (parameters parameter (mem_of_mem_repeats repeated)) _
  have inside : (part.relocate place).lines.flatMap (lineFindings templates) =
      (part.lines.flatMap (lineFindings templates)).map (Finding.relocate place) := by
    change (part.lines.map (Piece.relocate place)).flatMap _ = _
    rw [List.flatMap_map, List.map_flatMap]
    apply List.flatMap_congr
    intro line member
    exact lineFindings_relocate (lines line member)
  unfold sectionFindings
  simp only [List.map_append]
  rw [about, again, hollow, about, inside]
  rfl

theorem sectionsFindings_relocate {parts : List Section} (earlier : List String)
    (rigid : ∀ part ∈ parts, ∀ piece ∈ sectionPieces part, piece.Rigid place) :
    sectionsFindings templates earlier (parts.map (Section.relocate place)) =
      (sectionsFindings templates earlier parts).map (Finding.relocate place) := by
  induction parts generalizing earlier with
  | nil => rfl
  | cons part parts ih =>
      rw [List.map_cons, sectionsFindings, sectionsFindings, List.map_append,
        sectionFindings_relocate earlier (rigid part List.mem_cons_self)]
      congr 1
      exact ih _ fun other member => rigid other (List.mem_cons_of_mem part member)

/-- What is found moves along with the outline. -/
theorem findings_relocate (rigid : ∀ piece ∈ outline.pieces, piece.Rigid place) :
    findings (outline.relocate place) = (findings outline).map (Finding.relocate place) := by
  have strays : ∀ line ∈ outline.strays, line.Rigid place :=
    fun line member => rigid _ (List.mem_append_left _ (List.mem_append_left _ member))
  have imports : ∀ declaration ∈ outline.imports, declaration.line.Rigid place :=
    fun declaration member => rigid _ (List.mem_append_left _
      (List.mem_append_right _ (List.mem_map_of_mem member)))
  have sections : ∀ part ∈ outline.sections, ∀ piece ∈ sectionPieces part, piece.Rigid place :=
    fun part listed piece member => rigid _ (List.mem_append_right _
      (List.mem_flatMap.mpr ⟨part, listed, member⟩))
  have names : (outline.relocate place).sections.map Section.name =
      outline.sections.map Section.name := by
    change (outline.sections.map (Section.relocate place)).map Section.name = _
    rw [List.map_map]
    rfl
  unfold findings
  rw [List.map_append, List.map_append, names]
  congr 1
  · congr 1
    · change (((outline.lead.map (Piece.relocate place)).filter _).map strayFinding) = _
      rw [List.filter_map, List.map_map, List.map_map]
      apply List.map_congr_left
      intro line member
      obtain ⟨dropped, whole, _⟩ := exists_dropEndWhile_append isWhiteSpace line.chars
      have within : Piece.Within ⟨line.start, trimEnd line.chars⟩ line := ⟨[], dropped, whole, rfl⟩
      exact Finding.about_relocate ((strays line member).within within) _
    · change (repeats Import.path [] (outline.imports.map (Import.relocate place))).map _ = _
      rw [repeats_map, List.map_map, List.map_map]
      apply List.map_congr_left
      intro declaration again
      exact Finding.about_relocate (imports declaration (mem_of_mem_repeats again)) _
  · exact sectionsFindings_relocate [] sections

end Check

/-! ### Templates -/

theorem Grammar.Section.body_relocate (place : Nat → Nat) (part : Section) :
    (part.relocate place).body = part.body := by
  unfold Section.body Section.bodyLines Section.relocate
  simp only
  rw [← List.map_reverse, List.dropWhile_map, ← List.map_reverse, List.map_map]
  rfl

theorem Template.ofSection_relocate (source : String) (place : Nat → Nat) (part : Section) :
    Template.ofSection source (part.relocate place) = Template.ofSection source part := by
  have parameters : (part.relocate place).header.parameters.map Piece.text =
      part.header.parameters.map Piece.text := by
    change (part.header.parameters.map (Piece.relocate place)).map Piece.text = _
    rw [List.map_map]
    rfl
  unfold Template.ofSection
  rw [parameters, Section.body_relocate]
  rfl

/-! ### Lines -/

def Text.Position.onLine (row : Nat → Nat) (position : Position) : Position :=
  ⟨row position.line, position.character⟩

def Text.Range.onLine (row : Nat → Nat) (range : Range) : Range :=
  ⟨range.start.onLine row, range.stop.onLine row⟩

def Diagnostic.onLine (row : Nat → Nat) (diagnostic : Diagnostic) : Diagnostic :=
  { diagnostic with range := diagnostic.range.onLine row }

def Reading.onLine (row : Nat → Nat) (reading : Reading) : Reading :=
  { reading with diagnostics := reading.diagnostics.map (Diagnostic.onLine row) }

variable {row : Nat → Nat} {text other : List Char}

theorem Text.Position.le_onLine (rising : StrictMono row) (left right : Position) :
    (left.onLine row).le (right.onLine row) = left.le right := by
  unfold Position.le Position.onLine
  simp only [rising.lt_iff_lt, Bool.beq_eq_decide_eq, rising.injective.eq_iff]

/-- Whether the lines of a text stand in another one at other places. -/
structure Displaces (place row : Nat → Nat) (text other : List Char) : Prop where
  rising : StrictMono row
  rigid : ∀ line ∈ linesFrom 0 text, line.Rigid place
  outline : Outline.ofText other = relocated place (Outline.relocate place) (Outline.ofText text)
  position : ∀ offset, Boundary text offset →
    positionOf other (place offset) = (positionOf text offset).onLine row
  width : ∀ number ≤ text.count '\n', lineWidth other (row number) = lineWidth text number

theorem boundary_of_malformed {fault : Attempts} (failed : Outline.ofText text = .error fault) :
    Boundary text fault.offset := by
  have apart := lines_linesFrom 0 text
  obtain ⟨before, line, after, split, _, broken⟩ := exists_malformed_of_ofText apart failed
  have listed : line ∈ linesFrom 0 text := by
    rw [split]
    exact List.mem_append_right before List.mem_cons_self
  obtain ⟨rest, inside, same⟩ := (ofLine_error broken).2.place
  rw [same]
  exact (((inside.trans (Piece.within_drop _ 1)).trans (Piece.within_dropWhile _ isBlank)).trans
    (apart.picks.within line listed)).boundary_start

theorem line_le_of_boundary {offset : Nat} (boundary : Boundary text offset) :
    (positionOf text offset).line ≤ text.count '\n' := by
  obtain ⟨before, after, rfl, rfl⟩ := boundary
  rw [positionOf_append, line_foldl_next, List.count_append]
  change 0 + _ ≤ _
  omega

namespace Displaces

theorem read_iff (displaces : Displaces place row text other) :
    (∃ outline, Outline.ofText other = .ok outline) ↔
      ∃ outline, Outline.ofText text = .ok outline := by
  rw [displaces.outline]
  cases Outline.ofText text with
  | error fault => exact ⟨nofun, nofun⟩
  | ok outline => exact ⟨fun _ => ⟨_, rfl⟩, fun _ => ⟨_, rfl⟩⟩

theorem rigid_pieces (displaces : Displaces place row text other)
    (read : Outline.ofText text = .ok outline) : ∀ piece ∈ outline.pieces, piece.Rigid place := by
  intro piece recorded
  obtain ⟨front, blocks, apart, covers⟩ := covers_ofText read
  obtain ⟨line, member, within⟩ := covers.within_line recorded
  rw [lines_iff.mp apart] at member
  exact (displaces.rigid line member).within within

theorem diagnostics_eq (displaces : Displaces place row text other)
    (read : Outline.ofText text = .ok outline) :
    Check.diagnostics other (outline.relocate place) =
      (Check.diagnostics text outline).map (Diagnostic.onLine row) := by
  have moved : (Check.findings outline).map (Finding.toDiagnostic other ∘ Finding.relocate place) =
      (Check.findings outline).map (Diagnostic.onLine row ∘ Finding.toDiagnostic text) := by
    apply List.map_congr_left
    intro finding found
    obtain ⟨starts, stops⟩ := Check.boundary_of_mem_findings read found
    unfold Function.comp Finding.toDiagnostic rangeOf Finding.relocate
    simp only
    rw [displaces.position _ starts, displaces.position _ stops]
    rfl
  unfold Check.diagnostics
  rw [Check.findings_relocate (displaces.rigid_pieces read), List.map_map, moved, ← List.map_map]
  symm
  apply List.map_mergeSort
  intro first _ second _
  exact (Position.le_onLine displaces.rising _ _).symm

theorem failure_eq (displaces : Displaces place row text other) {fault : Attempts}
    (failed : Outline.ofText text = .error fault) :
    (Failure.ofAttempts (fault.relocate place)).toDiagnostic other =
      ((Failure.ofAttempts fault).toDiagnostic text).onLine row := by
  have boundary := boundary_of_malformed failed
  have position : positionOf other (Failure.ofAttempts (fault.relocate place)).offset =
      (positionOf text fault.offset).onLine row :=
    displaces.position _ boundary
  have width : lineWidth other ((positionOf text fault.offset).onLine row).line =
      lineWidth text (positionOf text fault.offset).line :=
    displaces.width _ (line_le_of_boundary boundary)
  rw [Failure.toDiagnostic_eq, Failure.toDiagnostic_eq, position, width]
  rfl

/-- A text whose lines stand in another one is read there with its diagnostics on the lines where
they stand. -/
theorem reading_eq {text other : String} (displaces : Displaces place row text.toList other.toList)
    (source : String) : Reading.ofText source other = (Reading.ofText source text).onLine row := by
  unfold Reading.ofText
  rw [displaces.outline]
  cases read : Outline.ofText text.toList with
  | error fault =>
      change Reading.mk [] [_] = Reading.mk [] [_]
      rw [displaces.failure_eq read]
  | ok outline =>
      change Reading.mk ((outline.sections.map (Section.relocate place)).map _) _ = Reading.mk _ _
      rw [displaces.diagnostics_eq read, List.map_map]
      congr 1
      apply List.map_congr_left
      intro part _
      exact Template.ofSection_relocate source place part

end Displaces

end TemplateServer
