import TemplateServer.Proofs.Check.Order

/-!
The structural checks. Which kind of problem a diagnostic is about shows in how its message starts.
Main statement: the diagnostics of each structural kind are those of the lines before the first
header that show something, of the imports, sections and parameters that repeat an earlier one, and
of the sections with an empty body, one each and in the order of the text; all diagnostics are these
and those of the expressions, in the order of their positions and then in that of the checks.
-/

namespace TemplateServer

open Text Grammar

/-! ### Kinds of problems -/

/-- What a problem is about, without the names in it. -/
inductive Problem.Kind where
  | strayContent
  | repeatedImport
  | repeatedTemplate
  | repeatedParameter
  | emptyTemplate
  | unclosedExpression
  | unknownFunction
deriving DecidableEq

namespace Problem

def kind : Problem → Kind
  | .strayContent => .strayContent
  | .repeatedImport _ _ => .repeatedImport
  | .repeatedTemplate _ => .repeatedTemplate
  | .repeatedParameter _ _ => .repeatedParameter
  | .emptyTemplate _ => .emptyTemplate
  | .unclosedExpression _ => .unclosedExpression
  | .unknownFunction _ => .unknownFunction

def Kind.isStructural : Kind → Bool
  | .unclosedExpression => false
  | .unknownFunction => false
  | _ => true

def Kind.opening : Kind → String
  | .strayContent => "Content outside of a template definition is ignored"
  | .repeatedImport => "Duplicated import of \x27"
  | .repeatedTemplate => "Duplicated definitions found for template: \x27"
  | .repeatedParameter => "Duplicated parameter \x27"
  | .emptyTemplate => "There is no template body in template \x27"
  | .unclosedExpression => "Close \x7d is missing in expression \x27"
  | .unknownFunction => "\x27"

theorem exists_message_eq (problem : Problem) :
    ∃ rest, problem.message = problem.kind.opening ++ rest := by
  cases problem with
  | strayContent =>
      refine ⟨"", ?_⟩
      rw [String.append_empty]
      rfl
  | repeatedImport path label =>
      refine ⟨path ++ "\x27 as \x27" ++ label ++ "\x27", ?_⟩
      rw [← String.append_assoc, ← String.append_assoc, ← String.append_assoc]
      rfl
  | repeatedTemplate name => exact ⟨name ++ "\x27", String.append_assoc⟩
  | repeatedParameter parameter template =>
      refine ⟨parameter ++ "\x27 in template \x27" ++ template ++ "\x27", ?_⟩
      rw [← String.append_assoc, ← String.append_assoc, ← String.append_assoc]
      rfl
  | emptyTemplate name => exact ⟨name ++ "\x27", String.append_assoc⟩
  | unclosedExpression text => exact ⟨text ++ "\x27", String.append_assoc⟩
  | unknownFunction name =>
      exact ⟨name ++ "\x27 is neither a template nor a builtin function", String.append_assoc⟩

theorem opening_prefix_message (problem : Problem) :
    problem.kind.opening.toList <+: problem.message.toList := by
  obtain ⟨rest, same⟩ := problem.exists_message_eq
  rw [same, String.toList_append]
  exact List.prefix_append _ _

theorem Kind.eq_of_opening_prefix {first second : Kind}
    (opens : first.opening.toList <+: second.opening.toList) : first = second := by
  -- two openings that differ do so within their first twelve characters
  cases first <;> cases second <;> first
    | rfl
    | simp only [opening] at opens
      rw [String.toList_ofList, String.toList_ofList] at opens
      exact absurd opens (by decide)

/-- The start of a message tells the kind of problem. -/
theorem opening_prefix_iff (kind : Kind) (problem : Problem) :
    kind.opening.toList <+: problem.message.toList ↔ problem.kind = kind := by
  constructor
  · intro opens
    rcases List.prefix_or_prefix_of_prefix opens problem.opening_prefix_message with
      shorter | longer
    · exact (Kind.eq_of_opening_prefix shorter).symm
    · exact Kind.eq_of_opening_prefix longer
  · rintro rfl
    exact problem.opening_prefix_message

end Problem

/-- The diagnostics whose messages start like those about a kind of problem. -/
def Diagnostic.ofKind (kind : Problem.Kind) (items : List Diagnostic) : List Diagnostic :=
  items.filter fun diagnostic => kind.opening.toList <+: diagnostic.message.toList

/-! ### Sorting -/

namespace Diagnostic

variable {first second third : Diagnostic}

theorem startsBefore_trans (earlier : first.startsBefore second = true)
    (later : second.startsBefore third = true) : first.startsBefore third = true := by
  unfold startsBefore at *
  rw [Position.le_iff] at *
  omega

theorem startsBefore_total (first second : Diagnostic) :
    (first.startsBefore second || second.startsBefore first) = true := by
  unfold startsBefore
  rw [Bool.or_eq_true, Position.le_iff, Position.le_iff]
  omega

/-- Sorting leaves alone what is in order already. -/
theorem filter_mergeSort {selects : Diagnostic → Bool} {items : List Diagnostic}
    (sorted : (items.filter selects).Pairwise fun first second =>
      first.startsBefore second = true) :
    (items.mergeSort startsBefore).filter selects = items.filter selects := by
  have kept : (items.filter selects).Sublist (items.mergeSort startsBefore) :=
    List.sublist_mergeSort (fun first second third => @startsBefore_trans first second third)
      startsBefore_total sorted List.filter_sublist
  have selected := kept.filter selects
  rw [List.filter_filter] at selected
  simp only [Bool.and_self] at selected
  have sizes := ((List.mergeSort_perm items startsBefore).filter selects).length_eq
  exact (selected.eq_of_length sizes.symm).symm

end Diagnostic

namespace Check

/-! ### Findings of a kind -/

def ofKind (kind : Problem.Kind) (items : List Finding) : List Finding :=
  items.filter fun finding => finding.problem.kind = kind

section OfKind

variable {kind : Problem.Kind}

theorem ofKind_append (first second : List Finding) :
    ofKind kind (first ++ second) = ofKind kind first ++ ofKind kind second :=
  List.filter_append ..

theorem ofKind_eq_self {items : List Finding}
    (all : ∀ finding ∈ items, finding.problem.kind = kind) : ofKind kind items = items :=
  List.filter_eq_self.mpr fun finding member => decide_eq_true (all finding member)

theorem ofKind_eq_nil {items : List Finding}
    (none : ∀ finding ∈ items, finding.problem.kind ≠ kind) : ofKind kind items = [] :=
  List.filter_eq_nil_iff.mpr fun finding member selected =>
    none finding member (of_decide_eq_true selected)

theorem ofKind_map {α : Type} (make : α → Finding) (own : Problem.Kind)
    (all : ∀ item, (make item).problem.kind = own) (items : List α) :
    ofKind kind (items.map make) = if own = kind then items.map make else [] := by
  split
  · rename_i same
    apply ofKind_eq_self
    intro finding member
    obtain ⟨item, _, rfl⟩ := List.mem_map.mp member
    exact (all item).trans same
  · rename_i different
    apply ofKind_eq_nil
    intro finding member
    obtain ⟨item, _, rfl⟩ := List.mem_map.mp member
    rw [all item]
    exact different

end OfKind

/-- The diagnostics of a kind whose findings are in the order of the text. -/
theorem ofKind_diagnostics (text : List Char) {outline : Outline} {kind : Problem.Kind}
    (ordered : (ofKind kind (findings outline)).Pairwise fun first second =>
      first.start ≤ second.start) :
    Diagnostic.ofKind kind (diagnostics text outline) =
      (ofKind kind (findings outline)).map (Finding.toDiagnostic text) := by
  have selected : (((findings outline).map (Finding.toDiagnostic text)).filter fun diagnostic =>
      kind.opening.toList <+: diagnostic.message.toList) =
      (ofKind kind (findings outline)).map (Finding.toDiagnostic text) := by
    rw [List.filter_map]
    congr 1
    apply List.filter_congr
    intro finding _
    rw [Bool.eq_iff_iff, Function.comp_apply, decide_eq_true_iff, decide_eq_true_iff]
    exact Problem.opening_prefix_iff kind finding.problem
  unfold Diagnostic.ofKind diagnostics
  rw [Diagnostic.filter_mergeSort, selected]
  rw [selected, List.pairwise_map]
  exact ordered.imp fun early => positionOf_mono early text

/-! ### Items with an earlier one like them -/

/-- The items of a list that have an item with the same key before them. -/
def repeated {α β : Type} [DecidableEq β] (key : α → β) (items : List α) : List α :=
  (items.zipIdx.filter fun item => key item.1 ∈ (items.take item.2).map key).map Prod.fst

theorem mem_cons_iff_mem_map {α β : Type} {key : α → β} {seen : List β} {before : List α} (item : α)
    (same : ∀ value, value ∈ seen ↔ value ∈ before.map key) (value : β) :
    value ∈ key item :: seen ↔ value ∈ (before ++ [item]).map key := by
  rw [List.mem_cons, same, List.map_append, List.mem_append, or_comm]
  exact or_congr_right List.mem_singleton.symm

theorem repeats_eq {α β : Type} [DecidableEq β] {key : α → β} {seen : List β} (before : List α)
    (items : List α) (same : ∀ value, value ∈ seen ↔ value ∈ before.map key) :
    repeats key seen items =
      ((items.zipIdx before.length).filter fun item =>
        key item.1 ∈ ((before ++ items).take item.2).map key).map Prod.fst := by
  induction items generalizing seen before with
  | nil => rfl
  | cons item items ih =>
      have later := ih (before ++ [item]) (mem_cons_iff_mem_map item same)
      rw [List.length_append, List.length_singleton, List.append_assoc, List.singleton_append]
        at later
      rw [repeats, later, List.zipIdx_cons, List.filter_cons]
      simp only [List.take_left, same, decide_eq_true_eq]
      split
      · rfl
      · rfl

theorem repeats_eq_repeated {α β : Type} [DecidableEq β] (key : α → β) (items : List α) :
    repeats key [] items = repeated key items :=
  repeats_eq [] items fun _ => Iff.rfl

theorem repeats_sublist {α β : Type} [DecidableEq β] (key : α → β) (seen : List β)
    (items : List α) : (repeats key seen items).Sublist items := by
  induction items generalizing seen with
  | nil => exact .slnil
  | cons item items ih =>
      rw [repeats]
      split
      · exact (ih _).cons_cons item
      · exact (ih _).cons item

/-! ### Sections -/

def templateFinding (part : Section) : Finding :=
  .about (.repeatedTemplate part.name) part.header.name

def hollowFinding (part : Section) : Finding :=
  .about (.emptyTemplate part.name) part.header.name

variable {templates earlier : List String}

/-- What is found in body lines is about expressions. -/
theorem isStructural_of_mem_lineFindings {line : Piece} {finding : Finding}
    (member : finding ∈ lineFindings templates line) :
    finding.problem.kind.isStructural = false := by
  obtain ⟨⟨offset, segment⟩, _, found⟩ := List.mem_flatMap.mp member
  cases segment with
  | escape c => cases found
  | plain c => cases found
  | closed content =>
      obtain ⟨call, _, rfl⟩ := List.mem_map.mp found
      rfl
  | unclosed rest =>
      rw [List.mem_singleton.mp found]
      rfl

/-- What is found in a template apart from its expressions, kind by kind. -/
theorem ofKind_sectionFindings (kind : Problem.Kind) (structural : kind.isStructural = true)
    (part : Section) :
    ofKind kind (sectionFindings templates earlier part) =
      (if .repeatedTemplate = kind then
        (if part.name ∈ earlier then [part] else []).map templateFinding else []) ++
      (if .repeatedParameter = kind then
        (repeats Piece.chars [] part.header.parameters).map (parameterFinding part) else []) ++
      (if .emptyTemplate = kind then
        (if part.isHollow then [part] else []).map hollowFinding else []) := by
  have lines : ofKind kind (part.lines.flatMap (lineFindings templates)) = [] := by
    apply ofKind_eq_nil
    rintro finding member rfl
    obtain ⟨line, _, found⟩ := List.mem_flatMap.mp member
    rw [isStructural_of_mem_lineFindings found] at structural
    cases structural
  have whole : sectionFindings templates earlier part =
      (if part.name ∈ earlier then [part] else []).map templateFinding ++
        (repeats Piece.chars [] part.header.parameters).map (parameterFinding part) ++
        (if part.isHollow then [part] else []).map hollowFinding ++
        part.lines.flatMap (lineFindings templates) := by
    rw [apply_ite (List.map templateFinding), apply_ite (List.map hollowFinding)]
    rfl
  rw [whole, ofKind_append, ofKind_append, ofKind_append, lines, List.append_nil,
    ofKind_map templateFinding .repeatedTemplate fun _ => rfl,
    ofKind_map (parameterFinding part) .repeatedParameter fun _ => rfl,
    ofKind_map hollowFinding .emptyTemplate fun _ => rfl]

theorem repeatedTemplates_sectionsFindings (parts : List Section) :
    ofKind .repeatedTemplate (sectionsFindings templates earlier parts) =
      (repeats Section.name earlier parts).map templateFinding := by
  induction parts generalizing earlier with
  | nil => rfl
  | cons part parts ih =>
      rw [sectionsFindings, ofKind_append, ofKind_sectionFindings .repeatedTemplate rfl, ih,
        repeats]
      by_cases seen : part.name ∈ earlier
      · simp [seen]
      · simp [seen]

theorem repeatedParameters_sectionsFindings (parts : List Section) :
    ofKind .repeatedParameter (sectionsFindings templates earlier parts) =
      parts.flatMap fun part =>
        (repeats Piece.chars [] part.header.parameters).map (parameterFinding part) := by
  induction parts generalizing earlier with
  | nil => rfl
  | cons part parts ih =>
      rw [sectionsFindings, ofKind_append, ofKind_sectionFindings .repeatedParameter rfl, ih,
        List.flatMap_cons]
      simp

theorem emptyTemplates_sectionsFindings (parts : List Section) :
    ofKind .emptyTemplate (sectionsFindings templates earlier parts) =
      (parts.filter Section.isHollow).map hollowFinding := by
  induction parts generalizing earlier with
  | nil => rfl
  | cons part parts ih =>
      rw [sectionsFindings, ofKind_append, ofKind_sectionFindings .emptyTemplate rfl, ih]
      by_cases hollow : part.isHollow = true
      · simp [hollow]
      · simp [hollow]

/-- Templates hold neither imports nor content outside of templates. -/
theorem ofKind_sectionsFindings_eq_nil {kind : Problem.Kind}
    (outside : kind = .strayContent ∨ kind = .repeatedImport) (parts : List Section) :
    ofKind kind (sectionsFindings templates earlier parts) = [] := by
  induction parts generalizing earlier with
  | nil => rfl
  | cons part parts ih =>
      rw [sectionsFindings, ofKind_append, ih]
      rcases outside with rfl | rfl
      · rw [ofKind_sectionFindings .strayContent rfl]
        rfl
      · rw [ofKind_sectionFindings .repeatedImport rfl]
        rfl

/-! ### The whole outline -/

/-- What is found apart from the expressions, kind by kind. -/
theorem ofKind_findings (kind : Problem.Kind) (outline : Outline) :
    ofKind kind (findings outline) =
      (if .strayContent = kind then outline.strays.map strayFinding else []) ++
      (if .repeatedImport = kind then
        (repeated Import.path outline.imports).map importFinding else []) ++
      ofKind kind (sectionsFindings (outline.sections.map Section.name) [] outline.sections) := by
  unfold findings
  rw [ofKind_append, ofKind_append, ofKind_map strayFinding .strayContent fun _ => rfl,
    ofKind_map importFinding .repeatedImport fun _ => rfl, repeats_eq_repeated]

theorem strays_findings (outline : Outline) :
    ofKind .strayContent (findings outline) = outline.strays.map strayFinding := by
  rw [ofKind_findings, ofKind_sectionsFindings_eq_nil (Or.inl rfl)]
  simp

theorem repeatedImports_findings (outline : Outline) :
    ofKind .repeatedImport (findings outline) =
      (repeated Import.path outline.imports).map importFinding := by
  rw [ofKind_findings, ofKind_sectionsFindings_eq_nil (Or.inr rfl)]
  simp

theorem repeatedTemplates_findings (outline : Outline) :
    ofKind .repeatedTemplate (findings outline) =
      (repeated Section.name outline.sections).map templateFinding := by
  rw [ofKind_findings, repeatedTemplates_sectionsFindings, repeats_eq_repeated]
  simp

theorem repeatedParameters_findings (outline : Outline) :
    ofKind .repeatedParameter (findings outline) =
      outline.sections.flatMap fun part =>
        (repeated Piece.chars part.header.parameters).map (parameterFinding part) := by
  rw [ofKind_findings, repeatedParameters_sectionsFindings]
  simp [repeats_eq_repeated]

theorem emptyTemplates_findings (outline : Outline) :
    ofKind .emptyTemplate (findings outline) =
      (outline.sections.filter Section.isHollow).map hollowFinding := by
  rw [ofKind_findings, emptyTemplates_sectionsFindings]
  simp

end Check

/-! ### Empty bodies -/

/-- A body is empty when none of its lines shows anything. -/
theorem Grammar.Section.body_eq_empty_iff (part : Section) :
    part.body = "" ↔ part.isHollow = true := by
  have hollow : part.isHollow = true ↔ part.bodyLines = [] := by
    unfold bodyLines isHollow
    rw [List.reverse_eq_nil_iff, List.dropWhile_eq_nil_iff, List.all_eq_true]
    simp only [List.mem_reverse]
  rw [hollow, ← String.toList_eq_nil_iff]
  unfold body
  rw [String.toList_intercalate, Piece.toList_text]
  cases kept : part.bodyLines with
  | nil => exact iff_of_true rfl rfl
  | cons line lines =>
      refine iff_of_false ?_ (List.cons_ne_nil line lines)
      cases lines with
      | cons next lines => simp [List.intercalate]
      | nil =>
          -- the last line that is kept shows something
          have last : (part.lines.reverse.dropWhile fun line => isEmptyToEye line.chars) = [line] :=
            List.reverse_eq_iff.mp kept
          have filled := last.trans_ne (List.cons_ne_nil line [])
          have shows := List.head_dropWhile_not _ filled
          intro empty
          simp only [last, List.head_cons] at shows
          have nothing : line.chars = [] := by simpa using empty
          rw [nothing] at shows
          cases shows

/-! ### Lines before the first header -/

namespace Grammar

def strayLines (text : List Char) : List Piece :=
  ((logicalLines text).takeWhile fun line => ¬IsHeader line).filter fun line =>
    IsBody line ∧ trim line.chars ≠ []

variable {text : List Char} {outline : Outline} {front : List Piece} {blocks : List Block}

theorem takeWhile_flatMap_lines {parts : List Section}
    (records : List.Forall₂ Section.Records blocks parts) :
    (blocks.flatMap Block.lines).takeWhile (fun line => ¬IsHeader line) = [] := by
  cases records with
  | nil => rfl
  | cons first _ =>
      rw [List.flatMap_cons, Block.lines, List.cons_append, List.takeWhile_cons]
      simp [first.headed]

theorem strays_eq_strayLines (read : Outline.ofText text = .ok outline) :
    outline.strays = strayLines text := by
  obtain ⟨front, blocks, apart, covers⟩ := covers_ofText read
  have lines : logicalLines text = front ++ blocks.flatMap Block.lines := (lines_iff.mp apart).symm
  unfold strayLines
  rw [covers.strays_eq, lines, List.takeWhile_append_of_pos,
    takeWhile_flatMap_lines covers.sections, List.append_nil]
  intro line member
  exact decide_eq_true (covers.alone line member)

/-! ### Places -/

/-- What the headers name stands in the text one after the other. -/
theorem pairwise_headers {parts : List Section}
    (records : List.Forall₂ Section.Records blocks parts)
    (ordered : (blocks.flatMap Block.lines).Pairwise
      fun first second => first.stop < second.start) :
    (parts.flatMap fun part => part.header.name :: part.header.parameters).Pairwise
      fun first second => first.stop < second.start := by
  induction records with
  | nil => exact .nil
  | @cons block part blocks parts first others ih =>
      rw [List.flatMap_cons, List.pairwise_append] at ordered
      obtain ⟨_, later, apart⟩ := ordered
      rw [List.flatMap_cons, List.pairwise_append]
      refine ⟨first.header.picks.ordered, ih later, ?_⟩
      intro piece named other member
      obtain ⟨following, listed, inside⟩ := List.mem_flatMap.mp member
      obtain ⟨next, found, records⟩ := mem_of_forall₂ others listed
      have stop := (first.header.picks.within piece named).stop_le
      have start := (records.header.picks.within other inside).start_le
      have between := apart block.heading List.mem_cons_self next.heading
        (List.mem_flatMap.mpr ⟨next, found, List.mem_cons_self⟩)
      omega

theorem map_line_imports (covers : outline.Covers front blocks) :
    outline.imports.map Import.line = (front ++ blocks.flatMap Block.lines).filter IsImport := by
  have each {lines : List Piece} {imports : List Import}
      (records : List.Forall₂ Import.Records lines imports) : imports.map Import.line = lines := by
    induction records with
    | nil => rfl
    | cons first _ ih => rw [List.map_cons, ih, first.1]
  exact each covers.imports

end Grammar

/-! ### The order of the checks -/

namespace Check

/-- What there is to find in a template that comes after others: its name, its parameters, its body
as a whole and the expressions in it. -/
def sectionEmission (templates : List String) (before : List Section) (part : Section) :
    List Finding :=
  (if part.name ∈ before.map Section.name then [templateFinding part] else []) ++
    (repeated Piece.chars part.header.parameters).map (parameterFinding part) ++
    (if part.body = "" then [hollowFinding part] else []) ++
    part.lines.flatMap (lineFindings templates)

/-- What there is to find in a text, in the order in which the checks are made: first in the lines
before the templates, then in the imports, then in template after template. -/
def emission (text : List Char) (outline : Outline) : List Finding :=
  (strayLines text).map strayFinding ++
    (repeated Import.path outline.imports).map importFinding ++
      outline.sections.zipIdx.flatMap fun item =>
        sectionEmission (outline.sections.map Section.name) (outline.sections.take item.2) item.1

theorem sectionFindings_eq {templates earlier : List String} {before : List Section}
    (same : ∀ name, name ∈ earlier ↔ name ∈ before.map Section.name) (part : Section) :
    sectionFindings templates earlier part = sectionEmission templates before part := by
  unfold sectionFindings sectionEmission
  simp only [same, part.body_eq_empty_iff, repeats_eq_repeated]
  rfl

theorem sectionsFindings_eq {templates earlier : List String} (before parts : List Section)
    (same : ∀ name, name ∈ earlier ↔ name ∈ before.map Section.name) :
    sectionsFindings templates earlier parts =
      (parts.zipIdx before.length).flatMap fun item =>
        sectionEmission templates ((before ++ parts).take item.2) item.1 := by
  induction parts generalizing earlier before with
  | nil => rfl
  | cons part parts ih =>
      have later := ih (before ++ [part]) (mem_cons_iff_mem_map part same)
      rw [List.length_append, List.length_singleton, List.append_assoc, List.singleton_append]
        at later
      rw [sectionsFindings, later, List.zipIdx_cons, List.flatMap_cons, List.take_left,
        sectionFindings_eq same]

theorem findings_eq_emission {text : List Char} {outline : Outline}
    (read : Outline.ofText text = .ok outline) : findings outline = emission text outline := by
  unfold findings emission
  rw [strays_eq_strayLines read, repeats_eq_repeated]
  congr 1
  exact sectionsFindings_eq [] outline.sections fun _ => Iff.rfl

end Check

/-! ### The main statement -/

/-- Whether a reading tells the structural problems of a text that has an outline: those of each
kind as they stand in the text, one diagnostic for each, and all of them with the problems in
expressions by where they start. -/
structure Reading.TellsStructure (source : String) (text : List Char) (outline : Outline)
    (reading : Reading) : Prop where
  templates : reading.templates = outline.sections.map (Template.ofSection source)
  strays : Diagnostic.ofKind .strayContent reading.diagnostics =
    ((strayLines text).map Check.strayFinding).map (Finding.toDiagnostic text)
  repeatedImports : Diagnostic.ofKind .repeatedImport reading.diagnostics =
    ((Check.repeated Import.path outline.imports).map Check.importFinding).map
      (Finding.toDiagnostic text)
  repeatedTemplates : Diagnostic.ofKind .repeatedTemplate reading.diagnostics =
    ((Check.repeated Section.name outline.sections).map Check.templateFinding).map
      (Finding.toDiagnostic text)
  repeatedParameters : Diagnostic.ofKind .repeatedParameter reading.diagnostics =
    (outline.sections.flatMap fun part =>
      (Check.repeated Piece.chars part.header.parameters).map (Check.parameterFinding part)).map
        (Finding.toDiagnostic text)
  emptyTemplates : Diagnostic.ofKind .emptyTemplate reading.diagnostics =
    ((outline.sections.filter fun part => (Template.ofSection source part).body = "").map
      Check.hollowFinding).map (Finding.toDiagnostic text)
  /-- What a diagnostic can be about is told by where it starts. -/
  places : ∀ items ∈ [strayLines text, outline.imports.map Import.line,
      outline.sections.flatMap fun part => part.header.name :: part.header.parameters],
    items.Pairwise fun first second =>
      (positionOf text first.start).Before (positionOf text second.start)
  all : reading.diagnostics.Perm ((Check.emission text outline).map (Finding.toDiagnostic text))
  sorted : reading.diagnostics.Pairwise fun first second => first.startsBefore second = true
  ties : ∀ position, (reading.diagnostics.filter fun diagnostic =>
      diagnostic.range.start = position) =
    ((Check.emission text outline).map (Finding.toDiagnostic text)).filter fun diagnostic =>
      diagnostic.range.start = position

section Places

variable {text : List Char} {outline : Outline}

theorem Grammar.pairwise_strayLines (text : List Char) :
    (strayLines text).Pairwise fun first second => first.stop < second.start :=
  (lines_linesFrom 0 text).picks.ordered.sublist
    (List.filter_sublist.trans (List.takeWhile_sublist _))

theorem Grammar.pairwise_imports (read : Outline.ofText text = .ok outline) :
    (outline.imports.map Import.line).Pairwise fun first second => first.stop < second.start := by
  obtain ⟨front, blocks, apart, covers⟩ := covers_ofText read
  rw [map_line_imports covers]
  exact apart.picks.ordered.sublist List.filter_sublist

theorem Grammar.pairwise_sections (read : Outline.ofText text = .ok outline) :
    (outline.sections.flatMap fun part => part.header.name :: part.header.parameters).Pairwise
      fun first second => first.stop < second.start := by
  obtain ⟨front, blocks, apart, covers⟩ := covers_ofText read
  exact pairwise_headers covers.sections
    (apart.picks.ordered.sublist (List.sublist_append_right _ _))

theorem Text.Piece.start_le_of_stop_lt {first second : Piece} (apart : first.stop < second.start) :
    first.start ≤ second.start := by
  unfold Piece.stop at apart
  omega

namespace Check

theorem ordered_templates (read : Outline.ofText text = .ok outline) :
    outline.sections.Pairwise fun first second =>
      first.header.name.start ≤ second.header.name.start := by
  have across := (List.pairwise_flatMap.mp (pairwise_sections read)).2
  exact across.imp fun apart =>
    Piece.start_le_of_stop_lt (apart _ List.mem_cons_self _ List.mem_cons_self)

/-- What is found of a structural kind is found in the order of the text. -/
theorem ordered_findings (read : Outline.ofText text = .ok outline) {kind : Problem.Kind}
    (structural : kind.isStructural = true) :
    (ofKind kind (findings outline)).Pairwise fun first second => first.start ≤ second.start := by
  cases kind with
  | strayContent =>
      rw [strays_findings, strays_eq_strayLines read, List.pairwise_map]
      exact (pairwise_strayLines text).imp Piece.start_le_of_stop_lt
  | repeatedImport =>
      rw [repeatedImports_findings, ← repeats_eq_repeated, List.pairwise_map]
      have imports := List.pairwise_map.mp (pairwise_imports read)
      exact (imports.sublist (repeats_sublist _ _ _)).imp Piece.start_le_of_stop_lt
  | repeatedTemplate =>
      rw [repeatedTemplates_findings, ← repeats_eq_repeated, List.pairwise_map]
      exact (ordered_templates read).sublist (repeats_sublist _ _ _)
  | emptyTemplate =>
      rw [emptyTemplates_findings, List.pairwise_map]
      exact (ordered_templates read).sublist List.filter_sublist
  | repeatedParameter =>
      obtain ⟨inside, across⟩ := List.pairwise_flatMap.mp (pairwise_sections read)
      rw [repeatedParameters_findings, List.pairwise_flatMap]
      simp only [← repeats_eq_repeated, List.forall_mem_map]
      constructor
      · intro part listed
        rw [List.pairwise_map]
        have parameters := (List.pairwise_cons.mp (inside part listed)).2
        exact (parameters.sublist (repeats_sublist _ _ _)).imp Piece.start_le_of_stop_lt
      · apply across.imp
        intro first second apart parameter repeatedOne other repeatedOther
        exact Piece.start_le_of_stop_lt (apart parameter
          (List.mem_cons_of_mem _ (mem_of_mem_repeats repeatedOne)) other
          (List.mem_cons_of_mem _ (mem_of_mem_repeats repeatedOther)))
  | unclosedExpression => cases structural
  | unknownFunction => cases structural

end Check

theorem Grammar.within_of_mem_pieces (read : Outline.ofText text = .ok outline) {piece : Piece}
    (recorded : piece ∈ outline.pieces) : piece.Within ⟨0, text⟩ := by
  obtain ⟨front, blocks, apart, covers⟩ := covers_ofText read
  obtain ⟨line, member, within⟩ := covers.within_line recorded
  exact within.trans (apart.picks.within line member)

/-- What an outline records one after the other starts at positions one after the other. -/
theorem Grammar.pairwise_before_of_recorded (read : Outline.ofText text = .ok outline)
    {pieces : List Piece} (recorded : ∀ piece ∈ pieces, piece ∈ outline.pieces)
    (ordered : pieces.Pairwise fun first second => first.stop < second.start) :
    pieces.Pairwise fun first second =>
      (positionOf text first.start).Before (positionOf text second.start) := by
  apply ordered.imp_of_mem
  intro first second listed listedAgain apart
  have within := within_of_mem_pieces read (recorded first listed)
  have withinAgain := within_of_mem_pieces read (recorded second listedAgain)
  apply within.boundary_start.positionOf_before withinAgain.boundary_start
  unfold Piece.stop at apart
  omega

end Places

/-- The structural checks are exact: each kind of diagnostic is about what it should be about, once
for each, and the diagnostics are all there is to find, by where they start and then in the order of
the checks. They are sent with their ranges as they are if the text takes less than 2 ^ 32 bytes. -/
theorem Reading.ofText_tells_structure (source : String) {text : String} {outline : Outline}
    (read : Outline.ofText text.toList = .ok outline) :
    (Reading.ofText source text).TellsStructure source text.toList outline ∧
    (bytes text.toList < UInt32.size → ∀ diagnostic ∈ (Reading.ofText source text).diagnostics,
      diagnostic.range.wrapped = diagnostic.range) := by
  refine ⟨?_, fun small _ => Reading.wrapped_range small⟩
  have reading : Reading.ofText source text =
      ⟨outline.sections.map (Template.ofSection source),
        Check.diagnostics text.toList outline⟩ := by
    unfold Reading.ofText
    rw [read]
  have kinds {kind : Problem.Kind} (structural : kind.isStructural = true) :=
    Check.ofKind_diagnostics text.toList (Check.ordered_findings read structural)
  rw [reading]
  constructor
  case templates => rfl
  case strays =>
    rw [← strays_eq_strayLines read, ← Check.strays_findings]
    exact kinds rfl
  case repeatedImports =>
    rw [← Check.repeatedImports_findings]
    exact kinds rfl
  case repeatedTemplates =>
    rw [← Check.repeatedTemplates_findings]
    exact kinds rfl
  case repeatedParameters =>
    rw [← Check.repeatedParameters_findings]
    exact kinds rfl
  case emptyTemplates =>
    have hollow : (outline.sections.filter fun part => (Template.ofSection source part).body = "") =
        outline.sections.filter Section.isHollow := by
      apply List.filter_congr
      intro part _
      rw [Bool.eq_iff_iff, decide_eq_true_iff]
      exact part.body_eq_empty_iff
    rw [hollow, ← Check.emptyTemplates_findings]
    exact kinds rfl
  case places =>
    simp only [List.forall_mem_cons]
    refine ⟨?_, ?_, ?_, fun _ => nofun⟩
    · apply pairwise_before_of_recorded read _ (pairwise_strayLines _)
      intro line stray
      rw [← strays_eq_strayLines read] at stray
      exact List.mem_append_left _ (List.mem_append_left _ stray)
    · apply pairwise_before_of_recorded read _ (pairwise_imports read)
      intro line imported
      exact List.mem_append_left _ (List.mem_append_right _ imported)
    · apply pairwise_before_of_recorded read _ (pairwise_sections read)
      intro piece named
      obtain ⟨part, listed, member⟩ := List.mem_flatMap.mp named
      exact List.mem_append_right _
        (List.mem_flatMap.mpr ⟨part, listed, List.mem_append_left _ member⟩)
  case all =>
    rw [← Check.findings_eq_emission read]
    exact List.mergeSort_perm _ _
  case sorted =>
    exact List.pairwise_mergeSort
      (fun first second third => @Diagnostic.startsBefore_trans first second third)
      Diagnostic.startsBefore_total _
  case ties =>
    intro position
    rw [← Check.findings_eq_emission read]
    apply Diagnostic.filter_mergeSort
    rw [List.pairwise_filter]
    apply List.pairwise_of_forall
    intro first second here there
    unfold Diagnostic.startsBefore
    rw [of_decide_eq_true here, of_decide_eq_true there]
    exact Position.le_refl position

/-- A text with a line before the first header and one there that shows nothing, a path that is
imported twice, a repeated parameter, and a second template of the same name, of which neither has a
body: two diagnostics start at the name of the second one. -/
theorem ofText_tells_two_problems_at_one_name :
    ∃ outline, Outline.ofText "x\n \n[a](f)\n# T(p, p)\n[b]( f )\n# T\n\t".toList = .ok outline ∧
      (Check.emission "x\n \n[a](f)\n# T(p, p)\n[b]( f )\n# T\n\t".toList outline).map
          Finding.problem =
        [.strayContent, .repeatedImport "f" "b", .repeatedParameter "p" "T", .emptyTemplate "T",
          .repeatedTemplate "T", .emptyTemplate "T"] ∧
      (((Reading.ofText "" "x\n \n[a](f)\n# T(p, p)\n[b]( f )\n# T\n\t").diagnostics.filter
          fun diagnostic => diagnostic.range.start = ⟨5, 2⟩) =
        [⟨.error, ⟨⟨5, 2⟩, ⟨5, 3⟩⟩, "Duplicated definitions found for template: \x27T\x27"⟩,
          ⟨.warning, ⟨⟨5, 2⟩, ⟨5, 3⟩⟩, "There is no template body in template \x27T\x27"⟩]) ∧
      (Reading.ofText "" "x\n \n[a](f)\n# T(p, p)\n[b]( f )\n# T\n\t").TellsStructure ""
        "x\n \n[a](f)\n# T(p, p)\n[b]( f )\n# T\n\t".toList outline := by
  have read : Outline.ofText "x\n \n[a](f)\n# T(p, p)\n[b]( f )\n# T\n\t".toList =
      .ok ⟨[⟨0, ['x']⟩, ⟨2, [' ']⟩],
        [⟨⟨⟨13, ['T']⟩, [⟨15, ['p']⟩, ⟨18, ['p']⟩]⟩, []⟩, ⟨⟨⟨32, ['T']⟩, []⟩, [⟨34, ['\t']⟩]⟩],
        [⟨['a'], ['f'], ⟨4, "[a](f)".toList⟩⟩, ⟨['b'], ['f'], ⟨21, "[b]( f )".toList⟩⟩]⟩ := by
    decide +kernel
  have tells := (Reading.ofText_tells_structure "" read).1
  refine ⟨_, read, by decide +kernel, ?_, tells⟩
  rw [tells.ties]
  decide +kernel

end TemplateServer
