import TemplateServer.Proofs.Check.Relocation
import TemplateServer.Proofs.Completion.Print

/-!
The order of definitions. A text can be put together from definitions, each a header with the lines
of a body and the comments under it. What is read in a definition depends on its characters alone;
what is found there also on which names are defined, but not on where. Main statement: if the
definitions change places, then so do the templates, and the diagnostics tell the same.
-/

namespace TemplateServer

open Text

namespace Grammar

/-! ### Definitions -/

instance (row : List Char) : Decidable (row ∈ Form.header) :=
  decidable_of_iff _ (Form.mem_header ⟨0, row⟩).symm

instance (row : List Char) : Decidable (row ∈ Form.marked '>') :=
  decidable_of_iff _ (Form.mem_marked row rfl).symm

instance (row : List Char) : Decidable (row ∈ Form.body) :=
  decidable_of_iff _ (@ofLine_eq_body_iff ⟨0, row⟩)

instance (row : List Char) : Decidable (Plain row) :=
  List.decidableBAll (fun c => isLineBreak c = false) row

/-- A header and the lines under it, none of which is an import. -/
structure Definition where
  heading : List Char
  below : List (List Char)
  headed : heading ∈ Form.header
  proper : ∀ row ∈ below, row ∈ Form.body ∨ row ∈ Form.marked '>'
  plain : ∀ row ∈ heading :: below, Plain row

namespace Definition

variable (definition : Definition)

def rows : List (List Char) :=
  definition.heading :: definition.below

def bodies : List (List Char) :=
  definition.below.filter fun row => row ∉ Form.marked '>'

def header : Header :=
  (Header.ofLine ⟨0, definition.heading⟩).toOption.get
    ((Form.mem_header ⟨0, definition.heading⟩).mp definition.headed).2

def part : Section :=
  ⟨definition.header.relocate fun _ => 0, definition.bodies.map (Piece.mk 0)⟩

def join (definitions : List Definition) : String :=
  String.ofList (['\n'].intercalate (definitions.flatMap rows))

/-- Whether the lines of a text are those of the definitions. A text has a line even if there are no
definitions. -/
def Spell (definitions : List Definition) (text : String) : Prop :=
  (logicalLines text.toList).map Piece.chars =
    if definitions = [] then [[]] else definitions.flatMap rows

theorem spell_join (definitions : List Definition) : Spell definitions (join definitions) := by
  unfold Spell join
  rw [String.toList_ofList]
  split
  · rename_i none
    rw [none]
    rfl
  · rename_i filled
    have some : definitions.flatMap rows ≠ [] := by
      obtain ⟨first, others, rfl⟩ := List.exists_cons_of_ne_nil filled
      exact List.cons_ne_nil _ _
    apply chars_linesFrom_intercalate some
    intro row member
    obtain ⟨definition, _, among⟩ := List.mem_flatMap.mp member
    exact definition.plain row among

/-! ### Reading definitions -/

variable {definition} {line : Piece} {lines : List Piece} {outline : Outline}

theorem ofLine_heading (same : line.chars = definition.heading) :
    Entry.ofLine line = .ok (.header (definition.header.relocate (· + line.start))) := by
  obtain ⟨marked, _⟩ := (Form.mem_header ⟨0, definition.heading⟩).mp definition.headed
  have read : Entry.ofLine ⟨0, definition.heading⟩ = .ok (.header definition.header) :=
    ofLine_of_header marked (Option.some_get _).symm
  have moved := Entry.ofLine_relocate (rigid_add line.start ⟨0, definition.heading⟩)
  have place : Piece.relocate (· + line.start) ⟨0, definition.heading⟩ = line := by
    rw [← same]
    change Piece.mk (0 + line.start) line.chars = line
    rw [Nat.zero_add]
  rw [place, read] at moved
  exact moved

theorem ofLine_comment (marked : line.chars ∈ Form.marked '>') :
    Entry.ofLine line = .ok (.comment line) := by
  unfold Entry.ofLine
  rw [(Form.mem_marked line.chars rfl).mp marked]
  rfl

/-- Lines of a body and comments in front of other lines. -/
theorem ofLines_below {later : List Piece} (read : Outline.ofLines later = .ok outline)
    (proper : ∀ line ∈ lines, line.chars ∈ Form.body ∨ line.chars ∈ Form.marked '>') :
    Outline.ofLines (lines ++ later) = .ok { outline with
      lead := (lines.filter fun line => line.chars ∉ Form.marked '>') ++ outline.lead } := by
  induction lines with
  | nil => exact read
  | cons line lines ih =>
      have following := ih fun other member => proper other (List.mem_cons_of_mem line member)
      rw [List.cons_append, Outline.ofLines_cons, following]
      rcases proper line List.mem_cons_self with body | comment
      · rw [ofLine_eq_body_iff.mpr body, List.filter_cons_of_pos (by simpa using body.2.2)]
        rfl
      · rw [ofLine_comment comment, List.filter_cons_of_neg (by simpa using comment)]
        rfl

theorem exists_ofLines {definitions : List Definition}
    (same : lines.map Piece.chars = definitions.flatMap rows) :
    ∃ outline, Outline.ofLines lines = .ok outline ∧ outline.lead = [] ∧ outline.imports = [] ∧
      outline.sections.map (Section.relocate fun _ => 0) = definitions.map part := by
  induction definitions generalizing lines with
  | nil =>
      obtain rfl := List.map_eq_nil_iff.mp same
      exact ⟨.empty, rfl, rfl, rfl, rfl⟩
  | cons definition definitions ih =>
      rw [List.flatMap_cons] at same
      obtain ⟨first, later, rfl, mine, others⟩ := List.map_eq_append_iff.mp same
      obtain ⟨heading, lines, rfl, head, below⟩ := List.map_eq_cons_iff.mp mine
      obtain ⟨outline, following, leadless, importless, parts⟩ := ih others
      have proper : ∀ line ∈ lines, line.chars ∈ Form.body ∨ line.chars ∈ Form.marked '>' := by
        intro line member
        apply definition.proper
        rw [← below]
        exact List.mem_map_of_mem member
      have read := ofLines_below following proper
      rw [leadless, List.append_nil] at read
      refine ⟨Outline.cons (.header (definition.header.relocate (· + heading.start)))
        { outline with lead := lines.filter fun line => line.chars ∉ Form.marked '>' },
        ?_, rfl, importless, ?_⟩
      · rw [List.cons_append, Outline.ofLines_cons, ofLine_heading head, read]
        rfl
      · change Section.relocate _ ⟨_, lines.filter _⟩ :: outline.sections.map _ = _
        rw [parts, List.map_cons]
        congr 1
        unfold Section.relocate part bodies Header.relocate
        rw [← below, List.filter_map, List.map_map, List.map_map]
        rfl

/-- A text with the lines of definitions has an outline, in which there is nothing but them. -/
theorem Spell.exists_ofText {definitions : List Definition} {text : String}
    (spelled : Spell definitions text) :
    ∃ outline, Outline.ofText text.toList = .ok outline ∧ outline.strays = [] ∧
      outline.imports = [] ∧
      outline.sections.map (Section.relocate fun _ => 0) = definitions.map part := by
  unfold Spell at spelled
  split at spelled
  · rename_i none
    obtain ⟨line, lines, parts, empty, rest⟩ := List.map_eq_cons_iff.mp spelled
    obtain rfl := List.map_eq_nil_iff.mp rest
    have body : line.chars ∈ Form.body := by
      rw [empty]
      exact nil_mem_body
    refine ⟨⟨[line], [], []⟩, ?_, ?_, rfl, ?_⟩
    · change Outline.ofLines (logicalLines text.toList) = _
      rw [parts, Outline.ofLines_cons, ofLine_eq_body_iff.mpr body]
      rfl
    · unfold Outline.strays
      simp [empty, isEmptyToEye]
    · rw [none]
      rfl
  · obtain ⟨outline, read, leadless, importless, parts⟩ := exists_ofLines spelled
    refine ⟨outline, read, ?_, importless, parts⟩
    unfold Outline.strays
    rw [leadless]
    rfl

end Definition

end Grammar

/-! ### Problems without their places -/

open Grammar

namespace Check

variable {templates : List String}

theorem problem_lineFindings (line : Piece) :
    (lineFindings templates line).map Finding.problem =
      (lineFindings templates ⟨0, line.chars⟩).map Finding.problem := by
  have moved := lineFindings_add templates line.start line.chars
  change lineFindings templates line = _ at moved
  rw [moved, List.map_map]
  rfl

/-- The problems with a template that is the first of its name do not depend on where it stands. -/
theorem problem_sectionFindings (place : Nat → Nat) (part : Section) :
    (sectionFindings templates [] (part.relocate place)).map Finding.problem =
      (sectionFindings templates [] part).map Finding.problem := by
  have hollow : (part.relocate place).isHollow = part.isHollow := by
    unfold Section.isHollow Section.relocate
    rw [List.all_map]
    rfl
  have parameters : ((repeats Piece.chars [] (part.relocate place).header.parameters).map
      (parameterFinding (part.relocate place))).map Finding.problem =
        ((repeats Piece.chars [] part.header.parameters).map (parameterFinding part)).map
          Finding.problem := by
    change ((repeats Piece.chars [] (part.header.parameters.map (Piece.relocate place))).map _).map
      _ = _
    rw [repeats_map, List.map_map, List.map_map, List.map_map]
    rfl
  have lines : ((part.relocate place).lines.flatMap (lineFindings templates)).map Finding.problem =
      (part.lines.flatMap (lineFindings templates)).map Finding.problem := by
    change ((part.lines.map (Piece.relocate place)).flatMap _).map _ = _
    rw [List.flatMap_map, List.map_flatMap, List.map_flatMap]
    apply List.flatMap_congr
    intro line _
    rw [problem_lineFindings, problem_lineFindings line]
    rfl
  unfold sectionFindings
  simp only [List.map_append]
  rw [parameters, lines, hollow]
  congr 2
  split
  · rfl
  · rfl

theorem resolves_congr {others : List String} (same : ∀ name, name ∈ templates ↔ name ∈ others) :
    resolves templates = resolves others := by
  funext name
  unfold resolves
  rw [Bool.eq_iff_iff]
  simp only [Bool.or_eq_true, List.contains_iff_mem, same]

theorem sectionFindings_congr {others : List String}
    (same : ∀ name, name ∈ templates ↔ name ∈ others) (part : Section) :
    sectionFindings templates [] part = sectionFindings others [] part := by
  have lines : lineFindings templates = lineFindings others := by
    have segments : segmentFindings templates = segmentFindings others := by
      funext item
      obtain ⟨start, segment⟩ := item
      cases segment with
      | escape c => rfl
      | plain c => rfl
      | unclosed rest => rfl
      | closed content =>
          unfold segmentFindings
          rw [resolves_congr same]
    funext line
    unfold lineFindings
    rw [segments]
  unfold sectionFindings
  rw [lines]

/-! ### Repeated names -/

theorem count_repeats (name : String) (seen names : List String) :
    (repeats id seen names).count name =
      if name ∈ seen then names.count name else names.count name - 1 := by
  induction names generalizing seen with
  | nil => simp [repeats]
  | cons first names ih =>
      rw [repeats]
      by_cases same : first = name
      · subst same
        by_cases known : first ∈ seen
        · simp [ih, known]
        · simp [ih, known]
      · by_cases known : first ∈ seen
        · simp [ih, known, same, Ne.symm same]
        · simp [ih, known, same, Ne.symm same]

/-- How often a name is repeated does not depend on which of its bearers comes first. -/
theorem repeats_perm {names others : List String} (permuted : names.Perm others) :
    (repeats id [] names).Perm (repeats id [] others) := by
  rw [List.perm_iff_count]
  intro name
  rw [count_repeats, count_repeats, permuted.count_eq]

/-! ### Problems up to their order -/

/-- The problems with templates: first those with their names, then those with each of them. -/
def tally (parts : List Section) : List Problem :=
  (repeats id [] (parts.map Section.name)).map Problem.repeatedTemplate ++
    parts.flatMap fun part =>
      (sectionFindings (parts.map Section.name) [] part).map Finding.problem

theorem sectionFindings_eq_append (earlier : List String) (part : Section) :
    sectionFindings templates earlier part =
      (if part.name ∈ earlier then
        [Finding.about (.repeatedTemplate part.name) part.header.name] else []) ++
        sectionFindings templates [] part := by
  unfold sectionFindings
  simp only [List.append_assoc, List.not_mem_nil, if_false, List.nil_append]

theorem sectionsFindings_perm (templates earlier : List String) (parts : List Section) :
    ((sectionsFindings templates earlier parts).map Finding.problem).Perm
      ((repeats id earlier (parts.map Section.name)).map Problem.repeatedTemplate ++
        parts.flatMap fun part => (sectionFindings templates [] part).map Finding.problem) := by
  induction parts generalizing earlier with
  | nil => exact .refl _
  | cons part parts ih =>
      rw [sectionsFindings, sectionFindings_eq_append, List.map_cons, repeats, List.flatMap_cons,
        List.map_append, List.map_append, id_eq]
      have later := ih (part.name :: earlier)
      split
      · apply List.Perm.cons
        refine (later.append_left _).trans ?_
        exact List.perm_append_comm_assoc _ _ _
      · refine (later.append_left _).trans ?_
        exact List.perm_append_comm_assoc _ _ _

theorem tally_relocate (place : Nat → Nat) (parts : List Section) :
    tally (parts.map (Section.relocate place)) = tally parts := by
  have names : (parts.map (Section.relocate place)).map Section.name = parts.map Section.name := by
    rw [List.map_map]
    rfl
  unfold tally
  rw [names, List.flatMap_map]
  simp only [problem_sectionFindings]

theorem tally_perm {parts others : List Section} (permuted : parts.Perm others) :
    (tally parts).Perm (tally others) := by
  have names := permuted.map Section.name
  unfold tally
  apply List.Perm.append
  · exact (repeats_perm names).map _
  · simp only [sectionFindings_congr fun name => names.mem_iff]
    exact permuted.flatMap_right _

end Check

/-! ### The main statement -/

/-- What a diagnostic tells, without its range. -/
def Diagnostic.told (diagnostic : Diagnostic) : Severity × String :=
  (diagnostic.severity, diagnostic.message)

theorem Check.told_diagnostics {text : List Char} {outline : Outline} (stray : outline.strays = [])
    (importless : outline.imports = []) :
    ((diagnostics text outline).map Diagnostic.told).Perm
      ((tally outline.sections).map fun problem => (problem.severity, problem.message)) := by
  have whole : findings outline =
      sectionsFindings (outline.sections.map Section.name) [] outline.sections := by
    unfold findings
    rw [stray, importless]
    rfl
  have sorted := (List.mergeSort_perm ((findings outline).map (Finding.toDiagnostic text))
    Diagnostic.startsBefore).map Diagnostic.told
  refine sorted.trans ?_
  have problems := (sectionsFindings_perm (outline.sections.map Section.name) []
    outline.sections).map fun problem => (problem.severity, problem.message)
  rw [← whole, List.map_map] at problems
  rw [List.map_map]
  exact problems

def Grammar.Definition.template (source : String) (definition : Definition) : Template :=
  .ofSection source definition.part

/-- What is read in a text with the lines of definitions. -/
theorem Grammar.Definition.Spell.reading (source : String) {definitions : List Definition}
    {text : String} (spelled : Definition.Spell definitions text) :
    (∃ outline, Outline.ofText text.toList = .ok outline) ∧
    (Reading.ofText source text).templates =
      definitions.map (Definition.template source) ∧
    ((Reading.ofText source text).diagnostics.map Diagnostic.told).Perm
      ((Check.tally (definitions.map Definition.part)).map fun problem =>
        (problem.severity, problem.message)) := by
  obtain ⟨outline, read, stray, importless, parts⟩ := spelled.exists_ofText
  refine ⟨⟨outline, read⟩, ?_, ?_⟩
  · unfold Reading.ofText
    rw [read]
    have templates := congrArg (List.map (Template.ofSection source)) parts
    rw [List.map_map, List.map_map] at templates
    refine Eq.trans ?_ templates
    apply List.map_congr_left
    intro part _
    exact (Template.ofSection_relocate source _ part).symm
  · unfold Reading.ofText
    rw [read, ← parts, Check.tally_relocate]
    exact Check.told_diagnostics stray importless

/-- Definitions can change places: joined by line feeds or otherwise made the lines of a text, they
are read as templates in their order, and what the diagnostics tell is the same in any order. -/
theorem Reading.ofText_permuted (source : String) {definitions others : List Definition}
    (permuted : definitions.Perm others) {text other : String}
    (spelled : Definition.Spell definitions text) (spelledAgain : Definition.Spell others other) :
    (∀ list, Definition.Spell list (Definition.join list)) ∧
    (∃ outline, Outline.ofText text.toList = .ok outline) ∧
    (∃ outline, Outline.ofText other.toList = .ok outline) ∧
    (Reading.ofText source text).templates =
      definitions.map (Definition.template source) ∧
    (Reading.ofText source other).templates =
      others.map (Definition.template source) ∧
    ((Reading.ofText source text).diagnostics.map Diagnostic.told).Perm
      ((Reading.ofText source other).diagnostics.map Diagnostic.told) := by
  obtain ⟨outline, templates, told⟩ := spelled.reading source
  obtain ⟨outlineAgain, templatesAgain, toldAgain⟩ := spelledAgain.reading source
  refine ⟨Definition.spell_join, outline, outlineAgain, templates, templatesAgain, ?_⟩
  have same := (Check.tally_perm (permuted.map Definition.part)).map fun problem =>
    (problem.severity, problem.message)
  exact told.trans (same.trans toldAgain.symm)

/-- Two templates of one name, of which one calls a template that comes after it and one a function
that is not known, and between them a template without a body; and the same in another order. -/
theorem Reading.ofText_permuted_duplicates :
    ∃ first second third : Definition,
      Definition.join [first, second, third] =
        "# A(p, p)\n- $\x7bB()\x7d\n# B\n> c\n# A\n- $\x7bnope()\x7d" ∧
      Definition.join [third, first, second] =
        "# A\n- $\x7bnope()\x7d\n# A(p, p)\n- $\x7bB()\x7d\n# B\n> c" ∧
      ((Reading.ofText "" (Definition.join [first, second, third])).diagnostics.map
          Diagnostic.told).Perm
        ((Reading.ofText "" (Definition.join [third, first, second])).diagnostics.map
          Diagnostic.told) := by
  have permuted (first second third : Definition) :
      [first, second, third].Perm [third, first, second] :=
    List.perm_append_singleton third [first, second]
  refine ⟨⟨"# A(p, p)".toList, ["- $\x7bB()\x7d".toList], ?_, ?_, ?_⟩,
    ⟨"# B".toList, ["> c".toList], ?_, ?_, ?_⟩,
    ⟨"# A".toList, ["- $\x7bnope()\x7d".toList], ?_, ?_, ?_⟩, ?_, ?_,
    (Reading.ofText_permuted "" (permuted _ _ _) (Definition.spell_join _)
      (Definition.spell_join _)).2.2.2.2.2⟩
  all_goals decide +kernel

end TemplateServer
