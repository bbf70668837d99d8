import TemplateServer.Hover
import TemplateServer.Proofs.Check.Expression
import TemplateServer.Proofs.Text.Word

/-!
Hovering and checking. The word under the cursor is found from the whole text and a called name from
the expression it stands in, and each is looked up by a rule of its own. Main statement: with the
cursor at a called name that does not end in a dot, something is shown if and only if the call is not
reported as unknown, and it is shown for the range of the name.
-/

namespace TemplateServer

open Text Grammar Expression

/-! ### Names that show something -/

theorem isSome_find?_name {templates : List Template} {word : String} :
    (templates.find? fun template => template.name == word).isSome ↔
      word ∈ templates.map Template.name := by
  rw [List.find?_isSome, List.mem_map]
  simp only [beq_iff_eq]

/-- A word shows something if and only if a call of it is known. -/
theorem Hover.isSome_contents? (templates : List Template) (word : String) :
    (Hover.contents? templates word).isSome ↔
      Check.resolves (templates.map Template.name) word = true := by
  have template : (Hover.template? templates word).isSome ↔
      word ∈ templates.map Template.name ∨
        Builtin.unqualified word ∈ templates.map Template.name := by
    unfold Hover.template?
    rw [Option.isSome_or, Bool.or_eq_true, isSome_find?_name, isSome_find?_name]
  unfold Check.resolves
  simp only [Bool.or_eq_true, List.contains_iff_mem]
  rw [← template]
  unfold Hover.contents?
  cases Hover.template? templates word with
  | some found => simp
  | none => simp

theorem Analysis.templates_of_ofText (source : String) {text : String} {outline : Outline}
    (read : Outline.ofText text.toList = .ok outline) :
    (Analysis.ofText source text).templates =
      outline.sections.map (Template.ofSection source) := by
  unfold Analysis.ofText
  by_cases empty : text.isEmpty = true
  · have blank : text = "" := String.isEmpty_iff.mp empty
    subst blank
    have nothing : Outline.ofText "".toList = .ok ⟨[⟨0, []⟩], [], []⟩ := rfl
    rw [nothing] at read
    cases read
    rfl
  · rw [if_neg empty]
    change (Reading.ofText source text).templates = _
    unfold Reading.ofText
    rw [read]

/-! ### The word at a call -/

variable {text : List Char} {line call : Piece}

/-- In the whole text, too, a called name is a run of word characters between others. -/
theorem exists_surroundings_in_text (within : line.Within ⟨0, text⟩) (stands : CallIn line call) :
    ∃ before after, text = before ++ (call.chars ++ after) ∧ call.start = bytes before ∧
      (∀ c, before.getLast? = some c → isWordChar c = false) ∧ Stops isWordChar after := by
  obtain ⟨above, below, whole, lineStart⟩ := within
  obtain ⟨before, after, chars, start, ⟨last, ends, refused⟩, ⟨next, head, stopping⟩⟩ :=
    stands.exists_surroundings
  refine ⟨above ++ before, after ++ below, ?_, ?_, ?_, ?_⟩
  · change text = _ at whole
    rw [whole, chars]
    simp
  · change line.start = 0 + bytes above at lineStart
    rw [start, lineStart, bytes_append]
    omega
  · intro c same
    rw [List.getLast?_append, ends] at same
    rw [← Option.some.inj same]
    exact refused
  · intro c same
    rw [List.head?_append, head] at same
    rw [← Option.some.inj same]
    exact stopping

/-- The word at each place of a called name is that name. -/
theorem wordAt?_of_callIn (within : line.Within ⟨0, text⟩) (stands : CallIn line call)
    (undotted : call.chars.getLast? ≠ some '.') {position : Position} {offset : Nat}
    (reached : offsetOf? text position = some offset) (notBefore : call.start ≤ offset)
    (notAfter : offset ≤ call.stop) : wordAt? text position = some call := by
  obtain ⟨before, after, whole, start, leftEnd, rightEnd⟩ :=
    exists_surroundings_in_text within stands
  obtain ⟨c, tail, named, starts, word⟩ := stands.exists_name
  have filled : call.chars ≠ [] := by
    rw [named]
    exact List.cons_ne_nil c tail
  have undottedStart : call.chars.head? ≠ some '.' := by
    rw [named]
    rintro ⟨⟩
    revert starts
    decide
  rw [wordAt?_of_ends whole start word leftEnd rightEnd reached notBefore notAfter]
  apply undotted?_of_undots
  refine ⟨⟨[], [], ?_, rfl, fun _ => nofun, fun _ => nofun⟩, filled, undottedStart, undotted⟩
  exact (List.append_nil call.chars).symm

/-! ### Reports -/

/-- A call is reported if and only if it is not known. -/
theorem Check.mem_diagnostics_iff {outline : Outline} (read : Outline.ofText text = .ok outline)
    {part : Section} (listed : part ∈ outline.sections) (member : line ∈ part.lines)
    (stands : CallIn line call) :
    Finding.toDiagnostic text (Check.callFinding call) ∈ Check.diagnostics text outline ↔
      Check.resolves (outline.sections.map Section.name) call.text = false := by
  have reports := Check.unknownReports_perm text outline
  have within : call.Within ⟨0, text⟩ := stands.within.trans
    ((picks_bodyLines read).within line (List.mem_flatMap.mpr ⟨part, listed, member⟩))
  have told : Problem.unknownEnding <:+
      (Finding.toDiagnostic text (Check.callFinding call)).message.toList :=
    (Problem.unknownEnding_suffix_iff _).mpr rfl
  have selected : Finding.toDiagnostic text (Check.callFinding call) ∈
      Check.diagnostics text outline ↔ call ∈ Check.unknownCalls outline := by
    constructor
    · intro reported
      have filtered := reports.mem_iff.mp (List.mem_filter.mpr ⟨reported, decide_eq_true told⟩)
      obtain ⟨other, unknown, same⟩ := List.mem_map.mp filtered
      have ranges : other.range text = call.range text := congrArg Diagnostic.range same
      rw [← eq_of_range_eq (Check.within_of_mem_unknownCalls read unknown) within ranges]
      exact unknown
    · intro unknown
      have filtered := reports.mem_iff.mpr (List.mem_map.mpr ⟨call, unknown, rfl⟩)
      exact (List.mem_filter.mp filtered).1
  rw [selected, Check.mem_unknownCalls, ← Check.resolves_iff, Bool.not_eq_true]
  exact and_iff_right ⟨part, listed, line, member, stands⟩

/-! ### The main statement -/

/-- With the cursor at a called name that does not end in a dot, something is shown if and only if
the call is not reported, and it is shown for the range that a report would have. -/
theorem Hover.at?_agrees_with_reports (source : String) {text : String} {outline : Outline}
    (read : Outline.ofText text.toList = .ok outline) {part : Section}
    (listed : part ∈ outline.sections) {line : Piece} (member : line ∈ part.lines) {start : Nat}
    {content : List Char}
    (closed : (start, Segment.closed content) ∈ locate line.start (segments line.chars))
    {call : Piece} (called : call ∈ calls (start + 2) content)
    (undotted : call.chars.getLast? ≠ some '.') {position : Position} {offset : Nat}
    (reached : offsetOf? text.toList position = some offset) (notBefore : call.start ≤ offset)
    (notAfter : offset ≤ call.stop) :
    let hover := Hover.at? text (Analysis.ofText source text).templates position
    let report : Diagnostic := ⟨.error, rangeOf text.toList call.start call.stop,
      "\x27" ++ call.text ++ "\x27 is neither a template nor a builtin function"⟩
    (hover.isSome ↔ report ∉ (Reading.ofText source text).diagnostics) ∧
      ∀ shown, hover = some shown → shown.range = report.range := by
  have stands : CallIn line call :=
    Check.mem_lineCalls.mp (List.mem_flatMap.mpr ⟨_, closed, called⟩)
  have within := (picks_bodyLines read).within line (List.mem_flatMap.mpr ⟨part, listed, member⟩)
  have word := wordAt?_of_callIn within stands undotted reached notBefore notAfter
  have found : Hover.at? text (Analysis.ofText source text).templates position =
      (Hover.contents? (outline.sections.map (Template.ofSection source)) call.text).map
        fun contents => ⟨contents, call.range text.toList⟩ := by
    unfold Hover.at?
    rw [word, Analysis.templates_of_ofText source read]
  have names : (outline.sections.map (Template.ofSection source)).map Template.name =
      outline.sections.map Section.name := by
    rw [List.map_map]
    rfl
  intro hover report
  have checked : (Reading.ofText source text).diagnostics =
      Check.diagnostics text.toList outline := by
    unfold Reading.ofText
    rw [read]
  have reported : report ∈ (Reading.ofText source text).diagnostics ↔
      Check.resolves (outline.sections.map Section.name) call.text = false := by
    rw [checked]
    exact Check.mem_diagnostics_iff read listed member stands
  constructor
  · rw [reported, Bool.not_eq_false, ← names, ← Hover.isSome_contents?]
    change (Hover.at? text (Analysis.ofText source text).templates position).isSome = true ↔ _
    rw [found, Option.isSome_map]
  · intro shown same
    have shows := found.symm.trans same
    obtain ⟨contents, _, rfl⟩ := Option.map_eq_some_iff.mp shows
    rfl

/-- The cursor at the end of a qualified name, after a character that takes two columns. -/
theorem shown_at_end_of_qualified_name :
    offsetOf? "# A\n- 😀$\x7bbuiltin.A(1)\x7d".toList ⟨1, 15⟩ = some 21 ∧
      (Hover.at? "# A\n- 😀$\x7bbuiltin.A(1)\x7d"
        (Analysis.ofText "" "# A\n- 😀$\x7bbuiltin.A(1)\x7d").templates ⟨1, 15⟩).isSome ∧
      ⟨.error, rangeOf "# A\n- 😀$\x7bbuiltin.A(1)\x7d".toList 12 21,
          "\x27builtin.A\x27 is neither a template nor a builtin function"⟩ ∉
        (Reading.ofText "" "# A\n- 😀$\x7bbuiltin.A(1)\x7d").diagnostics := by
  have read : Outline.ofText "# A\n- 😀$\x7bbuiltin.A(1)\x7d".toList =
      .ok ⟨[], [⟨⟨⟨2, ['A']⟩, []⟩, [⟨4, "- 😀$\x7bbuiltin.A(1)\x7d".toList⟩]⟩], []⟩ := by
    decide +kernel
  have closed : (10, Segment.closed "builtin.A(1)".toList) ∈
      locate 4 (segments "- 😀$\x7bbuiltin.A(1)\x7d".toList) := by
    decide +kernel
  have called : ⟨12, "builtin.A".toList⟩ ∈ calls 12 "builtin.A(1)".toList := by decide +kernel
  have reached : offsetOf? "# A\n- 😀$\x7bbuiltin.A(1)\x7d".toList ⟨1, 15⟩ = some 21 := by
    decide +kernel
  have shown : (Hover.at? "# A\n- 😀$\x7bbuiltin.A(1)\x7d"
      (Analysis.ofText "" "# A\n- 😀$\x7bbuiltin.A(1)\x7d").templates ⟨1, 15⟩).isSome := by
    decide +kernel
  have agrees := Hover.at?_agrees_with_reports "" read (List.mem_singleton.mpr rfl)
    (List.mem_singleton.mpr rfl) closed called (by decide) reached (by decide) (by decide)
  exact ⟨reached, shown, agrees.1.mp shown⟩

end TemplateServer
