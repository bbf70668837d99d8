import TemplateServer.Proofs.Check.Finding
import TemplateServer.Proofs.Expression.Call
import TemplateServer.Proofs.Expression.Segment
import TemplateServer.Proofs.Grammar.Account
import TemplateServer.Proofs.Text.Position

/-!
What is reported about expressions. Main statement: the diagnostics about unknown functions are one
for each call in a closed expression that no template and no builtin function answers to, at the
bytes of the called name, and those about missing braces are one for each line with an unclosed
expression.
-/

namespace TemplateServer

open Text Grammar Expression

/-! ### Expressions in a line -/

def Expression.CallIn (line call : Piece) : Prop :=
  ∃ before content after, line.chars = before ++ '$' :: '{' :: (content ++ '}' :: after) ∧
    Passes before ∧ Balanced content ∧ CallStands (line.start + bytes before + 2) content call

def Expression.UnclosedIn (line expression : Piece) : Prop :=
  ∃ before rest, line.chars = before ++ '$' :: '{' :: rest ∧ Passes before ∧
    (∀ content after, Balanced content → rest ≠ content ++ '}' :: after) ∧
    expression = ⟨line.start + bytes before, '$' :: '{' :: rest⟩

namespace Expression.CallIn

variable {line call : Piece}

/-- The characters next to a called name, which the braces provide where the content does not, are
no word characters. -/
theorem exists_surroundings (stands : CallIn line call) :
    ∃ before after, line.chars = before ++ (call.chars ++ after) ∧
      call.start = line.start + bytes before ∧
      (∃ c, before.getLast? = some c ∧ isWordChar c = false) ∧
      ∃ c, after.head? = some c ∧ isWordChar c = false := by
  obtain ⟨before, content, after, chars, _, _, left, right, calls, start⟩ := stands
  refine ⟨before ++ '$' :: '{' :: left, right ++ '}' :: after, ?_, ?_, ?_, ?_⟩
  · rw [chars, calls.parts]
    simp
  · rw [start, bytes_append, bytes_opened]
    omega
  · rw [List.getLast?_append, List.getLast?_cons, List.getLast?_cons]
    cases final : left.getLast? with
    | none => exact ⟨'{', rfl, by decide⟩
    | some last => exact ⟨last, rfl, calls.leftEnd last final⟩
  · cases right with
    | nil => exact ⟨'}', rfl, by decide⟩
    | cons c right => exact ⟨c, rfl, calls.rightEnd c rfl⟩

theorem within (stands : CallIn line call) : call.Within line := by
  obtain ⟨before, after, chars, start, _, _⟩ := stands.exists_surroundings
  exact ⟨before, after, chars, start⟩

theorem exists_name (stands : CallIn line call) :
    ∃ c tail, call.chars = c :: tail ∧ isCallStart c = true ∧
      ∀ d ∈ call.chars, isWordChar d = true := by
  obtain ⟨_, _, _, _, _, _, left, right, calls, _⟩ := stands
  obtain ⟨c, head, starts⟩ := calls.starts
  obtain ⟨tail, same⟩ := List.head?_eq_some_iff.mp head
  exact ⟨c, tail, same, starts, calls.word⟩

theorem start_lt_stop (stands : CallIn line call) : call.start < call.stop := by
  obtain ⟨c, tail, same, _⟩ := stands.exists_name
  have positive := c.utf8Size_pos
  unfold Piece.stop
  rw [same, bytes_cons]
  omega

end Expression.CallIn

namespace Check

def segmentCalls : Nat × Segment → List Piece
  | (start, .closed content) => calls (start + 2) content
  | _ => []

def lineCalls (line : Piece) : List Piece :=
  (locate line.start (segments line.chars)).flatMap segmentCalls

def segmentUnclosed? : Nat × Segment → Option Piece
  | (start, .unclosed rest) => some ⟨start, (Segment.unclosed rest).chars⟩
  | _ => none

def unclosed? (line : Piece) : Option Piece :=
  (locate line.start (segments line.chars)).findSome? segmentUnclosed?

variable {line call expression : Piece}

theorem mem_lineCalls : call ∈ lineCalls line ↔ CallIn line call := by
  unfold lineCalls
  rw [List.mem_flatMap]
  constructor
  · rintro ⟨⟨offset, segment⟩, member, found⟩
    cases segment with
    | escape c => cases found
    | unclosed rest => cases found
    | plain c => cases found
    | closed content =>
        obtain ⟨before, after, chars, passes, balanced, rfl⟩ := mem_locate_closed.mp member
        exact ⟨before, content, after, chars, passes, balanced, mem_calls.mp found⟩
  · rintro ⟨before, content, after, chars, passes, balanced, stands⟩
    refine ⟨(line.start + bytes before, .closed content), ?_, mem_calls.mpr stands⟩
    exact mem_locate_closed.mpr ⟨before, after, chars, passes, balanced, rfl⟩

/-- An unclosed expression takes the rest of the line, so there is at most one. -/
theorem filterMap_unclosed (start : Nat) (chars : List Char) :
    (locate start (segments chars)).filterMap segmentUnclosed? =
      ((locate start (segments chars)).findSome? segmentUnclosed?).toList := by
  fun_induction segments chars generalizing start with
  | case1 => rfl
  | case2 => rfl
  | case3 c rest ih => exact ih _
  | case4 rest content following split ih => exact ih _
  | case5 rest split => rfl
  | case6 c rest notLone notEscape notOpened ih => exact ih _

theorem unclosed?_eq_some : unclosed? line = some expression ↔ UnclosedIn line expression := by
  have listed : unclosed? line = some expression ↔
      ∃ item ∈ locate line.start (segments line.chars), segmentUnclosed? item = some expression := by
    rw [← List.mem_filterMap, filterMap_unclosed, Option.mem_toList]
    rfl
  rw [listed]
  constructor
  · rintro ⟨⟨offset, segment⟩, member, found⟩
    cases segment with
    | escape c => cases found
    | closed content => cases found
    | plain c => cases found
    | unclosed rest =>
        obtain ⟨before, chars, passes, never, rfl⟩ := mem_locate_unclosed.mp member
        cases found
        exact ⟨before, rest, chars, passes, never, rfl⟩
  · rintro ⟨before, rest, chars, passes, never, rfl⟩
    refine ⟨(line.start + bytes before, .unclosed rest), ?_, rfl⟩
    exact mem_locate_unclosed.mpr ⟨before, chars, passes, never, rfl⟩

instance : DecidablePred fun line => ∃ expression, UnclosedIn line expression :=
  fun line => decidable_of_iff ((unclosed? line).isSome) (by
    rw [Option.isSome_iff_exists]
    exact exists_congr fun _ => unclosed?_eq_some)

/-! ### Their order -/

theorem bounds_of_mem_segmentCalls {item : Nat × Segment} (found : call ∈ segmentCalls item) :
    item.1 ≤ call.start ∧ call.stop ≤ item.1 + bytes item.2.chars := by
  obtain ⟨offset, segment⟩ := item
  cases segment with
  | escape c => cases found
  | unclosed rest => cases found
  | plain c => cases found
  | closed content =>
      obtain ⟨left, right, calls, start⟩ := mem_calls.mp found
      have size : bytes (Segment.closed content).chars = 2 + bytes (content ++ ['}']) :=
        bytes_opened _
      have parts := congrArg bytes calls.parts
      rw [bytes_append, bytes_append] at parts
      rw [bytes_append] at size
      unfold Piece.stop
      simp only
      omega

theorem pairwise_lineCalls (line : Piece) :
    (lineCalls line).Pairwise fun first second => first.stop ≤ second.start := by
  unfold lineCalls
  rw [List.pairwise_flatMap]
  constructor
  · intro item _
    obtain ⟨offset, segment⟩ := item
    cases segment with
    | escape c => exact .nil
    | unclosed rest => exact .nil
    | plain c => exact .nil
    | closed content => exact pairwise_callsIn _ _
  · apply (pairwise_locate _ _).imp
    intro first second apart earlier found later foundLater
    have before := (bounds_of_mem_segmentCalls found).2
    have after := (bounds_of_mem_segmentCalls foundLater).1
    omega

/-- The calls in lines that come one after the other. -/
theorem pairwise_calls {lines : List Piece}
    (ordered : lines.Pairwise fun first second => first.stop < second.start) :
    (lines.flatMap lineCalls).Pairwise fun first second => first.start < second.start := by
  rw [List.pairwise_flatMap]
  constructor
  · intro line _
    apply (pairwise_lineCalls line).imp_of_mem
    intro first second found _ apart
    have nonempty := (mem_lineCalls.mp found).start_lt_stop
    omega
  · apply ordered.imp
    intro earlier later apart first found second foundLater
    have nonempty := (mem_lineCalls.mp found).start_lt_stop
    have before := (mem_lineCalls.mp found).within.stop_le
    have after := (mem_lineCalls.mp foundLater).within.start_le
    omega

/-! ### Findings -/

def unclosedFinding (expression : Piece) : Finding :=
  .about (.unclosedExpression expression.text) expression

theorem filter_lineFindings_unknown (templates : List String) (line : Piece) :
    ((lineFindings templates line).filter fun finding => finding.problem.isUnknownFunction) =
      ((lineCalls line).filter fun call => !resolves templates call.text).map callFinding := by
  unfold lineFindings lineCalls
  rw [List.filter_flatMap, List.filter_flatMap, List.map_flatMap]
  apply List.flatMap_congr
  intro item _
  obtain ⟨offset, segment⟩ := item
  cases segment with
  | escape c => rfl
  | plain c => rfl
  | unclosed rest => rfl
  | closed content =>
      apply List.filter_eq_self.mpr
      intro finding member
      obtain ⟨call, _, rfl⟩ := List.mem_map.mp member
      rfl

theorem filter_lineFindings_unclosed (templates : List String) (line : Piece) :
    ((lineFindings templates line).filter fun finding => finding.problem.isUnclosedExpression) =
      (unclosed? line).toList.map unclosedFinding := by
  unfold lineFindings unclosed?
  rw [← filterMap_unclosed, List.filter_flatMap, List.map_filterMap,
    List.filterMap_eq_flatMap_toList]
  apply List.flatMap_congr
  intro item _
  obtain ⟨offset, segment⟩ := item
  cases segment with
  | escape c => rfl
  | plain c => rfl
  | unclosed rest => rfl
  | closed content =>
      apply List.filter_eq_nil_iff.mpr
      intro finding member
      obtain ⟨call, _, rfl⟩ := List.mem_map.mp member
      exact Bool.false_ne_true

def unknownCalls (outline : Outline) : List Piece :=
  ((outline.sections.flatMap Section.lines).flatMap lineCalls).filter fun call =>
    !resolves (outline.sections.map Section.name) call.text

theorem filter_findings_unknown (outline : Outline) :
    ((findings outline).filter fun finding => finding.problem.isUnknownFunction) =
      (unknownCalls outline).map callFinding := by
  have only (problem : Problem) (unknown : problem.isUnknownFunction = true) :
      problem.isInExpression = true := by
    rw [Problem.isInExpression, unknown]
    rfl
  rw [filter_findings only]
  simp only [filter_lineFindings_unknown]
  unfold unknownCalls
  rw [List.filter_flatMap, List.map_flatMap]

theorem filter_findings_unclosed (outline : Outline) :
    ((findings outline).filter fun finding => finding.problem.isUnclosedExpression) =
      ((outline.sections.flatMap Section.lines).filterMap unclosed?).map unclosedFinding := by
  have only (problem : Problem) (unclosed : problem.isUnclosedExpression = true) :
      problem.isInExpression = true := by
    rw [Problem.isInExpression, unclosed, Bool.or_true]
  rw [filter_findings only]
  simp only [filter_lineFindings_unclosed]
  rw [List.filterMap_eq_flatMap_toList, List.map_flatMap]

/-! ### Names that are known -/

/-- Whether a name is another one without a leading qualifier, if there is one. -/
def Unqualifies (name bare : String) : Prop :=
  name = "builtin." ++ bare ∨ (∀ other, name ≠ "builtin." ++ other) ∧ bare = name

/-- Whether a template or a builtin function answers to a name. -/
def Known (templates : List String) (name : String) : Prop :=
  ∃ bare, Unqualifies name bare ∧
    (name ∈ templates ∨ bare ∈ templates ∨ ∃ builtin ∈ Builtin.all, builtin.name = bare)

theorem unqualifies_iff {name bare : String} :
    Unqualifies name bare ↔ bare = Builtin.unqualified name := by
  have spelled (other : String) : ("builtin." ++ other).toList = Builtin.qualifier ++ other.toList := by
    rw [String.toList_append]
    rfl
  unfold Builtin.unqualified
  by_cases qualified : Builtin.qualifier.isPrefixOf name.toList = true
  · obtain ⟨rest, same⟩ := List.isPrefixOf_iff_prefix.mp qualified
    rw [if_pos qualified, ← same, List.drop_left]
    have named : name = "builtin." ++ String.ofList rest := by
      apply String.toList_injective
      rw [spelled, String.toList_ofList, same]
    constructor
    · rintro (otherwise | ⟨never, _⟩)
      · rw [named] at otherwise
        exact (String.append_right_inj _ |>.mp otherwise).symm
      · exact absurd named (never _)
    · rintro rfl
      exact Or.inl named
  · rw [if_neg qualified]
    have never (other : String) : name ≠ "builtin." ++ other := by
      rintro rfl
      apply qualified
      rw [List.isPrefixOf_iff_prefix, spelled]
      exact List.prefix_append _ _
    constructor
    · rintro (named | ⟨_, same⟩)
      · exact absurd named (never bare)
      · exact same
    · exact fun same => Or.inr ⟨never, same⟩

theorem isSome_find? {name : String} :
    (Builtin.find? name).isSome ↔ ∃ builtin ∈ Builtin.all, builtin.name = name := by
  unfold Builtin.find?
  rw [List.find?_isSome]
  simp only [beq_iff_eq]

theorem resolves_iff {templates : List String} {name : String} :
    resolves templates name = true ↔ Known templates name := by
  unfold resolves Known
  simp only [unqualifies_iff, exists_eq_left, Bool.or_eq_true, List.contains_iff_mem, isSome_find?,
    or_assoc]

/-! ### Diagnostics -/

/-- Whether diagnostics tell which calls are unknown and which expressions are not closed. -/
structure TellsExpressions (text : List Char) (outline : Outline) (diagnostics : List Diagnostic)
    (unknown unclosed : List Piece) : Prop where
  unresolved : ∀ call, call ∈ unknown ↔
    (∃ part ∈ outline.sections, ∃ line ∈ part.lines, CallIn line call) ∧
      ¬Known (outline.sections.map Section.name) call.text
  ordered : unknown.Pairwise fun first second => first.start < second.start
  unknownReports : (diagnostics.filter fun diagnostic =>
      Problem.unknownEnding <:+ diagnostic.message.toList).Perm
    (unknown.map fun call => ⟨.error, call.range text,
      "\x27" ++ call.text ++ "\x27 is neither a template nor a builtin function"⟩)
  places : ∀ call ∈ unknown, call.Within ⟨0, text⟩ ∧
    offsetOf? text (call.range text).start = some call.start ∧
    offsetOf? text (call.range text).stop = some call.stop
  unclosedLines : List.Forall₂ UnclosedIn
    ((outline.sections.flatMap Section.lines).filter fun line => ∃ expression,
      UnclosedIn line expression) unclosed
  unclosedReports : (diagnostics.filter fun diagnostic =>
      Problem.unclosedOpening <+: diagnostic.message.toList).Perm
    (unclosed.map fun expression => ⟨.error, expression.range text,
      "Close \x7d is missing in expression \x27" ++ expression.text ++ "\x27"⟩)

theorem forall₂_unclosed (lines : List Piece) :
    List.Forall₂ UnclosedIn
      (lines.filter fun line => ∃ expression, UnclosedIn line expression)
      (lines.filterMap unclosed?) := by
  induction lines with
  | nil => exact .nil
  | cons line lines ih =>
      cases found : unclosed? line with
      | none =>
          have closed : ¬∃ expression, UnclosedIn line expression := by
            rintro ⟨expression, stands⟩
            rw [unclosed?_eq_some.mpr stands] at found
            cases found
          rw [List.filter_cons_of_neg (by simpa using closed), List.filterMap_cons_none found]
          exact ih
      | some expression =>
          have stands := unclosed?_eq_some.mp found
          rw [List.filter_cons_of_pos (by simpa using ⟨expression, stands⟩),
            List.filterMap_cons_some found]
          exact .cons stands ih

theorem mem_unknownCalls {outline : Outline} :
    call ∈ unknownCalls outline ↔
      (∃ part ∈ outline.sections, ∃ line ∈ part.lines, CallIn line call) ∧
        ¬Known (outline.sections.map Section.name) call.text := by
  unfold unknownCalls
  rw [List.mem_filter, ← resolves_iff]
  apply and_congr
  · simp only [List.mem_flatMap, mem_lineCalls]
    constructor
    · rintro ⟨line, ⟨part, listed, member⟩, stands⟩
      exact ⟨part, listed, line, member, stands⟩
    · rintro ⟨part, listed, line, member, stands⟩
      exact ⟨line, ⟨part, listed, member⟩, stands⟩
  · rw [Bool.not_eq_true', Bool.not_eq_true]

theorem within_of_mem_unknownCalls {text : List Char} {outline : Outline}
    (read : Outline.ofText text = .ok outline) (member : call ∈ unknownCalls outline) :
    call.Within ⟨0, text⟩ := by
  obtain ⟨line, listed, found⟩ := List.mem_flatMap.mp (List.mem_filter.mp member).1
  exact (mem_lineCalls.mp found).within.trans ((picks_bodyLines read).within line listed)

theorem unknownReports_perm (text : List Char) (outline : Outline) :
    ((diagnostics text outline).filter fun diagnostic =>
        Problem.unknownEnding <:+ diagnostic.message.toList).Perm
      ((unknownCalls outline).map fun call => Finding.toDiagnostic text (callFinding call)) := by
  have reports := filter_diagnostics_perm text outline
    (fun message => Problem.unknownEnding <:+ message.toList) Problem.unknownEnding_suffix_iff
  rw [filter_findings_unknown, List.map_map] at reports
  exact reports

theorem unclosedReports_perm (text : List Char) (outline : Outline) :
    ((diagnostics text outline).filter fun diagnostic =>
        Problem.unclosedOpening <+: diagnostic.message.toList).Perm
      (((outline.sections.flatMap Section.lines).filterMap unclosed?).map fun expression =>
        Finding.toDiagnostic text (unclosedFinding expression)) := by
  have reports := filter_diagnostics_perm text outline
    (fun message => Problem.unclosedOpening <+: message.toList) Problem.unclosedOpening_prefix_iff
  rw [filter_findings_unclosed, List.map_map] at reports
  exact reports

end Check

/-- The expressions of a text that has an outline are reported as they should be, and the reports are
sent with their ranges as they are if the text takes less than 2 ^ 32 bytes. -/
theorem Reading.ofText_tells_expressions (source : String) {text : String} {outline : Outline}
    (read : Outline.ofText text.toList = .ok outline) :
    (∃ unknown unclosed, Check.TellsExpressions text.toList outline
      (Reading.ofText source text).diagnostics unknown unclosed) ∧
    (bytes text.toList < UInt32.size → ∀ diagnostic ∈ (Reading.ofText source text).diagnostics,
      diagnostic.range.wrapped = diagnostic.range) := by
  refine ⟨?_, fun small _ => Reading.wrapped_range small⟩
  have checked : (Reading.ofText source text).diagnostics =
      Check.diagnostics text.toList outline := by
    unfold Reading.ofText
    rw [read]
  have picks := picks_bodyLines read
  rw [checked]
  refine ⟨Check.unknownCalls outline, (outline.sections.flatMap Section.lines).filterMap
    Check.unclosed?, fun call => Check.mem_unknownCalls, ?_,
    Check.unknownReports_perm text.toList outline, ?_, Check.forall₂_unclosed _,
    Check.unclosedReports_perm text.toList outline⟩
  · exact (Check.pairwise_calls picks.ordered).filter _
  · intro call member
    have within := Check.within_of_mem_unknownCalls read member
    exact ⟨within, within.offsetOf?_range⟩

/-- A line with a call of an unknown function, a call of a template, what looks like a call in a
literal, an escaped expression and an unclosed one. -/
theorem told_of_both_kinds :
    ∃ outline, Outline.ofText "# A\n- é $\x7bnope(\x27x(\x27) + A()\x7d \\$\x7bz()\x7d $\x7bok".toList =
        .ok outline ∧
      (Check.findings outline).map Finding.problem =
        [.unknownFunction "nope", .unclosedExpression "$\x7bok"] ∧
      ∃ unknown unclosed, Check.TellsExpressions
        "# A\n- é $\x7bnope(\x27x(\x27) + A()\x7d \\$\x7bz()\x7d $\x7bok".toList outline
        (Reading.ofText "" "# A\n- é $\x7bnope(\x27x(\x27) + A()\x7d \\$\x7bz()\x7d $\x7bok").diagnostics
        unknown unclosed := by
  have read : Outline.ofText
      "# A\n- é $\x7bnope(\x27x(\x27) + A()\x7d \\$\x7bz()\x7d $\x7bok".toList =
      .ok ⟨[], [⟨⟨⟨2, ['A']⟩, []⟩,
        [⟨4, "- é $\x7bnope(\x27x(\x27) + A()\x7d \\$\x7bz()\x7d $\x7bok".toList⟩]⟩], []⟩ := by
    decide +kernel
  exact ⟨_, read, by decide +kernel, (Reading.ofText_tells_expressions "" read).1⟩

end TemplateServer
