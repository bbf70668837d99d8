import TemplateServer.Analysis
import TemplateServer.Proofs.Text.Line

/-!
From findings to diagnostics. The problems with expressions are told by how their messages start or
end. Main statements: the diagnostics with such a message are those of the findings of that kind,
and these findings are made in the body lines.
-/

namespace TemplateServer

open Text Grammar

/-! ### Messages -/

namespace Problem

def isUnknownFunction : Problem → Bool
  | .unknownFunction _ => true
  | _ => false

def isUnclosedExpression : Problem → Bool
  | .unclosedExpression _ => true
  | _ => false

def unknownEnding : List Char :=
  " is neither a template nor a builtin function".toList

def unclosedOpening : List Char :=
  "Close \x7d is missing".toList

theorem getLast?_append_quote (text : String) :
    (text ++ "\x27").toList.getLast? = some '\x27' := by
  rw [String.toList_append, List.getLast?_append]
  rfl

theorem head?_toList_append {first : String} {c : Char} (head : first.toList.head? = some c)
    (second : String) : (first ++ second).toList.head? = some c := by
  rw [String.toList_append, List.head?_append, head]
  rfl

/-- No other message ends like that about an unknown function. -/
theorem unknownEnding_suffix_iff (problem : Problem) :
    unknownEnding <:+ problem.message.toList ↔ problem.isUnknownFunction = true := by
  constructor
  · rintro ⟨before, same⟩
    have last : problem.message.toList.getLast? = some 'n' := by
      rw [← same, List.getLast?_append]
      rfl
    have unquoted {text : String} (ending : (text ++ "\x27").toList.getLast? = some 'n') : False := by
      rw [getLast?_append_quote] at ending
      revert ending
      decide
    cases problem with
    | unknownFunction name => rfl
    | strayContent =>
        revert last
        decide
    | repeatedImport path label => exact (unquoted last).elim
    | repeatedTemplate name => exact (unquoted last).elim
    | repeatedParameter parameter template => exact (unquoted last).elim
    | emptyTemplate name => exact (unquoted last).elim
    | unclosedExpression text => exact (unquoted last).elim
  · intro unknown
    cases problem with
    | unknownFunction name =>
        have ending : "\x27 is neither a template nor a builtin function".toList =
            ['\x27'] ++ unknownEnding := by
          decide
        refine ⟨("\x27" ++ name).toList ++ ['\x27'], ?_⟩
        rw [List.append_assoc, ← ending, ← String.toList_append]
        rfl
    | _ => cases unknown

/-- No other message starts like that about an expression that is not closed. -/
theorem unclosedOpening_prefix_iff (problem : Problem) :
    unclosedOpening <+: problem.message.toList ↔ problem.isUnclosedExpression = true := by
  constructor
  · rintro ⟨after, same⟩
    have head : problem.message.toList.head? = some 'C' := by
      rw [← same]
      rfl
    have different {text : String} {c : Char} (first : text.toList.head? = some c)
        (start : text.toList.head? = some 'C') (other : c ≠ 'C') : False := by
      rw [first] at start
      exact other (Option.some.inj start)
    cases problem with
    | unclosedExpression text => rfl
    | strayContent =>
        have apart : ¬unclosedOpening <+: Problem.strayContent.message.toList := by decide
        exact absurd ⟨after, same⟩ apart
    | repeatedImport path label =>
        refine (different ?_ head (by decide : 'D' ≠ 'C')).elim
        exact head?_toList_append (head?_toList_append (head?_toList_append
          (head?_toList_append (by decide) _) _) _) _
    | repeatedTemplate name =>
        refine (different ?_ head (by decide : 'D' ≠ 'C')).elim
        exact head?_toList_append (head?_toList_append (by decide) _) _
    | repeatedParameter parameter template =>
        refine (different ?_ head (by decide : 'D' ≠ 'C')).elim
        exact head?_toList_append (head?_toList_append (head?_toList_append
          (head?_toList_append (by decide) _) _) _) _
    | emptyTemplate name =>
        refine (different ?_ head (by decide : 'T' ≠ 'C')).elim
        exact head?_toList_append (head?_toList_append (by decide) _) _
    | unknownFunction name =>
        refine (different ?_ head (by decide : '\x27' ≠ 'C')).elim
        exact head?_toList_append (head?_toList_append (by decide) _) _
  · intro unclosed
    cases problem with
    | unclosedExpression text =>
        have opening : "Close \x7d is missing in expression \x27".toList =
            unclosedOpening ++ " in expression \x27".toList := by
          decide
        refine ⟨" in expression \x27".toList ++ text.toList ++ "\x27".toList, ?_⟩
        rw [List.append_assoc, ← List.append_assoc, ← opening, ← List.append_assoc,
          ← String.toList_append, ← String.toList_append]
        rfl
    | _ => cases unclosed

end Problem

/-! ### Diagnostics of a kind -/

namespace Check

/-- The diagnostics whose messages tell a kind of problem are those of the findings of that kind. -/
theorem filter_diagnostics_perm (text : List Char) (outline : Outline) {selects : Problem → Bool}
    (tells : String → Prop) [DecidablePred tells]
    (agree : ∀ problem, tells problem.message ↔ selects problem = true) :
    ((diagnostics text outline).filter fun diagnostic => tells diagnostic.message).Perm
      (((findings outline).filter fun finding => selects finding.problem).map
        (Finding.toDiagnostic text)) := by
  have sorted := List.mergeSort_perm ((findings outline).map (Finding.toDiagnostic text))
    Diagnostic.startsBefore
  have selected := sorted.filter fun diagnostic => decide (tells diagnostic.message)
  have same : (findings outline).filter ((fun diagnostic => decide (tells diagnostic.message)) ∘
      Finding.toDiagnostic text) =
      (findings outline).filter fun finding => selects finding.problem := by
    apply List.filter_congr
    intro finding _
    rw [Bool.eq_iff_iff, ← agree finding.problem, Function.comp_apply, decide_eq_true_iff]
    rfl
  rw [List.filter_map, same] at selected
  exact selected

end Check

/-! ### Findings of a kind -/

def Problem.isInExpression (problem : Problem) : Bool :=
  problem.isUnknownFunction || problem.isUnclosedExpression

namespace Check

variable {templates : List String} {selects : Problem → Bool}

theorem filter_eq_nil_of_outside (only : ∀ problem, selects problem = true → problem.isInExpression = true)
    {items : List Finding} (outside : ∀ finding ∈ items, finding.problem.isInExpression = false) :
    (items.filter fun finding => selects finding.problem) = [] := by
  rw [List.filter_eq_nil_iff]
  intro finding member selected
  have inside := only finding.problem selected
  rw [outside finding member] at inside
  cases inside

theorem filter_sectionFindings
    (only : ∀ problem, selects problem = true → problem.isInExpression = true)
    (earlier : List String) (part : Section) :
    ((sectionFindings templates earlier part).filter fun finding => selects finding.problem) =
      part.lines.flatMap fun line =>
        (lineFindings templates line).filter fun finding => selects finding.problem := by
  unfold sectionFindings
  simp only [List.filter_append, List.filter_flatMap]
  rw [filter_eq_nil_of_outside only, filter_eq_nil_of_outside only, filter_eq_nil_of_outside only]
  · rfl
  · intro finding member
    split at member
    · rw [List.mem_singleton.mp member]
      rfl
    · cases member
  · intro finding member
    obtain ⟨parameter, _, rfl⟩ := List.mem_map.mp member
    rfl
  · intro finding member
    split at member
    · rw [List.mem_singleton.mp member]
      rfl
    · cases member

theorem filter_sectionsFindings
    (only : ∀ problem, selects problem = true → problem.isInExpression = true)
    (earlier : List String) (parts : List Section) :
    ((sectionsFindings templates earlier parts).filter fun finding => selects finding.problem) =
      (parts.flatMap Section.lines).flatMap fun line =>
        (lineFindings templates line).filter fun finding => selects finding.problem := by
  induction parts generalizing earlier with
  | nil => rfl
  | cons part parts ih =>
      rw [sectionsFindings, List.filter_append, ih, filter_sectionFindings only,
        List.flatMap_cons, List.flatMap_append]

/-- The problems with expressions are found line by line in the body lines of the templates. -/
theorem filter_findings (only : ∀ problem, selects problem = true → problem.isInExpression = true)
    (outline : Outline) :
    ((findings outline).filter fun finding => selects finding.problem) =
      (outline.sections.flatMap Section.lines).flatMap fun line =>
        (lineFindings (outline.sections.map Section.name) line).filter fun finding =>
          selects finding.problem := by
  unfold findings
  rw [List.filter_append, List.filter_append, filter_sectionsFindings only,
    filter_eq_nil_of_outside only, filter_eq_nil_of_outside only]
  · rfl
  · intro finding member
    obtain ⟨declaration, _, rfl⟩ := List.mem_map.mp member
    rfl
  · intro finding member
    obtain ⟨line, _, rfl⟩ := List.mem_map.mp member
    rfl

end Check

/-! ### Ranges of diagnostics -/

theorem Failure.exists_range (text : List Char) (failure : Failure) :
    ∃ start stop, (failure.toDiagnostic text).range = rangeOf text start stop := by
  simp only [Failure.toDiagnostic]
  cases lineEnd? text (positionOf text failure.offset).line with
  | none => exact ⟨failure.offset, failure.offset, rfl⟩
  | some lineEnd => exact ⟨failure.offset, max lineEnd failure.offset, rfl⟩

/-- All that is told of a text of less than 2 ^ 32 bytes is sent with its range as it is. -/
theorem Reading.wrapped_range {source text : String} (small : bytes text.toList < UInt32.size)
    {diagnostic : Diagnostic} (reported : diagnostic ∈ (Reading.ofText source text).diagnostics) :
    diagnostic.range.wrapped = diagnostic.range := by
  unfold Reading.ofText at reported
  cases read : Outline.ofText text.toList with
  | error fault =>
      rw [read] at reported
      obtain ⟨start, stop, range⟩ := (Failure.ofAttempts fault).exists_range text.toList
      rw [List.mem_singleton.mp reported, range]
      exact wrapped_rangeOf small start stop
  | ok outline =>
      rw [read] at reported
      obtain ⟨finding, _, rfl⟩ := List.mem_map.mp (List.mem_mergeSort.mp reported)
      exact wrapped_rangeOf small _ _

end TemplateServer
