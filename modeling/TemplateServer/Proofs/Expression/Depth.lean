import TemplateServer.Proofs.Expression.Segment

/-!
Braces and quotation marks that a text leaves open. Braces are counted as an integer, which goes
below zero where a text closes more of them than it opens. Main statements: the scan for the brace
that closes an expression stops at the first one before which nothing is open, and up to there its
counter is that integer.
-/

namespace TemplateServer.Expression

open Text

/-! ### What a text leaves open -/

def nextQuote (quote : Option Char) (c : Char) : Option Char :=
  match quote with
  | some mark => if c = mark then none else some mark
  | none => if isQuote c then some c else none

/-- The characters of a text that are read while no quotation mark is open. -/
def bare (quote : Option Char) : List Char → List Char
  | [] => []
  | c :: rest =>
    let others := bare (nextQuote quote c) rest
    if quote = none then c :: others else others

/-- The number of braces that a text opens outside of quoted literals, less those it closes there. -/
def depthFrom (quote : Option Char) (text : List Char) : Int :=
  ((bare quote text).count '{' : Int) - (bare quote text).count '}'

def openQuote (text : List Char) : Option Char :=
  text.foldl nextQuote none

def braceDepth (text : List Char) : Int :=
  depthFrom none text

/-- Whether a text leaves neither a quotation mark nor a brace open. -/
def Complete (text : List Char) : Prop :=
  openQuote text = none ∧ braceDepth text = 0

/-- Whether no closing brace in a text comes after a complete part of it. -/
def NeverCloses (text : List Char) : Prop :=
  ∀ before after, text = before ++ '}' :: after → ¬Complete before

variable {nesting inner : Nesting} {c : Char} {text content before after : List Char}

theorem bare_append (quote : Option Char) (first second : List Char) :
    bare quote (first ++ second) =
      bare quote first ++ bare (first.foldl nextQuote quote) second := by
  induction first generalizing quote with
  | nil => rfl
  | cons c first ih =>
      rw [List.cons_append, bare, bare, ih, List.foldl_cons]
      split
      · rfl
      · rfl

theorem depthFrom_append (quote : Option Char) (first second : List Char) :
    depthFrom quote (first ++ second) =
      depthFrom quote first + depthFrom (first.foldl nextQuote quote) second := by
  unfold depthFrom
  rw [bare_append, List.count_append, List.count_append]
  omega

theorem depthFrom_cons (quote : Option Char) (c : Char) (rest : List Char) :
    depthFrom quote (c :: rest) = depthFrom quote [c] + depthFrom (nextQuote quote c) rest :=
  depthFrom_append quote [c] rest

theorem depthFrom_quoted (mark c : Char) : depthFrom (some mark) [c] = 0 :=
  rfl

theorem depthFrom_other (unopened : c ≠ '{') (unclosed : c ≠ '}') : depthFrom none [c] = 0 := by
  unfold depthFrom
  have bareChar : bare none [c] = [c] := rfl
  rw [bareChar, List.count_singleton, List.count_singleton]
  simp [unopened, unclosed]

/-! ### What the scan for the closing brace keeps -/

/-- One character moves the scan's counter as it moves the number of open braces. -/
theorem Nesting.next?_tracks (read : nesting.next? c = some inner) :
    inner.quote = nextQuote nesting.quote c ∧
      (inner.depth : Int) = nesting.depth + depthFrom nesting.quote [c] := by
  rcases nesting with ⟨depth, quote⟩
  cases quote with
  | some mark =>
      change some (if c = mark then _ else _) = some inner at read
      rw [depthFrom_quoted]
      by_cases ends : c = mark
      · rw [if_pos ends] at read
        cases read
        simp [nextQuote, ends]
      · rw [if_neg ends] at read
        cases read
        simp [nextQuote, ends]
  | none =>
      by_cases quotes : isQuote c = true
      · rw [Nesting.next?_of_quote quotes] at read
        cases read
        have unopened : c ≠ '{' := by
          rintro rfl
          cases quotes
        have unclosed : c ≠ '}' := by
          rintro rfl
          cases quotes
        rw [depthFrom_other unopened unclosed]
        simp [nextQuote, quotes]
      · by_cases opens : c = '{'
        · subst opens
          cases read
          exact ⟨rfl, rfl⟩
        · by_cases closes : c = '}'
          · subst closes
            cases depth with
            | zero => cases read
            | succ depth =>
                cases read
                have closed : depthFrom none ['}'] = -1 := rfl
                refine ⟨rfl, ?_⟩
                change (depth : Int) = ((depth + 1 : Nat) : Int) + depthFrom none ['}']
                rw [closed]
                omega
          · rw [Nesting.next?_of_plain (eq_false_of_ne_true quotes) opens closes] at read
            cases read
            rw [depthFrom_other opens closes]
            simp [nextQuote, quotes]

theorem Nesting.run?_tracks (ran : nesting.run? text = some inner) :
    inner.quote = text.foldl nextQuote nesting.quote ∧
      (inner.depth : Int) = nesting.depth + depthFrom nesting.quote text := by
  induction text generalizing nesting with
  | nil =>
      cases ran
      exact ⟨rfl, (Int.add_zero _).symm⟩
  | cons c rest ih =>
      cases read : nesting.next? c with
      | none =>
          rw [Nesting.run?_cons_of_none read] at ran
          cases ran
      | some middle =>
          rw [Nesting.run?_cons_of_some read] at ran
          have step := Nesting.next?_tracks read
          have later := ih ran
          rw [List.foldl_cons, depthFrom_cons, ← step.1]
          refine ⟨later.1, ?_⟩
          have counted := later.2
          have counter := step.2
          omega

theorem Nesting.exists_close_of_run? (stopped : nesting.run? text = none) :
    ∃ before after, text = before ++ '}' :: after ∧
      nesting.run? before = some Nesting.outermost := by
  induction text generalizing nesting with
  | nil => cases stopped
  | cons c rest ih =>
      cases read : nesting.next? c with
      | none =>
          rcases Nesting.next?_eq_none.mp read with ⟨rfl, rfl⟩
          exact ⟨[], rest, rfl, rfl⟩
      | some middle =>
          rw [Nesting.run?_cons_of_some read] at stopped
          rcases ih stopped with ⟨before, after, rfl, ran⟩
          refine ⟨c :: before, after, rfl, ?_⟩
          rw [Nesting.run?_cons_of_some read, ran]

/-- A part that the scan gets through is complete if the scan is back where it started. -/
theorem complete_iff (ran : Nesting.outermost.run? text = some inner) :
    Complete text ↔ inner = Nesting.outermost := by
  have tracked := Nesting.run?_tracks ran
  rcases inner with ⟨depth, quote⟩
  have unquoted : quote = openQuote text := tracked.1
  have counted : (depth : Int) = 0 + braceDepth text := tracked.2
  constructor
  · intro complete
    have level := complete.2
    have zero : depth = 0 := by omega
    rw [zero, unquoted, complete.1]
    rfl
  · intro same
    rcases Nesting.mk.inj same with ⟨zero, closed⟩
    exact ⟨unquoted.symm.trans closed, by omega⟩

/-- The scan stops at the first closing brace that comes after a complete part, and nowhere else. -/
theorem neverCloses_iff :
    NeverCloses text ↔ ∃ inner, Nesting.outermost.run? text = some inner := by
  cases ran : Nesting.outermost.run? text with
  | none =>
      rcases Nesting.exists_close_of_run? ran with ⟨before, after, same, reached⟩
      constructor
      · intro never
        exact absurd ((complete_iff reached).mpr rfl) (never before after same)
      · intro found
        rcases found with ⟨inner, found⟩
        cases found
  | some final =>
      constructor
      · intro _
        exact ⟨final, rfl⟩
      · intro _ before after same complete
        rw [same, Nesting.run?_append] at ran
        cases reached : Nesting.outermost.run? before with
        | none =>
            rw [reached] at ran
            cases ran
        | some inner =>
            rw [reached, (complete_iff reached).mp complete, Option.bind_some,
              Nesting.run?_cons_of_none (Nesting.next?_eq_none.mpr ⟨rfl, rfl⟩)] at ran
            cases ran

/-- While no brace closes the expression, the scan's counter is the number of open braces. -/
theorem NeverCloses.run?_eq (never : NeverCloses text) (inside : before <+: text) :
    0 ≤ braceDepth before ∧
      Nesting.outermost.run? before = some ⟨(braceDepth before).toNat, openQuote before⟩ := by
  rcases inside with ⟨after, rfl⟩
  rcases neverCloses_iff.mp never with ⟨final, ran⟩
  rw [Nesting.run?_append] at ran
  cases reached : Nesting.outermost.run? before with
  | none =>
      rw [reached] at ran
      cases ran
  | some inner =>
      have tracked := Nesting.run?_tracks reached
      rcases inner with ⟨depth, quote⟩
      have unquoted : quote = openQuote before := tracked.1
      have counted : (depth : Int) = 0 + braceDepth before := tracked.2
      rw [← unquoted]
      have same : (braceDepth before).toNat = depth := by omega
      rw [same]
      exact ⟨by omega, rfl⟩

theorem run?_eq_outermost_iff :
    Nesting.outermost.run? content = some Nesting.outermost ↔
      Complete content ∧ NeverCloses content := by
  constructor
  · intro ran
    exact ⟨(complete_iff ran).mpr rfl, neverCloses_iff.mpr ⟨_, ran⟩⟩
  · intro ended
    rcases neverCloses_iff.mp ended.2 with ⟨inner, ran⟩
    rw [ran, (complete_iff ran).mp ended.1]

theorem splitContent?_eq_some_iff_first :
    splitContent? Nesting.outermost text = some (content, after) ↔
      text = content ++ '}' :: after ∧ Complete content ∧ NeverCloses content := by
  rw [splitContent?_eq_some, run?_eq_outermost_iff]

theorem splitContent?_eq_none_iff :
    splitContent? Nesting.outermost text = none ↔ NeverCloses text := by
  constructor
  · intro unsplit
    rw [neverCloses_iff]
    cases ran : Nesting.outermost.run? text with
    | some final => exact ⟨final, rfl⟩
    | none =>
        rcases Nesting.exists_close_of_run? ran with ⟨before, after, same, reached⟩
        rw [splitContent?_eq_some.mpr ⟨same, reached⟩] at unsplit
        cases unsplit
  · intro never
    cases split : splitContent? Nesting.outermost text with
    | none => rfl
    | some parts =>
        have first := splitContent?_eq_some_iff_first.mp split
        exact absurd first.2.1 (never parts.1 parts.2 first.1)

end TemplateServer.Expression
