import TemplateServer.Expression.Segment
import TemplateServer.Proofs.Text.Piece

/-!
Expressions in a body line, told without reading it from the left: the content of an expression is
balanced, and what comes before it is made of escaped characters, whole expressions and characters
that open none. Main statement: the segments of a line that are expressions are those that stand in
it so, closed if balanced content and a brace follow, and unclosed otherwise.
-/

namespace TemplateServer.Expression

open Text

/-! ### Balanced content -/

/-- What may stand between the braces of an expression: quoted literals, pairs of braces with such
content, and other characters. -/
inductive Balanced : List Char → Prop where
  | nil : Balanced []
  | plain {c : Char} {rest : List Char} (unquoted : isQuote c = false) (unopened : c ≠ '{')
    (unclosed : c ≠ '}') (following : Balanced rest) : Balanced (c :: rest)
  | quoted {mark : Char} {inside rest : List Char} (quotes : isQuote mark = true)
    (absent : mark ∉ inside) (following : Balanced rest) :
    Balanced (mark :: (inside ++ mark :: rest))
  | braces {inside rest : List Char} (inner : Balanced inside) (following : Balanced rest) :
    Balanced ('{' :: (inside ++ '}' :: rest))

def Nesting.run? (nesting : Nesting) (content : List Char) : Option Nesting :=
  content.foldlM Nesting.next? nesting

variable {nesting inner : Nesting} {c : Char} {content text rest after : List Char} {depth : Nat}

theorem Nesting.run?_cons_of_some (read : nesting.next? c = some inner) (content : List Char) :
    nesting.run? (c :: content) = inner.run? content := by
  unfold Nesting.run?
  rw [List.foldlM_cons, read]
  rfl

theorem Nesting.run?_cons_of_none (closes : nesting.next? c = none) (content : List Char) :
    nesting.run? (c :: content) = none := by
  unfold Nesting.run?
  rw [List.foldlM_cons, closes]
  rfl

theorem Nesting.run?_append (first second : List Char) :
    nesting.run? (first ++ second) = (nesting.run? first).bind fun inner => inner.run? second :=
  List.foldlM_append

/-- Only a closing brace that is neither nested nor quoted closes the expression. -/
theorem Nesting.next?_eq_none :
    nesting.next? c = none ↔ nesting = Nesting.outermost ∧ c = '}' := by
  obtain ⟨depth, quote⟩ := nesting
  cases quote with
  | some mark => simp [Nesting.next?, Nesting.outermost]
  | none =>
      by_cases quotes : isQuote c = true
      · have different : c ≠ '}' := by
          rintro rfl
          cases quotes
        simp [Nesting.next?, quotes, different]
      · by_cases opens : c = '{'
        · simp [Nesting.next?, opens, isQuote]
        · by_cases closes : c = '}'
          · subst closes
            cases depth with
            | zero => simp [Nesting.next?, Nesting.outermost, isQuote]
            | succ depth => simp [Nesting.next?, Nesting.outermost, isQuote]
          · simp [Nesting.next?, quotes, opens, closes]

theorem splitContent?_eq_some :
    splitContent? nesting text = some (content, after) ↔
      text = content ++ '}' :: after ∧ nesting.run? content = some Nesting.outermost := by
  induction text generalizing nesting content with
  | nil => simp [splitContent?]
  | cons c rest ih =>
      rw [splitContent?]
      cases read : nesting.next? c with
      | none =>
          obtain ⟨rfl, rfl⟩ := Nesting.next?_eq_none.mp read
          simp only [Option.some.injEq, Prod.mk.injEq]
          constructor
          · rintro ⟨rfl, rfl⟩
            exact ⟨rfl, rfl⟩
          · rintro ⟨same, ran⟩
            cases content with
            | nil =>
                rw [List.nil_append] at same
                exact ⟨rfl, (List.cons.inj same).2⟩
            | cons d content =>
                obtain ⟨rfl, _⟩ := List.cons.inj same
                rw [Nesting.run?_cons_of_none read] at ran
                cases ran
      | some inner =>
          simp only [Option.map_eq_some_iff, Prod.mk.injEq]
          constructor
          · rintro ⟨parts, split, rfl, rfl⟩
            obtain ⟨same, ran⟩ := ih.mp split
            rw [Nesting.run?_cons_of_some read, List.cons_append, ← same]
            exact ⟨rfl, ran⟩
          · rintro ⟨same, ran⟩
            cases content with
            | nil =>
                cases ran
                obtain ⟨rfl, _⟩ := List.cons.inj same
                rw [Nesting.next?_eq_none.mpr ⟨rfl, rfl⟩] at read
                cases read
            | cons d content =>
                obtain ⟨rfl, following⟩ := List.cons.inj same
                rw [Nesting.run?_cons_of_some read] at ran
                exact ⟨(content, after), ih.mpr ⟨following, ran⟩, rfl, rfl⟩

/-! ### Reading balanced content -/

theorem Nesting.next?_of_plain (unquoted : isQuote c = false) (unopened : c ≠ '{')
    (unclosed : c ≠ '}') : Nesting.next? ⟨depth, none⟩ c = some ⟨depth, none⟩ := by
  simp [Nesting.next?, unquoted, unopened, unclosed]

theorem Nesting.next?_of_quote (quotes : isQuote c = true) :
    Nesting.next? ⟨depth, none⟩ c = some ⟨depth, some c⟩ := by
  simp [Nesting.next?, quotes]

theorem Nesting.run?_of_literal {mark : Char} {inside : List Char} (absent : mark ∉ inside)
    (rest : List Char) :
    Nesting.run? ⟨depth, some mark⟩ (inside ++ mark :: rest) = Nesting.run? ⟨depth, none⟩ rest := by
  induction inside with
  | nil =>
      have ended : Nesting.next? ⟨depth, some mark⟩ mark = some ⟨depth, none⟩ := by
        simp [Nesting.next?]
      exact Nesting.run?_cons_of_some ended rest
  | cons c inside ih =>
      obtain ⟨different, absent⟩ := not_or.mp (List.mem_cons.not.mp absent)
      have stayed : Nesting.next? ⟨depth, some mark⟩ c = some ⟨depth, some mark⟩ := by
        simp [Nesting.next?, Ne.symm different]
      rw [List.cons_append, Nesting.run?_cons_of_some stayed, ih absent]

theorem Balanced.run? (balanced : Balanced content) (depth : Nat) :
    Nesting.run? ⟨depth, none⟩ content = some ⟨depth, none⟩ := by
  induction balanced generalizing depth with
  | nil => rfl
  | plain unquoted unopened unclosed following ih =>
      rw [Nesting.run?_cons_of_some (Nesting.next?_of_plain unquoted unopened unclosed), ih]
  | quoted quotes absent following ih =>
      rw [Nesting.run?_cons_of_some (Nesting.next?_of_quote quotes), Nesting.run?_of_literal absent,
        ih]
  | @braces inside rest inner following innerRun ih =>
      have opened : Nesting.next? ⟨depth, none⟩ '{' = some ⟨depth + 1, none⟩ := rfl
      have closed : Nesting.next? ⟨depth + 1, none⟩ '}' = some ⟨depth, none⟩ := rfl
      rw [Nesting.run?_cons_of_some opened, Nesting.run?_append, innerRun, Option.bind_some,
        Nesting.run?_cons_of_some closed, ih]

/-- Content that closes so many braces more than it opens, each after balanced content. -/
inductive Closes : Nat → List Char → Prop where
  | zero {content : List Char} (balanced : Balanced content) : Closes 0 content
  | succ {depth : Nat} {inside rest : List Char} (balanced : Balanced inside)
    (following : Closes depth rest) : Closes (depth + 1) (inside ++ '}' :: rest)

theorem Closes.append (closes : Closes depth content) (front : List Char)
    (keeps : ∀ inside, Balanced inside → Balanced (front ++ inside)) :
    Closes depth (front ++ content) := by
  cases closes with
  | zero balanced => exact .zero (keeps _ balanced)
  | succ balanced following =>
      rw [← List.append_assoc]
      exact .succ (keeps _ balanced) following

theorem Closes.plain (unquoted : isQuote c = false) (unopened : c ≠ '{') (unclosed : c ≠ '}')
    (closes : Closes depth content) : Closes depth (c :: content) :=
  closes.append [c] fun _ => .plain unquoted unopened unclosed

theorem Closes.quoted {mark : Char} {inside : List Char} (quotes : isQuote mark = true)
    (absent : mark ∉ inside) (closes : Closes depth rest) :
    Closes depth (mark :: (inside ++ mark :: rest)) := by
  have whole : Closes depth ((mark :: inside ++ [mark]) ++ rest) := by
    apply closes.append
    intro content balanced
    simpa using Balanced.quoted quotes absent balanced
  simpa using whole

theorem Closes.braces (closes : Closes (depth + 1) content) : Closes depth ('{' :: content) := by
  cases closes with
  | @succ _ inside rest balanced following =>
      have whole : Closes depth (('{' :: inside ++ ['}']) ++ rest) := by
        apply following.append
        intro content more
        simpa using Balanced.braces balanced more
      simpa using whole

/-- What is left of the content of an expression: within a literal first the rest of that, and then
what closes the open braces. -/
def Nesting.Leaves (content : List Char) : Nesting → Prop
  | ⟨depth, none⟩ => Closes depth content
  | ⟨depth, some mark⟩ => ∃ inside rest, content = inside ++ mark :: rest ∧ mark ∉ inside ∧
      Closes depth rest

theorem Nesting.leaves_of_run? (ran : nesting.run? content = some Nesting.outermost) :
    nesting.Leaves content := by
  induction content generalizing nesting with
  | nil =>
      cases ran
      exact Closes.zero .nil
  | cons c content ih =>
      cases read : nesting.next? c with
      | none =>
          rw [Nesting.run?_cons_of_none read] at ran
          cases ran
      | some inner =>
          rw [Nesting.run?_cons_of_some read] at ran
          have leaves := ih ran
          obtain ⟨depth, quote⟩ := nesting
          cases quote with
          | some mark =>
              by_cases ends : c = mark
              · simp only [Nesting.next?, if_pos ends, Option.some.injEq] at read
                subst read ends
                exact ⟨[], content, rfl, List.not_mem_nil, leaves⟩
              · simp only [Nesting.next?, if_neg ends, Option.some.injEq] at read
                subst read
                obtain ⟨inside, rest, rfl, absent, closes⟩ := leaves
                refine ⟨c :: inside, rest, rfl, ?_, closes⟩
                exact fun member => (List.mem_cons.mp member).elim (Ne.symm ends) absent
          | none =>
              by_cases quotes : isQuote c = true
              · rw [Nesting.next?_of_quote quotes] at read
                cases read
                obtain ⟨inside, rest, rfl, absent, closes⟩ := leaves
                exact Closes.quoted quotes absent closes
              · by_cases opens : c = '{'
                · subst opens
                  cases read
                  exact Closes.braces leaves
                · by_cases closes : c = '}'
                  · subst closes
                    cases depth with
                    | zero => cases read
                    | succ depth =>
                        cases read
                        exact Closes.succ .nil leaves
                  · have unquoted : isQuote c = false := eq_false_of_ne_true quotes
                    rw [Nesting.next?_of_plain unquoted opens closes] at read
                    cases read
                    exact Closes.plain unquoted opens closes leaves

theorem balanced_iff :
    Balanced content ↔ Nesting.outermost.run? content = some Nesting.outermost := by
  constructor
  · intro balanced
    exact balanced.run? 0
  · intro ran
    cases Nesting.leaves_of_run? ran with
    | zero balanced => exact balanced

/-- An expression ends where balanced content and a closing brace do. -/
theorem splitContent?_iff :
    splitContent? Nesting.outermost text = some (content, after) ↔
      text = content ++ '}' :: after ∧ Balanced content := by
  rw [splitContent?_eq_some, balanced_iff]

/-! ### Expressions in a line -/

theorem bytes_opened (rest : List Char) : bytes ('$' :: '{' :: rest) = 2 + bytes rest := by
  rw [bytes_cons, bytes_cons, ← Nat.add_assoc]
  rfl

/-- What may come before an expression in a line. -/
inductive Passes : List Char → Prop where
  | nil : Passes []
  | escape (c : Char) {rest : List Char} (following : Passes rest) : Passes ('\\' :: c :: rest)
  | closed {content rest : List Char} (balanced : Balanced content) (following : Passes rest) :
    Passes ('$' :: '{' :: (content ++ '}' :: rest))
  | plain {c : Char} {rest : List Char} (unescaped : c ≠ '\\')
    (unopened : c = '$' → rest.head? ≠ some '{') (following : Passes rest) : Passes (c :: rest)

/-- Whether an expression starts a text, after the brace that opens it. -/
def Segment.Fits (rest : List Char) : Segment → Prop
  | .closed content => Balanced content ∧ ∃ after, rest = content ++ '}' :: after
  | .unclosed whole => whole = rest ∧ ∀ content after, Balanced content →
      rest ≠ content ++ '}' :: after
  | .escape _ => False
  | .plain _ => False

/-- Whether an expression stands at an offset of a line that starts at another one. -/
def Segment.Stands (start : Nat) (line : List Char) (offset : Nat) (segment : Segment) : Prop :=
  ∃ before rest, line = before ++ '$' :: '{' :: rest ∧ Passes before ∧ segment.Fits rest ∧
    offset = start + bytes before

variable {start offset : Nat} {segment : Segment} {line : List Char}

theorem stands_nil : ¬segment.Stands start [] offset := by
  rintro ⟨before, rest, same, _⟩
  simp at same

theorem stands_lone_escape : ¬segment.Stands start ['\\'] offset := by
  rintro ⟨before, rest, same, _⟩
  cases before with
  | nil => simp at same
  | cons c before => simp at same

theorem stands_escape :
    segment.Stands start ('\\' :: c :: line) offset ↔
      segment.Stands (start + bytes ['\\', c]) line offset := by
  constructor
  · rintro ⟨before, rest, same, passes, fits, rfl⟩
    cases passes with
    | nil => simp at same
    | escape d following =>
        simp only [List.cons_append, List.cons.injEq, true_and] at same
        obtain ⟨rfl, rfl⟩ := same
        exact ⟨_, rest, rfl, following, fits, by simp [Nat.add_assoc]⟩
    | closed balanced following => simp at same
    | plain unescaped unopened following =>
        simp only [List.cons_append, List.cons.injEq] at same
        exact absurd same.1.symm unescaped
  · rintro ⟨before, rest, rfl, passes, fits, rfl⟩
    exact ⟨_, rest, rfl, .escape c passes, fits, by simp [Nat.add_assoc]⟩

theorem stands_plain (unescaped : c ≠ '\\') (unopened : c = '$' → line.head? ≠ some '{') :
    segment.Stands start (c :: line) offset ↔
      segment.Stands (start + bytes [c]) line offset := by
  constructor
  · rintro ⟨before, rest, same, passes, fits, rfl⟩
    cases passes with
    | nil =>
        obtain ⟨rfl, rfl⟩ := List.cons.inj same
        exact absurd rfl (unopened rfl)
    | escape d following =>
        obtain ⟨rfl, _⟩ := List.cons.inj same
        exact absurd rfl unescaped
    | closed balanced following =>
        obtain ⟨rfl, rfl⟩ := List.cons.inj same
        exact absurd rfl (unopened rfl)
    | plain _ _ following =>
        obtain ⟨rfl, rfl⟩ := List.cons.inj same
        exact ⟨_, rest, rfl, following, fits, by simp [Nat.add_assoc]⟩
  · rintro ⟨before, rest, rfl, passes, fits, rfl⟩
    refine ⟨c :: before, rest, rfl, .plain unescaped ?_ passes, fits, by simp [Nat.add_assoc]⟩
    intro dollar
    cases before with
    | nil => exact nofun
    | cons d before => exact unopened dollar

/-- A line that starts with an expression: nothing or a closed expression comes first. -/
theorem stands_opened :
    segment.Stands start ('$' :: '{' :: rest) offset ↔
      (segment.Fits rest ∧ offset = start) ∨ ∃ content following, Balanced content ∧
        rest = content ++ '}' :: following ∧
        segment.Stands (start + bytes (Segment.closed content).chars) following offset := by
  constructor
  · rintro ⟨before, other, same, passes, fits, rfl⟩
    cases passes with
    | nil =>
        simp only [List.nil_append, List.cons.injEq, true_and] at same
        subst same
        exact Or.inl ⟨fits, rfl⟩
    | escape d following => simp at same
    | closed balanced following =>
        simp only [List.cons_append, List.cons.injEq, true_and] at same
        refine Or.inr ⟨_, _, balanced, same.trans (List.append_assoc _ _ _), _, other, rfl,
          following, fits, ?_⟩
        simp [Segment.chars, Nat.add_assoc]
    | @plain d tail unescaped unopened following =>
        cases tail with
        | nil => simp at same
        | cons e tail =>
            simp only [List.cons_append, List.cons.injEq] at same
            obtain ⟨rfl, rfl, _⟩ := same
            exact absurd rfl (unopened rfl)
  · rintro (⟨fits, rfl⟩ | ⟨content, following, balanced, rfl, before, other, rfl, passes, fits, rfl⟩)
    · exact ⟨[], rest, rfl, .nil, fits, rfl⟩
    · refine ⟨'$' :: '{' :: (content ++ '}' :: before), other, by simp, .closed balanced passes, fits,
        ?_⟩
      simp [Segment.chars, Nat.add_assoc]

/-! ### The segments of a line -/

def Segment.IsExpression : Segment → Prop
  | .closed _ => True
  | .unclosed _ => True
  | .escape _ => False
  | .plain _ => False

theorem fits_of_closed {following : List Char}
    (split : splitContent? Nesting.outermost rest = some (content, following)) :
    segment.Fits rest ↔ segment = .closed content := by
  obtain ⟨same, balanced⟩ := splitContent?_iff.mp split
  cases segment with
  | escape c => simp [Segment.Fits]
  | plain c => simp [Segment.Fits]
  | unclosed whole =>
      simp only [Segment.Fits, reduceCtorEq, iff_false, not_and, not_forall, not_not]
      exact fun _ => ⟨content, following, balanced, same⟩
  | closed other =>
      simp only [Segment.Fits, Segment.closed.injEq]
      constructor
      · rintro ⟨otherwise, after, again⟩
        have found := splitContent?_iff.mpr ⟨again, otherwise⟩
        rw [split] at found
        exact (congrArg Prod.fst (Option.some.inj found)).symm
      · rintro rfl
        exact ⟨balanced, following, same⟩

theorem fits_of_unclosed (split : splitContent? Nesting.outermost rest = none) :
    segment.Fits rest ↔ segment = .unclosed rest := by
  have never (content after : List Char) (balanced : Balanced content) :
      rest ≠ content ++ '}' :: after := by
    intro same
    rw [splitContent?_iff.mpr ⟨same, balanced⟩] at split
    cases split
  cases segment with
  | escape c => simp [Segment.Fits]
  | plain c => simp [Segment.Fits]
  | closed content =>
      simp only [Segment.Fits, reduceCtorEq, iff_false]
      rintro ⟨balanced, after, same⟩
      exact never content after balanced same
  | unclosed whole =>
      simp only [Segment.Fits, Segment.unclosed.injEq]
      exact and_iff_left never

theorem mem_locate_cons {head : Segment} {tail : List Segment} :
    (offset, segment) ∈ locate start (head :: tail) ↔
      (segment = head ∧ offset = start) ∨
        (offset, segment) ∈ locate (start + bytes head.chars) tail := by
  rw [locate, List.mem_cons, Prod.mk.injEq, and_comm]

theorem mem_locate_cons_of_other {head : Segment} {tail : List Segment}
    (expression : segment.IsExpression) (other : ¬head.IsExpression) :
    (offset, segment) ∈ locate start (head :: tail) ↔
      (offset, segment) ∈ locate (start + bytes head.chars) tail := by
  rw [mem_locate_cons, or_iff_right]
  rintro ⟨rfl, _⟩
  exact other expression

/-- The expressions among the segments of a line are those that stand in it. -/
theorem mem_locate_segments (expression : segment.IsExpression) :
    (offset, segment) ∈ locate start (segments line) ↔ segment.Stands start line offset := by
  fun_induction segments line generalizing start with
  | case1 => exact iff_of_false List.not_mem_nil stands_nil
  | case2 =>
      rw [mem_locate_cons_of_other expression id]
      exact iff_of_false List.not_mem_nil stands_lone_escape
  | case3 c rest ih =>
      rw [mem_locate_cons_of_other expression id, stands_escape]
      exact ih
  | case4 rest content following split ih =>
      obtain ⟨same, balanced⟩ := splitContent?_iff.mp split
      rw [mem_locate_cons, stands_opened, fits_of_closed split, ih]
      apply or_congr_right
      constructor
      · intro stands
        exact ⟨content, following, balanced, same, stands⟩
      · rintro ⟨other, after, otherwise, again, stands⟩
        have found := splitContent?_iff.mpr ⟨again, otherwise⟩
        rw [split] at found
        cases found
        exact stands
  | case5 rest split =>
      rw [mem_locate_cons, stands_opened, fits_of_unclosed split]
      apply or_congr_right
      apply iff_of_false List.not_mem_nil
      rintro ⟨content, after, balanced, same, _⟩
      rw [splitContent?_iff.mpr ⟨same, balanced⟩] at split
      cases split
  | case6 c rest notLone notEscape notOpened ih =>
      rw [mem_locate_cons_of_other expression id, stands_plain]
      · exact ih
      · intro backslash
        cases rest with
        | nil => exact notLone backslash rfl
        | cons d rest => exact notEscape d rest backslash rfl
      · intro dollar opened
        obtain ⟨tail, same⟩ := List.head?_eq_some_iff.mp opened
        exact notOpened tail dollar same

theorem mem_locate_closed :
    (offset, .closed content) ∈ locate start (segments line) ↔
      ∃ before after, line = before ++ '$' :: '{' :: (content ++ '}' :: after) ∧ Passes before ∧
        Balanced content ∧ offset = start + bytes before := by
  have expression : (Segment.closed content).IsExpression := trivial
  rw [mem_locate_segments expression]
  constructor
  · rintro ⟨before, rest, rfl, passes, ⟨balanced, after, rfl⟩, reached⟩
    exact ⟨before, after, rfl, passes, balanced, reached⟩
  · rintro ⟨before, after, rfl, passes, balanced, reached⟩
    exact ⟨before, _, rfl, passes, ⟨balanced, after, rfl⟩, reached⟩

theorem mem_locate_unclosed :
    (offset, .unclosed rest) ∈ locate start (segments line) ↔
      ∃ before, line = before ++ '$' :: '{' :: rest ∧ Passes before ∧
        (∀ content after, Balanced content → rest ≠ content ++ '}' :: after) ∧
        offset = start + bytes before := by
  have expression : (Segment.unclosed rest).IsExpression := trivial
  rw [mem_locate_segments expression]
  constructor
  · rintro ⟨before, other, rfl, passes, ⟨rfl, never⟩, reached⟩
    exact ⟨before, rfl, passes, never, reached⟩
  · rintro ⟨before, rfl, passes, never, reached⟩
    exact ⟨before, rest, rfl, passes, ⟨rfl, never⟩, reached⟩

/-! ### Their order -/

theorem start_le_of_mem_locate {items : List Segment} {item : Nat × Segment}
    (member : item ∈ locate start items) : start ≤ item.1 := by
  induction items generalizing start with
  | nil => cases member
  | cons head tail ih =>
      rcases List.mem_cons.mp member with same | later
      · rw [same]
      · have after := ih later
        omega

theorem pairwise_locate (start : Nat) (items : List Segment) :
    (locate start items).Pairwise fun first second =>
      first.1 + bytes first.2.chars ≤ second.1 := by
  induction items generalizing start with
  | nil => exact .nil
  | cons head tail ih =>
      apply List.Pairwise.cons _ (ih _)
      intro item member
      exact start_le_of_mem_locate member

end TemplateServer.Expression
