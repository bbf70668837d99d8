import TemplateServer.Proofs.Check.Range
import TemplateServer.Proofs.Completion.Print
import TemplateServer.Proofs.Grammar.Malformed

/-!
What is offered, put into an expression on a line of its own. An offered text is a name, or a call
of one whose arguments call nothing, quote nothing and hold no braces. Main statement: when such a
line is added to a text, no error is reported on it.
-/

namespace TemplateServer

open Text Grammar Expression

/-! ### Expressions that are one call -/

namespace Expression

def isTame (c : Char) : Bool :=
  !(isQuote c || isLineBreak c || c == '$' || c == '{' || c == '}')

/-- Whether a text is a name, or a call of it that holds no other. -/
structure OneCall (name content : List Char) : Prop where
  word : ∀ c ∈ name, isWordChar c = true
  tame : ∀ c ∈ content, isTame c = true
  parts : content = name ∨ ∃ arguments, content = name ++ '(' :: arguments ∧ '(' ∉ arguments

variable {mark c : Char} {name content first second rest other left right called : List Char}

theorem isTame_iff : isTame c = true ↔
    isQuote c = false ∧ isLineBreak c = false ∧ c ≠ '$' ∧ c ≠ '{' ∧ c ≠ '}' := by
  simp [isTame, and_assoc]

theorem isTame_of_isWordChar (word : isWordChar c = true) : isTame c = true := by
  have other {d : Char} (refused : isWordChar d = false) : c ≠ d := by
    intro same
    rw [← same, word] at refused
    cases refused
  have inside : isLineBreak c = false :=
    Bool.or_eq_false_iff.mpr ⟨beq_false_of_ne (other rfl), beq_false_of_ne (other rfl)⟩
  exact isTame_iff.mpr ⟨isQuote_of_isWordChar word, inside, other rfl, other rfl, other rfl⟩

/-- There is one place to split a text at a mark that occurs in it once. -/
theorem eq_of_only_mark (absent : mark ∉ first) (alone : mark ∉ rest)
    (same : first ++ mark :: rest = second ++ mark :: other) : first = second ∧ rest = other := by
  apply eq_of_first_mark absent _ same
  intro again
  obtain ⟨before, after, parts, missing⟩ := List.eq_append_cons_of_mem again
  rw [parts, List.append_assoc, List.cons_append] at same
  have later := (eq_of_first_mark absent missing same).2
  apply alone
  rw [later]
  exact List.mem_append_right after List.mem_cons_self

theorem balanced_of_tame (tame : ∀ c ∈ content, isTame c = true) : Balanced content := by
  induction content with
  | nil => exact .nil
  | cons c rest ih =>
      obtain ⟨unquoted, _, _, unopened, unclosed⟩ := isTame_iff.mp (tame c List.mem_cons_self)
      exact .plain unquoted unopened unclosed
        (ih fun d member => tame d (List.mem_cons_of_mem c member))

theorem OneCall.eq_of_calls (one : OneCall name content)
    (calls : Calls content left called right) : called = name := by
  obtain ⟨inside, head⟩ := List.head?_eq_some_iff.mp calls.bracket
  have whole : content = (left ++ (called ++ right.takeWhile isWhiteSpace)) ++ '(' :: inside := by
    rw [calls.parts, List.append_assoc, List.append_assoc, ← takeWhile_append_of_dropWhile head]
  have unmarked : '(' ∉ name := by
    intro member
    have word := one.word '(' member
    cases word
  rcases one.parts with same | ⟨arguments, same, plain⟩
  · rw [← same, whole] at unmarked
    exact absurd (List.mem_append_right _ List.mem_cons_self) unmarked
  · obtain ⟨parts, _⟩ := eq_of_only_mark unmarked plain (same.symm.trans whole)
    have word := one.word
    rw [parts] at word
    -- the name is a run of word characters, so neither end of the called name is inside it
    have first : left = [] := by
      rw [← List.getLast?_eq_none_iff, Option.eq_none_iff_forall_not_mem]
      intro c last
      have refused := calls.leftEnd c last
      rw [word c (List.mem_append_left _ (List.mem_of_getLast? last))] at refused
      cases refused
    have final : right.takeWhile isWhiteSpace = [] := by
      apply List.eq_nil_iff_forall_not_mem.mpr
      intro c member
      have refused := isWordChar_of_isWhiteSpace (List.mem_takeWhile_imp member)
      rw [word c (List.mem_append_right _ (List.mem_append_right _ member))] at refused
      cases refused
    rw [parts, first, final, List.nil_append, List.append_nil]

/-! ### The added line -/

def expressionLine (content : List Char) : List Char :=
  ['-', ' '] ++ '$' :: '{' :: (content ++ ['}'])

variable {start : Nat} {expression call : Piece}

theorem expressionLine_mem_body (content : List Char) : expressionLine content ∈ Form.body :=
  mem_body_of_head (c := '-') rfl (by decide) (by decide) (by decide)

theorem OneCall.plain_expressionLine (one : OneCall name content) :
    Plain (expressionLine content) := by
  have inside : Plain content := fun c member => (isTame_iff.mp (one.tame c member)).2.1
  have closing : Plain ['}'] := plain_cons rfl fun _ => nofun
  exact plain_cons rfl (plain_cons rfl (plain_cons rfl (plain_cons rfl
    (plain_append inside closing))))

/-- The only expression of the line is the one that is put there. -/
theorem OneCall.eq_of_expression (one : OneCall name content)
    (same : expressionLine content = first ++ '$' :: '{' :: rest) : rest = content ++ ['}'] := by
  have unmarked : '$' ∉ '{' :: (content ++ ['}']) := by
    intro member
    rcases List.mem_cons.mp member with brace | member
    · exact absurd brace (by decide)
    · rcases List.mem_append.mp member with inside | last
      · exact (isTame_iff.mp (one.tame '$' inside)).2.2.1 rfl
      · exact absurd last (by decide)
  have parts := (eq_of_only_mark (by decide) unmarked same).2
  exact (List.cons.inj parts).2.symm

theorem OneCall.not_unclosedIn (one : OneCall name content) :
    ¬UnclosedIn ⟨start, expressionLine content⟩ expression := by
  intro unclosed
  obtain ⟨before, rest, same, _, never, _⟩ := unclosed
  exact never content [] (balanced_of_tame one.tame) (one.eq_of_expression same)

theorem OneCall.eq_of_callIn (one : OneCall name content)
    (stands : CallIn ⟨start, expressionLine content⟩ call) : call.chars = name := by
  obtain ⟨before, inside, after, same, _, _, left, right, calls, _⟩ := stands
  have unclosed : '}' ∉ content := fun member => (isTame_iff.mp (one.tame '}' member)).2.2.2.2 rfl
  have parts := one.eq_of_expression same
  obtain ⟨rfl, _⟩ := eq_of_only_mark unclosed List.not_mem_nil parts.symm
  exact one.eq_of_calls calls

end Expression

/-! ### What is offered -/

theorem toNat_lt_of_isNameChar {c : Char} (inside : isNameChar c = true) : c.toNat < 128 := by
  have bound {first last : Char} (small : last.toNat < 128)
      (between : (first ≤ c && c ≤ last) = true) : c.toNat < 128 := by
    have below : c ≤ last := of_decide_eq_true (Bool.and_eq_true_iff.mp between).2
    exact Nat.lt_of_le_of_lt (UInt32.le_iff_toNat_le.mp below) small
  rcases Bool.or_eq_true_iff.mp inside with parameter | dot
  · rcases Bool.or_eq_true_iff.mp parameter with alphanumeric | underscore
    · rcases Bool.or_eq_true_iff.mp alphanumeric with letter | digit
      · rw [← Form.isLetter_eq] at letter
        rcases Bool.or_eq_true_iff.mp letter with upper | lower
        · exact bound (by decide) upper
        · exact bound (by decide) lower
      · rw [← Form.isDigit_eq] at digit
        exact bound (by decide) digit
    · rw [eq_of_beq underscore]
      decide
  · rw [eq_of_beq dot]
    decide

theorem isWordChar_of_isNameChar {c : Char} (inside : isNameChar c = true) :
    isWordChar c = true := by
  have ascii : ∀ code < 128, isNameChar (Char.ofNat code) = true →
      isWordChar (Char.ofNat code) = true := by
    decide +kernel
  rw [← Char.ofNat_toNat c] at inside ⊢
  exact ascii c.toNat (toNat_lt_of_isNameChar (by rwa [Char.ofNat_toNat] at inside)) inside

theorem isTame_of_isNameChar {c : Char} (inside : isNameChar c = true) :
    isTame c = true ∧ c ≠ '(' := by
  have word := isWordChar_of_isNameChar inside
  refine ⟨isTame_of_isWordChar word, ?_⟩
  intro bracket
  rw [bracket] at word
  cases word

theorem Completion.oneCall_call {name : String} {arguments : List String}
    (word : ∀ c ∈ name.toList, isWordChar c = true)
    (each : ∀ argument ∈ arguments, ∀ c ∈ argument.toList, isTame c = true ∧ c ≠ '(') :
    OneCall name.toList (Completion.call name arguments).toList := by
  have inside : ∀ c ∈ printedParameters (arguments.map String.toList),
      isTame c = true ∧ c ≠ '(' := by
    have comma : ∀ c ∈ [',', ' '], isTame c = true ∧ c ≠ '(' :=
      List.forall_mem_cons.mpr ⟨by decide, List.forall_mem_singleton.mpr (by decide)⟩
    intro c member
    rcases List.mem_append.mp member with listed | closing
    · exact forall_mem_intercalate comma (List.forall_mem_map.mpr each) c listed
    · rw [List.mem_singleton.mp closing]
      decide
  rw [toList_call]
  refine ⟨word, ?_, Or.inr ⟨_, rfl, fun member => (inside '(' member).2 rfl⟩⟩
  intro c member
  rcases List.mem_append.mp member with named | listed
  · exact isTame_of_isWordChar (word c named)
  · rcases List.mem_cons.mp listed with rfl | listed
    · rfl
    · exact (inside c listed).1

theorem Builtin.all_name : ∀ builtin ∈ Builtin.all,
    builtin.name.toList.all isParameterChar = true := by
  decide +kernel

theorem Builtin.all_parameter : ∀ builtin ∈ Builtin.all, ∀ parameter ∈ builtin.parameters,
    (parameter.name.toList.all fun c => isNameChar c || c == '?') = true := by
  decide +kernel

variable {builtin : Builtin}

theorem Builtin.isWordChar_of_name (listed : builtin ∈ Builtin.all) :
    ∀ c ∈ builtin.name.toList, isWordChar c = true := by
  intro c member
  have inside := List.all_eq_true.mp (Builtin.all_name builtin listed) c member
  exact isWordChar_of_isNameChar (Bool.or_eq_true_iff.mpr (Or.inl inside))

theorem Builtin.isTame_of_parameter (listed : builtin ∈ Builtin.all) {parameter : Parameter}
    (given : parameter ∈ builtin.parameters) :
    ∀ c ∈ parameter.name.toList, isTame c = true ∧ c ≠ '(' := by
  intro c member
  have spelled := Builtin.all_parameter builtin listed parameter given
  rcases Bool.or_eq_true_iff.mp (List.all_eq_true.mp spelled c member) with inside | optional
  · exact isTame_of_isNameChar inside
  · rw [eq_of_beq optional]
    decide

/-- No builtin function has a name that is qualified. -/
theorem Builtin.unqualified_name (listed : builtin ∈ Builtin.all) :
    Builtin.unqualified builtin.name = builtin.name := by
  apply if_neg
  intro qualified
  have dot : '.' ∈ builtin.name.toList :=
    (List.isPrefixOf_iff_prefix.mp qualified).subset (by decide)
  have inside := List.all_eq_true.mp (Builtin.all_name builtin listed) '.' dot
  cases inside

theorem Completion.exists_oneCall {source text : String} {item : Completion}
    (offered : item ∈ Completion.all (Reading.ofText source text).templates) :
    ∃ name : String, OneCall name.toList item.insertion.toList ∧
      (name ∈ (Reading.ofText source text).templates.map Template.name ∨
        ∃ builtin ∈ Builtin.all, builtin.name = name) := by
  rcases List.mem_append.mp offered with defined | built
  · obtain ⟨template, listed, rfl⟩ := List.mem_map.mp defined
    obtain ⟨parts, legible, templates⟩ := Reading.exists_legible source text
    have known : template.name ∈ (Reading.ofText source text).templates.map Template.name :=
      List.mem_map.mpr ⟨template, listed, rfl⟩
    rw [templates] at listed
    obtain ⟨part, found, rfl⟩ := List.mem_map.mp listed
    have readable := legible part found
    refine ⟨part.name, ?_, Or.inl known⟩
    have word : ∀ c ∈ part.name.toList, isWordChar c = true := by
      intro c member
      rw [Section.name, Piece.text, String.toList_ofList] at member
      exact isWordChar_of_isNameChar (isNameChar_of_name readable.name c member)
    unfold Completion.ofTemplate
    simp only
    split
    · exact ⟨word, fun c member => isTame_of_isWordChar (word c member), Or.inl rfl⟩
    · apply Completion.oneCall_call word
      intro argument member c inside
      obtain ⟨parameter, given, rfl⟩ := List.mem_map.mp member
      rw [Piece.text, String.toList_ofList] at inside
      exact isTame_of_isNameChar
        (isNameChar_of_parameter (readable.parameters parameter given) c inside)
  · obtain ⟨builtin, listed, rfl⟩ := List.mem_map.mp built
    refine ⟨builtin.name, ?_, Or.inr ⟨builtin, listed, rfl⟩⟩
    apply Completion.oneCall_call (Builtin.isWordChar_of_name listed)
    intro argument member
    obtain ⟨parameter, given, rfl⟩ := List.mem_map.mp member
    exact Builtin.isTame_of_parameter listed given

theorem Check.known_of_offered {templates : List String} {name : String}
    (offered : name ∈ templates ∨ ∃ builtin ∈ Builtin.all, builtin.name = name) :
    Known templates name := by
  refine ⟨Builtin.unqualified name, unqualifies_iff.mpr rfl, ?_⟩
  rcases offered with template | ⟨builtin, listed, rfl⟩
  · exact Or.inl template
  · exact Or.inr (Or.inr ⟨builtin, listed, (Builtin.unqualified_name listed).symm⟩)

/-! ### Where errors are reported -/

/-- What an error may be about on a line: it starts like a header, or it holds an expression that is
not closed or a call of something unknown. -/
def Blamed (text : List Char) (line : Piece) : Prop :=
  line.chars ∈ Form.marked '#' ∨ ∃ outline, Outline.ofText text = .ok outline ∧
    ∃ subject, UnclosedIn line subject ∨
      CallIn line subject ∧ ¬Check.Known (outline.sections.map Section.name) subject.text

theorem marked_of_isHeader {line : Piece} (headed : IsHeader line) :
    line.chars ∈ Form.marked '#' :=
  (Form.mem_marked line.chars rfl).mpr ((Form.mem_header line).mp headed).1

theorem Problem.Concerns.exists_blamed {text : List Char} {outline : Outline} {front : List Piece}
    {blocks : List Block} (read : Outline.ofText text = .ok outline)
    (covers : outline.Covers front blocks) {problem : Problem} {subject : Piece}
    (concerns : problem.Concerns outline subject) (grave : problem.severity = .error) :
    ∃ line ∈ front ++ blocks.flatMap Block.lines, subject.Within line ∧ Blamed text line := by
  have heading {part : Section} (listed : part ∈ outline.sections) {piece : Piece}
      (member : piece ∈ part.header.name :: part.header.parameters) :
      ∃ line ∈ front ++ blocks.flatMap Block.lines, piece.Within line ∧ Blamed text line := by
    obtain ⟨block, found, records⟩ := mem_of_forall₂ covers.sections listed
    have among : block.heading ∈ blocks.flatMap Block.lines :=
      List.mem_flatMap.mpr ⟨block, found, List.mem_cons_self⟩
    exact ⟨block.heading, List.mem_append_right front among,
      records.header.picks.within piece member, Or.inl (marked_of_isHeader records.headed)⟩
  cases problem with
  | strayContent => cases grave
  | repeatedImport path label => cases grave
  | emptyTemplate name => cases grave
  | repeatedTemplate name =>
      obtain ⟨_, part, listed, rfl⟩ := concerns
      exact heading listed List.mem_cons_self
  | repeatedParameter parameter template =>
      obtain ⟨_, part, listed, _, member⟩ := concerns
      exact heading listed (List.mem_cons_of_mem _ member)
  | unclosedExpression expression =>
      obtain ⟨_, part, listed, line, member, stands⟩ := concerns
      exact ⟨line, (covers.mem_lines listed member).1, stands.within,
        Or.inr ⟨outline, read, subject, Or.inl stands⟩⟩
  | unknownFunction name =>
      obtain ⟨rfl, ⟨part, listed, line, member, stands⟩, unknown⟩ := concerns
      exact ⟨line, (covers.mem_lines listed member).1, stands.within,
        Or.inr ⟨outline, read, subject, Or.inr ⟨stands, unknown⟩⟩⟩

/-- Every error starts on a line that it can be blamed on. -/
theorem Reading.exists_blamed {source text : String} {lines : List Piece}
    (apart : Lines 0 text.toList lines) {diagnostic : Diagnostic}
    (reported : diagnostic ∈ (Reading.ofText source text).diagnostics)
    (grave : diagnostic.severity = .error) :
    ∃ line ∈ lines, Blamed text.toList line ∧
      ∃ offset ≤ line.stop, diagnostic.range.start = positionOf text.toList offset := by
  unfold Reading.ofText at reported
  cases read : Outline.ofText text.toList with
  | error fault =>
      rw [read] at reported
      have same := List.mem_singleton.mp reported
      subst same
      obtain ⟨before, line, after, rfl, _, failed⟩ := exists_malformed_of_ofText apart read
      obtain ⟨marked, reported⟩ := ofLine_error failed
      have inside := (Piece.within_drop _ 1).trans (Piece.within_dropWhile line isBlank)
      exact ⟨line, List.mem_append_right before List.mem_cons_self, Or.inl marked, fault.offset,
        (reported.widen inside).bounds.2, rfl⟩
  | ok outline =>
      rw [read] at reported
      obtain ⟨front, blocks, whole, covers⟩ := covers_ofText read
      obtain ⟨finding, found, same⟩ := List.mem_map.mp (List.mem_mergeSort.mp reported)
      obtain ⟨subject, about, concerns⟩ := Check.sound_of_mem_findings covers found
      rw [← same] at grave
      obtain ⟨line, listed, within, blamed⟩ := concerns.exists_blamed read covers grave
      rw [lines_iff.mp whole, ← lines_iff.mp apart] at listed
      refine ⟨line, listed, blamed, subject.start, ?_, ?_⟩
      · have last := within.stop_le
        unfold Piece.stop at last ⊢
        omega
      · rw [← same, about]
        rfl

/-! ### The main statement -/

/-- A text with a line added that puts a completion into an expression. -/
def Completion.addedTo (item : Completion) (text : String) : String :=
  text ++ "\n- $\x7b" ++ item.insertion ++ "\x7d"

theorem Completion.toList_addedTo (item : Completion) (text : String) :
    (item.addedTo text).toList =
      text.toList ++ '\n' :: expressionLine item.insertion.toList := by
  unfold Completion.addedTo
  rw [String.toList_append, String.toList_append, String.toList_append, List.append_assoc,
    List.append_assoc]
  rfl

theorem Reading.mem_names_add (source : String) {text : String} {row : List Char} {longer : Outline}
    (plain : Plain row) (body : row ∈ Form.body)
    (again : Outline.ofText (text.toList ++ '\n' :: row) = .ok longer) {name : String}
    (listed : name ∈ (Reading.ofText source text).templates.map Template.name) :
    name ∈ longer.sections.map Section.name := by
  unfold Reading.ofText at listed
  cases read : Outline.ofText text.toList with
  | error fault =>
      rw [read] at listed
      cases listed
  | ok outline =>
      have same := headers_add plain body read again
      have names : longer.sections.map Section.name = outline.sections.map Section.name := by
        have texts := congrArg (List.map fun header => header.name.text) same
        rw [List.map_map, List.map_map] at texts
        exact texts
      rw [read, List.map_map] at listed
      rw [names]
      exact listed

theorem Completion.not_blamed {source text : String} {item : Completion}
    (offered : item ∈ Completion.all (Reading.ofText source text).templates) {start : Nat} :
    ¬Blamed (item.addedTo text).toList ⟨start, expressionLine item.insertion.toList⟩ := by
  obtain ⟨name, one, known⟩ := Completion.exists_oneCall offered
  have body := expressionLine_mem_body item.insertion.toList
  intro blamed
  rcases blamed with marked | ⟨outline, read, subject, unclosed | ⟨stands, unknown⟩⟩
  · exact body.1 marked
  · exact one.not_unclosedIn unclosed
  · apply unknown
    have called : subject.text = name := by
      unfold Piece.text
      rw [one.eq_of_callIn stands, String.ofList_toList]
    rw [called]
    apply Check.known_of_offered
    rw [Completion.toList_addedTo] at read
    exact known.imp_left (Reading.mem_names_add source one.plain_expressionLine body read)

/-- Whatever is offered can be put into an expression on a new line without an error on that line,
which comes after as many line feeds as the text has and one more. The ranges of errors elsewhere are
sent as they are if the text takes less than 2 ^ 32 bytes then. -/
theorem Reading.ofText_accepts_offered {source text : String} {item : Completion}
    (offered : item ∈ Completion.all (Reading.ofText source text).templates)
    {diagnostic : Diagnostic}
    (reported : diagnostic ∈ (Reading.ofText source (item.addedTo text)).diagnostics)
    (grave : diagnostic.severity = .error) :
    diagnostic.range.start.line ≠ text.toList.count '\n' + 1 ∧
      (bytes (item.addedTo text).toList < UInt32.size →
        diagnostic.range.wrapped = diagnostic.range) := by
  refine ⟨?_, fun small => Reading.wrapped_range small reported⟩
  obtain ⟨name, one, _⟩ := Completion.exists_oneCall offered
  obtain ⟨earlier, _, apart⟩ := (lines_linesFrom 0 text.toList).add one.plain_expressionLine
  have ordered := (List.pairwise_append.mp apart.picks.ordered).2.2
  rw [← Completion.toList_addedTo] at apart
  obtain ⟨line, member, blamed, offset, inside, start⟩ :=
    Reading.exists_blamed apart reported grave
  -- an earlier line ends before the added line feed, so its places are on an earlier line as the
  -- editor counts them
  rcases List.mem_append.mp member with kept | added
  · have before := ordered line kept _ (List.mem_singleton_self _)
    have reached : offset ≤ bytes text.toList := by
      change line.stop < 0 + bytes text.toList + 1 at before
      omega
    have above := line_positionOf_le reached ('\n' :: expressionLine item.insertion.toList)
    rw [start, Completion.toList_addedTo]
    omega
  · rw [List.mem_singleton.mp added] at blamed
    exact absurd blamed (Completion.not_blamed offered)

/-- A text that ends in a carriage return and has an error of its own, and a template of it with two
parameters. -/
theorem offered_after_carriage_return :
    ∃ item ∈ Completion.all (Reading.ofText "" "# A.b(x, y)\n- $\x7bnope()\x7d\r").templates,
      item.insertion = "A.b(x, y)" ∧
      ∃ diagnostic ∈
        (Reading.ofText "" (item.addedTo "# A.b(x, y)\n- $\x7bnope()\x7d\r")).diagnostics,
        diagnostic.severity = .error ∧
        diagnostic.range.start.line ≠ "# A.b(x, y)\n- $\x7bnope()\x7d\r".toList.count '\n' + 1 := by
  have read : Outline.ofText "# A.b(x, y)\n- $\x7bnope()\x7d\r".toList =
      .ok ⟨[], [⟨⟨⟨2, ['A', '.', 'b']⟩, [⟨6, ['x']⟩, ⟨9, ['y']⟩]⟩,
        [⟨12, "- $\x7bnope()\x7d".toList⟩, ⟨24, []⟩]⟩], []⟩ := by
    decide +kernel
  have again : Outline.ofText
      "# A.b(x, y)\n- $\x7bnope()\x7d\r\n- $\x7bA.b(x, y)\x7d".toList =
      .ok ⟨[], [⟨⟨⟨2, ['A', '.', 'b']⟩, [⟨6, ['x']⟩, ⟨9, ['y']⟩]⟩,
        [⟨12, "- $\x7bnope()\x7d".toList⟩, ⟨25, "- $\x7bA.b(x, y)\x7d".toList⟩]⟩], []⟩ := by
    decide +kernel
  have offered : ⟨"A.b", .template, "Template", "- $\x7bnope()\x7d", "A.b(x, y)"⟩ ∈
      Completion.all (Reading.ofText "" "# A.b(x, y)\n- $\x7bnope()\x7d\r").templates := by
    unfold Reading.ofText
    rw [read]
    exact List.mem_append_left _ (by decide +kernel)
  have reported : ⟨.error, ⟨⟨1, 4⟩, ⟨1, 8⟩⟩,
        "\x27nope\x27 is neither a template nor a builtin function"⟩ ∈
      (Reading.ofText ""
        "# A.b(x, y)\n- $\x7bnope()\x7d\r\n- $\x7bA.b(x, y)\x7d").diagnostics := by
    unfold Reading.ofText
    rw [again]
    exact List.mem_mergeSort.mpr (by decide +kernel)
  exact ⟨_, offered, rfl, _, reported, rfl,
    (Reading.ofText_accepts_offered offered reported rfl).1⟩

end TemplateServer
