import TemplateServer.Proofs.Expression.Call
import TemplateServer.Proofs.Expression.Decomposition

/-!
Quoted literals in the content of an expression. They are read twice: by the scan for the closing
brace, which has a quotation mark open, and by the search for calls, which skips them. Main
statement: in a closed expression both read the same literals, every one of them ends in the content,
and the calls are the words with an opening bracket after them that stand between the literals.
-/

namespace TemplateServer.Expression

open Text

def literalsIn (start : Nat) : List Lexeme → List Piece
  | [] => []
  | .literal mark inside terminated :: rest =>
    let chars := (Lexeme.literal mark inside terminated).chars
    ⟨start, chars⟩ :: literalsIn (start + bytes chars) rest
  | lexeme :: rest => literalsIn (start + bytes lexeme.chars) rest

/-- The literals in the content of an expression that starts at `start`. -/
def literals (start : Nat) (content : List Char) : List Piece :=
  literalsIn start (lexemes content)

/-- Whether a piece is a literal: a quotation mark, characters other than it, and it again. -/
def IsLiteral (piece : Piece) : Prop :=
  ∃ mark inside, piece.chars = mark :: (inside ++ [mark]) ∧ isQuote mark = true ∧ mark ∉ inside

/-- Whether a place is after the mark that opens a literal and before the end of the literal. -/
structure Inside (mark : Char) (place : Nat) (literal : Piece) : Prop where
  head : literal.chars.head? = some mark
  after : literal.start < place
  before : place < literal.stop

variable {start offset place : Nat} {mark : Char} {content text line run inside rest : List Char}
  {call literal : Piece} {pieces : List Piece} {items : List Lexeme}

/-! ### Open quotation marks -/

theorem foldl_nextQuote_of_plain (plain : ∀ c ∈ run, isQuote c = false) :
    run.foldl nextQuote none = none := by
  induction run with
  | nil => rfl
  | cons c run ih =>
      have unquoted : nextQuote none c = none := by
        simp [nextQuote, plain c List.mem_cons_self]
      rw [List.foldl_cons, unquoted]
      exact ih fun d member => plain d (List.mem_cons_of_mem c member)

theorem foldl_nextQuote_of_absent (absent : mark ∉ inside) :
    inside.foldl nextQuote (some mark) = some mark := by
  induction inside with
  | nil => rfl
  | cons c inside ih =>
      rw [List.mem_cons, not_or] at absent
      have stays : nextQuote (some mark) c = some mark := by
        simp [nextQuote, Ne.symm absent.1]
      rw [List.foldl_cons, stays]
      exact ih absent.2

theorem openQuote_append_of_plain (plain : ∀ c ∈ run, isQuote c = false) (rest : List Char) :
    openQuote (run ++ rest) = openQuote rest := by
  unfold openQuote
  rw [List.foldl_append, foldl_nextQuote_of_plain plain]

theorem openQuote_of_mark (quotes : isQuote mark = true) (absent : mark ∉ inside) :
    openQuote (mark :: inside) = some mark := by
  have opened : nextQuote none mark = some mark := by simp [nextQuote, quotes]
  unfold openQuote
  rw [List.foldl_cons, opened]
  exact foldl_nextQuote_of_absent absent

theorem openQuote_literal (quotes : isQuote mark = true) (absent : mark ∉ inside)
    (rest : List Char) : openQuote (mark :: inside ++ mark :: rest) = openQuote rest := by
  have opened := openQuote_of_mark quotes absent
  have closed : nextQuote (some mark) mark = none := by simp [nextQuote]
  unfold openQuote at opened ⊢
  rw [List.foldl_append, opened, List.foldl_cons, closed]

/-- A quotation mark that is open at first and not at the end is closed by the first one like it. -/
theorem exists_mark_of_foldl (ended : text.foldl nextQuote (some mark) = none) :
    ∃ inside rest, text = inside ++ mark :: rest ∧ mark ∉ inside ∧ openQuote rest = none := by
  induction text with
  | nil => cases ended
  | cons c text ih =>
      rw [List.foldl_cons] at ended
      by_cases ends : c = mark
      · have closed : nextQuote (some mark) c = none := by simp [nextQuote, ends]
        rw [closed] at ended
        exact ⟨[], text, by rw [ends, List.nil_append], List.not_mem_nil, ended⟩
      · have stays : nextQuote (some mark) c = some mark := by simp [nextQuote, ends]
        rw [stays] at ended
        rcases ih ended with ⟨inside, rest, same, absent, later⟩
        refine ⟨c :: inside, rest, by rw [same, List.cons_append], ?_, later⟩
        exact List.not_mem_cons_of_ne_of_not_mem (Ne.symm ends) absent

theorem Unquoted.openQuote_eq (unquoted : Unquoted text) : openQuote text = none := by
  induction unquoted with
  | nil => rfl
  | @other c rest plain following ih =>
      rw [← ih]
      exact openQuote_append_of_plain (List.forall_mem_singleton.mpr plain) rest
  | @literal mark inside rest quotes absent following ih =>
      rw [← ih]
      exact openQuote_literal quotes absent rest

theorem unquoted_of_openQuote (ended : openQuote text = none) : Unquoted text := by
  -- a literal is read as a whole, so the induction is on the length of what is left
  induction size : text.length using Nat.strong_induction_on generalizing text with
  | _ length ih =>
      cases text with
      | nil => exact .nil
      | cons c rest =>
          rw [List.length_cons] at size
          cases quotes : isQuote c with
          | false =>
              have later : openQuote rest = none := by
                rw [← ended]
                exact (openQuote_append_of_plain (List.forall_mem_singleton.mpr quotes) rest).symm
              exact .other quotes (ih rest.length (by omega) later rfl)
          | true =>
              have opened : nextQuote none c = some c := by simp [nextQuote, quotes]
              unfold openQuote at ended
              rw [List.foldl_cons, opened] at ended
              rcases exists_mark_of_foldl ended with ⟨inside, following, same, absent, later⟩
              rw [same, List.length_append, List.length_cons] at size
              rw [same]
              exact .literal quotes absent (ih following.length (by omega) later rfl)

/-! ### Both readings of the literals -/

/-- Whether pieces are the literals of a content that starts at an offset: each is one, stands in the
content, and at each place a quotation mark is open if and only if the place is inside of one. -/
structure Quotes (start : Nat) (content : List Char) (pieces : List Piece) : Prop where
  isLiteral : ∀ piece ∈ pieces, IsLiteral piece
  within : ∀ piece ∈ pieces, piece.Within ⟨start, content⟩
  opens : ∀ before after mark, content = before ++ after →
    (openQuote before = some mark ↔ ∃ piece ∈ pieces, Inside mark (start + bytes before) piece)

theorem quotes_nil (start : Nat) : Quotes start [] [] := by
  refine ⟨fun _ => nofun, fun _ => nofun, ?_⟩
  intro before after mark cut
  have nothing : before = [] := (List.append_eq_nil_iff.mp cut.symm).1
  rw [nothing]
  constructor
  · exact nofun
  · intro found
    rcases found with ⟨piece, member, _⟩
    cases member

theorem within_append {piece : Piece} (front : List Char)
    (within : piece.Within ⟨start + bytes front, rest⟩) : piece.Within ⟨start, front ++ rest⟩ :=
  within.trans ⟨front, [], by simp, rfl⟩

/-- Before the first literal no place is inside of one. -/
theorem Quotes.not_inside (quotes : Quotes start content pieces) (early : place ≤ start)
    (member : literal ∈ pieces) : ¬Inside mark place literal := by
  intro around
  have late := (quotes.within literal member).start_le
  have reached := around.after
  change start ≤ literal.start at late
  omega

theorem Quotes.skip (plain : ∀ c ∈ run, isQuote c = false)
    (quotes : Quotes (start + bytes run) rest pieces) : Quotes start (run ++ rest) pieces := by
  refine ⟨quotes.isLiteral, fun piece member => within_append run (quotes.within piece member), ?_⟩
  intro before after mark cut
  rcases List.append_eq_append_iff.mp cut with ⟨middle, longer, remaining⟩ | ⟨middle, shorter, _⟩
  · rw [longer, openQuote_append_of_plain plain, bytes_append, ← Nat.add_assoc]
    exact quotes.opens middle after mark remaining
  · -- the place is among the characters that are skipped
    have unquoted : openQuote before = none := by
      apply foldl_nextQuote_of_plain
      intro c member
      apply plain
      rw [shorter]
      exact List.mem_append_left middle member
    have early : start + bytes before ≤ start + bytes run := by
      rw [shorter, bytes_append]
      omega
    rw [unquoted]
    constructor
    · exact nofun
    · intro found
      rcases found with ⟨piece, member, around⟩
      exact absurd around (quotes.not_inside early member)

theorem bytes_literal (mark : Char) (inside : List Char) :
    bytes (mark :: inside ++ [mark]) = bytes (mark :: inside) + mark.utf8Size := by
  rw [bytes_append, bytes_cons mark [], bytes_nil, Nat.add_zero]

/-- Within a literal its mark is open, and the other literals come later. -/
theorem Quotes.opens_within_first (marked : isQuote mark = true)
    (quotes : Quotes (start + bytes (mark :: inside ++ [mark])) rest pieces) {part : List Char}
    (absent : mark ∉ part) (short : bytes part ≤ bytes inside) (other : Char) :
    openQuote (mark :: part) = some other ↔
      ∃ piece ∈ ⟨start, mark :: inside ++ [mark]⟩ :: pieces,
        Inside other (start + bytes (mark :: part)) piece := by
  have size := bytes_literal mark inside
  have positive := mark.utf8Size_pos
  rw [bytes_cons] at size
  rw [openQuote_of_mark marked absent, Option.some.injEq, bytes_cons]
  constructor
  · intro same
    subst same
    refine ⟨_, List.mem_cons_self, rfl, ?_, ?_⟩
    · change start < start + _
      omega
    · change _ < start + bytes (mark :: inside ++ [mark])
      omega
  · intro found
    rcases found with ⟨piece, member, near⟩
    rcases List.mem_cons.mp member with rfl | later
    · exact Option.some.inj near.head
    · exact absurd near (quotes.not_inside (by omega) later)

theorem Quotes.cons_literal (marked : isQuote mark = true) (absent : mark ∉ inside)
    (quotes : Quotes (start + bytes (mark :: inside ++ [mark])) rest pieces) :
    Quotes start (mark :: inside ++ mark :: rest) (⟨start, mark :: inside ++ [mark]⟩ :: pieces) := by
  have whole : mark :: inside ++ mark :: rest = (mark :: inside ++ [mark]) ++ rest := by simp
  refine ⟨?_, ?_, ?_⟩
  · exact List.forall_mem_cons.mpr ⟨⟨mark, inside, rfl, marked, absent⟩, quotes.isLiteral⟩
  · rw [whole, List.forall_mem_cons]
    exact ⟨⟨[], rest, rfl, rfl⟩, fun piece member => within_append _ (quotes.within piece member)⟩
  · intro before after other cut
    rcases List.append_eq_append_iff.mp cut with
      ⟨middle, longer, remaining⟩ | ⟨middle, shorter, _⟩
    · cases middle with
      | nil =>
          rw [longer, List.append_nil]
          exact quotes.opens_within_first marked absent (Nat.le_refl _) other
      | cons first middle =>
          -- the literal is over
          rw [List.cons_append, List.cons.injEq] at remaining
          rw [← remaining.1] at longer
          have later : start + bytes before =
              start + bytes (mark :: inside ++ [mark]) + bytes middle := by
            rw [longer, bytes_append, bytes_cons mark middle, bytes_literal]
            omega
          rw [later, longer, openQuote_literal marked absent,
            quotes.opens middle after other remaining.2]
          simp only [List.mem_cons, exists_eq_or_imp]
          rw [or_iff_right]
          intro near
          have reached := near.before
          change _ < start + bytes (mark :: inside ++ [mark]) at reached
          omega
    · cases before with
      | nil =>
          constructor
          · exact nofun
          · intro found
            rcases found with ⟨piece, member, near⟩
            have reached := near.after
            rw [bytes_nil] at reached
            rcases List.mem_cons.mp member with rfl | later
            · exact absurd reached (Nat.lt_irrefl _)
            · exact absurd near (quotes.not_inside (Nat.le_add_right _ _) later)
      | cons first part =>
          rw [List.cons_append, List.cons.injEq] at shorter
          rw [← shorter.1]
          apply quotes.opens_within_first marked
          · intro member
            apply absent
            rw [shorter.2]
            exact List.mem_append_left middle member
          · rw [shorter.2, bytes_append]
            exact Nat.le_add_right _ _

/-- If no quotation mark is open at the end of a content, the literals that the search for calls
skips are those in which one is open. -/
theorem quotes_literals (ended : openQuote content = none) :
    Quotes start content (literals start content) := by
  unfold literals
  fun_induction lexemes content generalizing start with
  | case1 => exact quotes_nil start
  | case2 mark rest marked found =>
      -- the mark would stay open
      have absent : mark ∉ rest := by
        intro member
        have different := List.dropWhile_eq_nil_iff.mp found mark member
        simp at different
      rw [openQuote_of_mark marked absent] at ended
      cases ended
  | case3 mark rest marked closing following found ih =>
      have stops := stops_dropWhile (· != mark) rest
      rw [found] at stops
      have closes : closing = mark := by simpa using stops closing rfl
      subst closes
      have parts : rest = rest.takeWhile (· != closing) ++ closing :: following :=
        takeWhile_append_of_dropWhile found
      have absent := not_mem_takeWhile_ne closing rest
      have whole : closing :: rest =
          closing :: rest.takeWhile (· != closing) ++ closing :: following :=
        congrArg (closing :: ·) parts
      rw [whole, openQuote_literal marked absent] at ended
      rw [whole]
      exact (ih ended).cons_literal marked absent
  | case4 c rest unquoted wordly ih =>
      have whole : c :: rest = (c :: rest.takeWhile isWordChar) ++ rest.dropWhile isWordChar := by
        rw [List.cons_append, List.takeWhile_append_dropWhile]
      have plain : ∀ d ∈ c :: rest.takeWhile isWordChar, isQuote d = false := by
        rw [List.forall_mem_cons]
        refine ⟨isQuote_of_isWordChar wordly, ?_⟩
        intro d taken
        exact isQuote_of_isWordChar (List.mem_takeWhile_imp taken)
      rw [whole, openQuote_append_of_plain plain] at ended
      rw [whole]
      exact (ih ended).skip plain
  | case5 c rest unquoted refused ih =>
      have plain : ∀ d ∈ [c], isQuote d = false :=
        List.forall_mem_singleton.mpr (eq_false_of_ne_true unquoted)
      have later : openQuote rest = none := by
        rw [← ended]
        exact (openQuote_append_of_plain plain rest).symm
      exact (ih later).skip plain

/-! ### Calls and literals -/

theorem start_le_of_mem_literalsIn (member : literal ∈ literalsIn start items) :
    start ≤ literal.start := by
  induction items generalizing start with
  | nil => cases member
  | cons head tail ih =>
      cases head with
      | literal mark inside terminated =>
          rcases List.mem_cons.mp member with rfl | later
          · exact Nat.le_refl start
          · have after := ih later
            omega
      | word run =>
          have after := ih member
          omega
      | other c =>
          have after := ih member
          omega

theorem callsIn_apart_literalsIn (called : call ∈ callsIn start items)
    (member : literal ∈ literalsIn start items) :
    call.stop ≤ literal.start ∨ literal.stop ≤ call.start := by
  induction items generalizing start with
  | nil => cases member
  | cons head tail ih =>
      cases head with
      | literal mark inside terminated =>
          rcases List.mem_cons.mp member with rfl | later
          · exact Or.inr (start_le_of_mem_callsIn called)
          · exact ih called later
      | word run =>
          rcases mem_callsIn_word.mp called with ⟨rfl, _⟩ | later
          · exact Or.inl (start_le_of_mem_literalsIn member)
          · exact ih later member
      | other c => exact ih called member

/-- The calls in a content in terms of the quotation mark that is open before them. -/
theorem mem_calls_iff :
    call ∈ calls start content ↔
      ∃ left right, content = left ++ (call.chars ++ right) ∧ call.start = start + bytes left ∧
        openQuote left = none ∧ (∃ c, call.chars.head? = some c ∧ isCallStart c = true) ∧
        (∀ c ∈ call.chars, isWordChar c = true) ∧
        (∀ c, left.getLast? = some c → isWordChar c = false) ∧ Stops isWordChar right ∧
        (right.dropWhile isWhiteSpace).head? = some '(' := by
  rw [mem_calls]
  constructor
  · intro stands
    rcases stands with ⟨left, right, calls, reached⟩
    exact ⟨left, right, calls.parts, reached, calls.unquoted.openQuote_eq, calls.starts,
      calls.word, calls.leftEnd, calls.rightEnd, calls.bracket⟩
  · intro found
    rcases found with ⟨left, right, parts, reached, ended, starts, word, leftEnd, rightEnd, bracket⟩
    exact ⟨left, right, ⟨parts, unquoted_of_openQuote ended, starts, word, leftEnd, rightEnd, bracket⟩,
      reached⟩

theorem start_lt_stop_of_mem_calls (called : call ∈ calls start content) :
    call.start < call.stop := by
  rcases mem_calls.mp called with ⟨left, right, calls, _⟩
  rcases calls.exists_cons with ⟨c, tail, same, _⟩
  have positive := c.utf8Size_pos
  unfold Piece.stop
  rw [same, bytes_cons]
  omega

theorem pairwise_calls_lt (start : Nat) (content : List Char) :
    (calls start content).Pairwise fun first second =>
      first.start < second.start ∧ first.stop ≤ second.start := by
  apply (pairwise_callsIn start (lexemes content)).imp_of_mem
  intro first second member _ ordered
  have filled := start_lt_stop_of_mem_calls member
  omega

/-! ### The main statement -/

/-- In the content of a closed expression the search for calls skips whole literals, and the scan for
the closing brace has a quotation mark open at exactly the places inside of them. A call is found
where that scan has none open and a word that starts like a name has an opening bracket after it.
Calls and literals do not overlap, and the calls are found one after the other. -/
theorem calls_between_literals
    (found : (offset, .closed content) ∈ locate start (segments line)) (place : Nat) :
    (∀ literal ∈ literals place content, IsLiteral literal ∧ literal.Within ⟨place, content⟩) ∧
    (∀ before after, content = before ++ after → ∃ nesting,
      Nesting.outermost.run? before = some nesting ∧ ∀ mark, nesting.quote = some mark ↔
        ∃ literal ∈ literals place content, Inside mark (place + bytes before) literal) ∧
    (∀ call, call ∈ calls place content ↔ ∃ left right depth,
      content = left ++ (call.chars ++ right) ∧ call.start = place + bytes left ∧
      Nesting.outermost.run? left = some ⟨depth, none⟩ ∧
      (∃ c, call.chars.head? = some c ∧ isCallStart c = true) ∧
      (∀ c ∈ call.chars, isWordChar c = true) ∧
      (∀ c, left.getLast? = some c → isWordChar c = false) ∧ Stops isWordChar right ∧
      (right.dropWhile isWhiteSpace).head? = some '(') ∧
    (∀ call ∈ calls place content, ∀ literal ∈ literals place content,
      call.stop ≤ literal.start ∨ literal.stop ≤ call.start) ∧
    (calls place content).Pairwise fun first second =>
      first.start < second.start ∧ first.stop ≤ second.start := by
  rcases (decomposes_segments line).closed_at found with ⟨_, _, _, _, complete, never⟩
  have quotes : Quotes place content (literals place content) := quotes_literals complete.1
  refine ⟨?_, ?_, ?_, ?_, pairwise_calls_lt place content⟩
  · intro literal member
    exact ⟨quotes.isLiteral literal member, quotes.within literal member⟩
  · intro before after cut
    have scanned := (never.run?_eq ⟨after, cut.symm⟩).2
    exact ⟨_, scanned, fun mark => quotes.opens before after mark cut⟩
  · intro call
    rw [mem_calls_iff]
    constructor
    · intro stands
      rcases stands with ⟨left, right, parts, reached, ended, word⟩
      have scanned := (never.run?_eq ⟨call.chars ++ right, parts.symm⟩).2
      rw [ended] at scanned
      exact ⟨left, right, _, parts, reached, scanned, word⟩
    · intro stands
      rcases stands with ⟨left, right, depth, parts, reached, scanned, word⟩
      have ended : none = openQuote left := (Nesting.run?_tracks scanned).1
      exact ⟨left, right, parts, reached, ended.symm, word⟩
  · intro call called literal member
    exact callsIn_apart_literalsIn called member

/-- An expression with a brace and with a quotation mark of another kind in its literals. -/
theorem calls_between_two_literals :
    (0, .closed "if(\x27\x7d\x22\x27, \x22it\x27s\x22 + f (x))".toList) ∈
      locate 0 (segments "$\x7bif(\x27\x7d\x22\x27, \x22it\x27s\x22 + f (x))\x7d".toList) ∧
    literals 0 "if(\x27\x7d\x22\x27, \x22it\x27s\x22 + f (x))".toList =
      [⟨3, "\x27\x7d\x22\x27".toList⟩, ⟨9, "\x22it\x27s\x22".toList⟩] ∧
    calls 0 "if(\x27\x7d\x22\x27, \x22it\x27s\x22 + f (x))".toList =
      [⟨0, "if".toList⟩, ⟨18, "f".toList⟩] ∧
    IsLiteral ⟨9, "\x22it\x27s\x22".toList⟩ ∧
    ∃ nesting, Nesting.outermost.run? "if(\x27\x7d".toList = some nesting ∧
      nesting.quote = some '\x27' := by
  have found : (0, .closed "if(\x27\x7d\x22\x27, \x22it\x27s\x22 + f (x))".toList) ∈
      locate 0 (segments "$\x7bif(\x27\x7d\x22\x27, \x22it\x27s\x22 + f (x))\x7d".toList) := by
    decide +kernel
  have skipped : literals 0 "if(\x27\x7d\x22\x27, \x22it\x27s\x22 + f (x))".toList =
      [⟨3, "\x27\x7d\x22\x27".toList⟩, ⟨9, "\x22it\x27s\x22".toList⟩] := by
    decide +kernel
  rcases calls_between_literals found 0 with ⟨whole, opens, _⟩
  rcases opens "if(\x27\x7d".toList "\x22\x27, \x22it\x27s\x22 + f (x))".toList rfl with
    ⟨nesting, scanned, quoted⟩
  refine ⟨found, skipped, by decide +kernel, ?_, nesting, scanned, ?_⟩
  · exact (whole _ (by rw [skipped]; exact List.mem_cons_of_mem _ List.mem_cons_self)).1
  · apply (quoted '\x27').mpr
    refine ⟨_, by rw [skipped]; exact List.mem_cons_self, rfl, by decide, by decide⟩

end TemplateServer.Expression
