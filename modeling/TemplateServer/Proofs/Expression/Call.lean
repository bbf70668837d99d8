import TemplateServer.Expression.Call
import TemplateServer.Proofs.Text.Piece

/-!
Calls in the content of an expression, told without reading it from the left: what comes before a
call ends outside of quoted literals, the called name is a whole run of word characters that starts
like a name, and the next character after it that is no white space is an opening bracket. Main
statement: the calls that are found are those that stand in the content so, from left to right.
-/

namespace TemplateServer.Expression

open Text

/-! ### Classes of characters -/

theorem isWordChar_of_isQuote {c : Char} (quotes : isQuote c = true) : isWordChar c = false := by
  simp only [isQuote, Bool.or_eq_true, beq_iff_eq] at quotes
  rcases quotes with (rfl | rfl) | rfl
  · decide
  · decide
  · decide

def whiteSpaceCodes : List Nat :=
  0x20 :: List.range' 0x09 5 ++ [0x85, 0xa0, 0x1680] ++ List.range' 0x2000 11 ++
    [0x2028, 0x2029, 0x202f, 0x205f, 0x3000]

theorem mem_whiteSpaceCodes {c : Char} (white : isWhiteSpace c = true) :
    c.toNat ∈ whiteSpaceCodes := by
  unfold isWhiteSpace inRanges at white
  simp only [whiteSpaceCodes, List.mem_append, List.mem_cons, List.mem_range'_1, List.not_mem_nil]
  by_cases ascii : c.toNat < 0x80
  · simp only [if_pos ascii, Bool.or_eq_true, beq_iff_eq, Bool.and_eq_true, decide_eq_true_eq] at white
    omega
  · simp only [if_neg ascii, List.any_cons, List.any_nil, Bool.or_eq_true, Bool.and_eq_true,
      decide_eq_true_eq, Bool.false_eq_true, or_false] at white
    omega

theorem whiteSpaceCodes_apart :
    ∀ code ∈ whiteSpaceCodes, isWordChar (Char.ofNat code) = false ∧
      isQuote (Char.ofNat code) = false := by
  decide +kernel

theorem isWordChar_of_isWhiteSpace {c : Char} (white : isWhiteSpace c = true) :
    isWordChar c = false := by
  rw [← Char.ofNat_toNat c]
  exact (whiteSpaceCodes_apart c.toNat (mem_whiteSpaceCodes white)).1

theorem isQuote_of_isWhiteSpace {c : Char} (white : isWhiteSpace c = true) :
    isQuote c = false := by
  rw [← Char.ofNat_toNat c]
  exact (whiteSpaceCodes_apart c.toNat (mem_whiteSpaceCodes white)).2

theorem isQuote_of_isWordChar {c : Char} (word : isWordChar c = true) : isQuote c = false := by
  cases quotes : isQuote c with
  | false => rfl
  | true =>
      rw [isWordChar_of_isQuote quotes] at word
      cases word

theorem isWordChar_of_isCallStart {c : Char} (starts : isCallStart c = true) :
    isWordChar c = true := by
  simp only [isCallStart, isWordChar, Bool.or_eq_true] at starts ⊢
  rcases starts with letter | underscore
  · exact Or.inl (Or.inl (Or.inl letter))
  · exact Or.inl (Or.inr underscore)

/-! ### Where a call stands -/

/-- A text of whole quoted literals and of characters that are no quotation marks. -/
inductive Unquoted : List Char → Prop where
  | nil : Unquoted []
  | other {c : Char} {rest : List Char} (plain : isQuote c = false) (following : Unquoted rest) :
    Unquoted (c :: rest)
  | literal {mark : Char} {inside rest : List Char} (quotes : isQuote mark = true)
    (absent : mark ∉ inside) (following : Unquoted rest) :
    Unquoted (mark :: (inside ++ mark :: rest))

/-- Whether a name is called between two parts of a content. -/
structure Calls (content left name right : List Char) : Prop where
  parts : content = left ++ (name ++ right)
  unquoted : Unquoted left
  starts : ∃ c, name.head? = some c ∧ isCallStart c = true
  word : ∀ c ∈ name, isWordChar c = true
  leftEnd : ∀ c, left.getLast? = some c → isWordChar c = false
  rightEnd : Stops isWordChar right
  bracket : (right.dropWhile isWhiteSpace).head? = some '('

/-- Whether a call stands at its offset in a content that starts at another one. -/
def CallStands (start : Nat) (content : List Char) (call : Piece) : Prop :=
  ∃ left right, Calls content left call.chars right ∧ call.start = start + bytes left

variable {start : Nat} {c mark : Char} {content left name right rest run inside : List Char}
  {call : Piece}

theorem Calls.exists_cons (calls : Calls content left name right) :
    ∃ c tail, name = c :: tail ∧ isWordChar c = true := by
  obtain ⟨c, head, starts⟩ := calls.starts
  obtain ⟨tail, same⟩ := List.head?_eq_some_iff.mp head
  exact ⟨c, tail, same, isWordChar_of_isCallStart starts⟩

/-- A content that does not start with a word character has something before each call. -/
theorem Calls.left_ne_nil (calls : Calls content left name right)
    (stops : Stops isWordChar content) : left ≠ [] := by
  rintro rfl
  obtain ⟨c, tail, rfl, word⟩ := calls.exists_cons
  have refused : isWordChar c = false := by
    apply stops
    rw [calls.parts]
    rfl
  rw [word] at refused
  cases refused

theorem unquoted_cons_of_other (plain : isQuote c = false) :
    Unquoted (c :: rest) ↔ Unquoted rest := by
  constructor
  · intro unquoted
    cases unquoted with
    | other _ following => exact following
    | literal quotes absent following =>
        rw [plain] at quotes
        cases quotes
  · exact .other plain

theorem unquoted_append_of_word (word : ∀ c ∈ run, isWordChar c = true) :
    Unquoted (run ++ rest) ↔ Unquoted rest := by
  induction run with
  | nil => exact Iff.rfl
  | cons c run ih =>
      rw [List.cons_append,
        unquoted_cons_of_other (isQuote_of_isWordChar (word c List.mem_cons_self)),
        ih fun other member => word other (List.mem_cons_of_mem c member)]

/-- A literal ends at the first mark like the one that opens it. -/
theorem eq_of_first_mark {first second other : List Char} (absent : mark ∉ first)
    (missing : mark ∉ second) (same : first ++ mark :: rest = second ++ mark :: other) :
    first = second ∧ rest = other := by
  have taken (before after : List Char) (absent : mark ∉ before) :
      (before ++ mark :: after).takeWhile (· != mark) = before := by
    apply takeWhile_append_of_all
    · intro c member
      rw [bne_iff_ne]
      rintro rfl
      exact absent member
    · intro c first
      rw [← Option.some.inj first]
      exact bne_self_eq_false mark
  have sameFirst : first = second := by
    rw [← taken first rest absent, same, taken second other missing]
  subst sameFirst
  exact ⟨rfl, (List.cons.inj (List.append_cancel_left same)).2⟩

/-! ### One step of reading -/

theorem callStands_nil : ¬CallStands start [] call := by
  rintro ⟨left, right, calls, _⟩
  exact calls.left_ne_nil (stops_nil _) (List.append_eq_nil_iff.mp calls.parts.symm).1

theorem callStands_other (plain : isQuote c = false) (refused : isWordChar c = false) :
    CallStands start (c :: rest) call ↔ CallStands (start + bytes [c]) rest call := by
  constructor
  · rintro ⟨left, right, calls, offset⟩
    cases left with
    | nil => exact absurd rfl (calls.left_ne_nil (stops_cons refused rest))
    | cons d left =>
        obtain ⟨rfl, parts⟩ := List.cons.inj calls.parts
        refine ⟨left, right, { calls with parts := parts, unquoted := ?_, leftEnd := ?_ }, ?_⟩
        · exact (unquoted_cons_of_other plain).mp calls.unquoted
        · intro last same
          apply calls.leftEnd
          rw [List.getLast?_cons, same]
          rfl
        · rw [offset, bytes_cons, bytes_cons, bytes_nil, Nat.add_zero, Nat.add_assoc]
  · rintro ⟨left, right, calls, offset⟩
    refine ⟨c :: left, right, { calls with parts := ?_, unquoted := ?_, leftEnd := ?_ }, ?_⟩
    · rw [calls.parts, List.cons_append]
    · exact .other plain calls.unquoted
    · intro last same
      cases left with
      | nil =>
          rw [← Option.some.inj same]
          exact refused
      | cons d left => exact calls.leftEnd last same
    · rw [offset, bytes_cons, bytes_cons, bytes_nil, Nat.add_zero, Nat.add_assoc]

theorem callStands_literal (quotes : isQuote mark = true) (absent : mark ∉ inside) :
    CallStands start (mark :: (inside ++ mark :: rest)) call ↔
      CallStands (start + bytes (mark :: inside ++ [mark])) rest call := by
  have refused := isWordChar_of_isQuote quotes
  constructor
  · rintro ⟨left, right, calls, offset⟩
    have parts := calls.parts
    cases calls.unquoted with
    | nil => exact absurd rfl (calls.left_ne_nil (stops_cons refused _))
    | other plain following =>
        obtain ⟨rfl, _⟩ := List.cons.inj parts
        rw [quotes] at plain
        cases plain
    | @literal other within later quotesToo missing following =>
        simp only [List.cons_append, List.append_assoc, List.cons.injEq] at parts
        obtain ⟨rfl, same⟩ := parts
        obtain ⟨rfl, parts⟩ := eq_of_first_mark absent missing same
        refine ⟨later, right, { calls with parts := parts, unquoted := following, leftEnd := ?_ }, ?_⟩
        · intro last ends
          apply calls.leftEnd
          rw [List.getLast?_cons, List.getLast?_append, List.getLast?_cons, ends]
          rfl
        · rw [offset]
          simp [Nat.add_assoc]
  · rintro ⟨left, right, calls, offset⟩
    refine ⟨mark :: (inside ++ mark :: left), right,
      { calls with parts := ?_, unquoted := .literal quotes absent calls.unquoted, leftEnd := ?_ }, ?_⟩
    · rw [calls.parts]
      simp
    · intro last ends
      cases left with
      | nil =>
          rw [← List.cons_append, List.getLast?_concat] at ends
          rw [← Option.some.inj ends]
          exact refused
      | cons d left =>
          apply calls.leftEnd
          simpa [List.getLast?_cons, List.getLast?_append] using ends
    · rw [offset]
      simp [Nat.add_assoc]

theorem callStands_open_literal (quotes : isQuote mark = true) (absent : mark ∉ rest) :
    ¬CallStands start (mark :: rest) call := by
  rintro ⟨left, right, calls, _⟩
  have parts := calls.parts
  cases calls.unquoted with
  | nil => exact calls.left_ne_nil (stops_cons (isWordChar_of_isQuote quotes) _) rfl
  | other plain following =>
      obtain ⟨rfl, _⟩ := List.cons.inj parts
      rw [quotes] at plain
      cases plain
  | literal quotesToo missing following =>
      obtain ⟨rfl, same⟩ := List.cons.inj parts
      apply absent
      rw [same]
      simp

theorem callStands_word (word : ∀ c ∈ run, isWordChar c = true)
    (stops : Stops isWordChar rest) :
    CallStands start (run ++ rest) call ↔
      (call = ⟨start, run⟩ ∧ (∃ c, run.head? = some c ∧ isCallStart c = true) ∧
        (rest.dropWhile isWhiteSpace).head? = some '(') ∨
      CallStands (start + bytes run) rest call := by
  constructor
  · rintro ⟨left, right, calls, offset⟩
    rcases List.append_eq_append_iff.mp calls.parts with ⟨middle, longer, parts⟩ | ⟨middle, shorter, parts⟩
    · -- the call comes after the run
      right
      refine ⟨middle, right, { calls with parts := parts, unquoted := ?_, leftEnd := ?_ }, ?_⟩
      · rw [longer] at calls
        exact (unquoted_append_of_word word).mp calls.unquoted
      · intro last ends
        apply calls.leftEnd
        rw [longer, List.getLast?_append, ends]
        rfl
      · rw [offset, longer, bytes_append, Nat.add_assoc]
    · -- nothing of the run can come before the call
      left
      have first : left = [] := by
        cases ends : left.getLast? with
        | none => exact List.getLast?_eq_none_iff.mp ends
        | some last =>
            have member : last ∈ run := by
              rw [shorter]
              exact List.mem_append_left _ (List.mem_of_getLast? ends)
            have refused := calls.leftEnd last ends
            rw [word last member] at refused
            cases refused
      subst first
      have same : run ++ rest = call.chars ++ right := calls.parts
      have named : run = call.chars := by
        rw [← takeWhile_append_of_all word stops, same,
          takeWhile_append_of_all calls.word calls.rightEnd]
      rw [named] at same
      have following : rest = right := List.append_cancel_left same
      refine ⟨?_, by rw [named]; exact calls.starts, by rw [following]; exact calls.bracket⟩
      rw [named, ← offset.trans (Nat.add_zero start)]
  · rintro (⟨rfl, starts, bracket⟩ | ⟨left, right, calls, offset⟩)
    · exact ⟨[], rest, ⟨rfl, .nil, starts, word, fun _ => nofun, stops, bracket⟩, rfl⟩
    · refine ⟨run ++ left, right, { calls with parts := ?_, unquoted := ?_, leftEnd := ?_ }, ?_⟩
      · rw [calls.parts, List.append_assoc]
      · exact (unquoted_append_of_word word).mpr calls.unquoted
      · intro last ends
        cases final : left.getLast? with
        | none => exact absurd (List.getLast?_eq_none_iff.mp final) (calls.left_ne_nil stops)
        | some other =>
            rw [List.getLast?_append, final] at ends
            exact calls.leftEnd last (by rw [final]; exact ends)
      · rw [offset, bytes_append, Nat.add_assoc]

/-! ### All of the content -/

theorem lexemes_cons_of_other (plain : isQuote c = false) (refused : isWordChar c = false) :
    lexemes (c :: rest) = .other c :: lexemes rest := by
  rw [lexemes]
  simp [plain, refused]

theorem opensBracket_lexemes (text : List Char) :
    opensBracket (lexemes text) = true ↔ (text.dropWhile isWhiteSpace).head? = some '(' := by
  induction text with
  | nil => simp [lexemes, opensBracket]
  | cons c rest ih =>
      by_cases white : isWhiteSpace c = true
      · have bracket : c ≠ '(' := by
          rintro rfl
          cases white
        rw [lexemes_cons_of_other (isQuote_of_isWhiteSpace white) (isWordChar_of_isWhiteSpace white),
          List.dropWhile_cons_of_pos white, ← ih]
        simp [opensBracket, bracket, white]
      · rw [List.dropWhile_cons_of_neg white, List.head?_cons, Option.some.injEq]
        by_cases bracket : c = '('
        · subst bracket
          rw [lexemes_cons_of_other (by decide) (by decide)]
          simp [opensBracket]
        · rw [lexemes]
          split
          · split
            · simp [opensBracket, bracket]
            · simp [opensBracket, bracket]
          · split
            · simp [opensBracket, bracket]
            · simp [opensBracket, bracket, white]

theorem mem_callsIn_word {items : List Lexeme} :
    call ∈ callsIn start (.word run :: items) ↔
      (call = ⟨start, run⟩ ∧ startsLikeName run = true ∧ opensBracket items = true) ∨
        call ∈ callsIn (start + bytes run) items := by
  rw [callsIn]
  by_cases called : startsLikeName run = true ∧ opensBracket items = true
  · simp [called]
  · rw [if_neg (by simpa using called), or_iff_right]
    exact fun found => called found.2

theorem startsLikeName_iff :
    startsLikeName run = true ↔ ∃ c, run.head? = some c ∧ isCallStart c = true := by
  cases run with
  | nil => simp [startsLikeName]
  | cons c rest => simp [startsLikeName]

/-- The calls that are found in a content are those that stand in it. -/
theorem mem_calls : call ∈ calls start content ↔ CallStands start content call := by
  unfold calls
  fun_induction lexemes content generalizing start with
  | case1 => exact iff_of_false List.not_mem_nil callStands_nil
  | case2 mark rest quotes found =>
      apply iff_of_false List.not_mem_nil
      apply callStands_open_literal quotes
      intro member
      have different := List.dropWhile_eq_nil_iff.mp found mark member
      simp at different
  | case3 mark rest quotes closing following found ih =>
      have stops := stops_dropWhile (· != mark) rest
      rw [found] at stops
      have closes : closing = mark := by simpa using stops closing rfl
      subst closes
      have parts : rest = rest.takeWhile (· != closing) ++ closing :: following :=
        takeWhile_append_of_dropWhile found
      have absent := not_mem_takeWhile_ne closing rest
      rw [callsIn, ih]
      · conv =>
          rhs
          rw [parts]
        exact (callStands_literal quotes absent).symm
      · exact nofun
  | case4 c rest unquoted wordly ih =>
      have whole : c :: rest = (c :: rest.takeWhile isWordChar) ++ rest.dropWhile isWordChar := by
        rw [List.cons_append, List.takeWhile_append_dropWhile]
      have word : ∀ d ∈ c :: rest.takeWhile isWordChar, isWordChar d = true :=
        List.forall_mem_cons.mpr ⟨wordly, fun d taken => List.mem_takeWhile_imp taken⟩
      rw [mem_callsIn_word, ih, startsLikeName_iff, opensBracket_lexemes]
      conv =>
        rhs
        rw [whole]
      exact (callStands_word word (stops_dropWhile isWordChar rest)).symm
  | case5 c rest unquoted refused ih =>
      rw [callsIn, ih, callStands_other (eq_false_of_ne_true unquoted) (eq_false_of_ne_true refused)]
      · rfl
      · exact nofun

/-! ### Their order -/

theorem start_le_of_mem_callsIn {items : List Lexeme} (member : call ∈ callsIn start items) :
    start ≤ call.start := by
  induction items generalizing start with
  | nil => cases member
  | cons head tail ih =>
      cases head with
      | word run =>
          rcases mem_callsIn_word.mp member with ⟨rfl, _⟩ | later
          · exact Nat.le_refl start
          · have after := ih later
            omega
      | literal mark inside terminated =>
          have after := ih member
          omega
      | other c =>
          have after := ih member
          omega

/-- The calls are found from left to right. -/
theorem pairwise_callsIn (start : Nat) (items : List Lexeme) :
    (callsIn start items).Pairwise fun first second => first.stop ≤ second.start := by
  induction items generalizing start with
  | nil => exact .nil
  | cons head tail ih =>
      cases head with
      | word run =>
          rw [callsIn]
          split
          · apply List.Pairwise.cons _ (ih _)
            intro call member
            exact start_le_of_mem_callsIn member
          · exact ih _
      | literal mark inside terminated => exact ih _
      | other c => exact ih _

end TemplateServer.Expression
