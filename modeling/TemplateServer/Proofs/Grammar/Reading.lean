import TemplateServer.Proofs.Grammar.Pattern

/-!
How patterns are read. Patterns that stand for one character are read alike if they accept the same
characters, a repetition of them is what `dropWhile` leaves, and a list of items with separators is
read item by item.
-/

namespace TemplateServer.Grammar

open Text

namespace Pattern

variable {first second third item last : Pattern} {input rest : Piece} {tokens : List Token}
  {fits takes : Char → Bool}

/-! ### Sequences and alternatives -/

theorem read_andThen_assoc (first second third : Pattern) :
    ((first.andThen second).andThen third).read = (first.andThen (second.andThen third)).read := by
  funext input
  cases one : first.read input with
  | none => rw [read_andThen_of_none (read_andThen_of_none one), read_andThen_of_none one]
  | some head =>
      rw [read_andThen_of_some one]
      cases two : second.read head.2 with
      | none =>
          rw [read_andThen_of_none two, read_andThen_of_none (read_andThen_of_second_none one two)]
          rfl
      | some middle =>
          rw [read_andThen_of_some two, read_andThen_of_some (read_andThen_of_both one two),
            Option.map_map]
          congr 1
          funext result
          exact Prod.ext (List.append_assoc ..) rfl

/-- Sequences are read alike if their parts are. -/
theorem read_andThen_congr {other another : Pattern} (left : first.read = other.read)
    (right : second.read = another.read) :
    (first.andThen second).read = (other.andThen another).read := by
  funext input
  rw [read_andThen, read_andThen, left, right]

theorem read_orElse_congr {other another : Pattern} (left : first.read = other.read)
    (right : second.read = another.read) :
    (first.orElse second).read = (other.orElse another).read := by
  funext input
  rw [read_orElse, read_orElse, left, right]

theorem read_star (inner : Pattern) (input : Piece) :
    (star inner).read input = some (iterate inner.read input) :=
  rfl

theorem read_star_congr {other : Pattern} (same : first.read = other.read) :
    (star first).read = (star other).read := by
  funext input
  rw [read_star, read_star, same]

/-! ### Characters -/

theorem read_char_of_stops (stops : Stops fits input.chars) : (char fits).read input = none := by
  cases head : input.chars with
  | nil => rw [read_char, head]
  | cons c chars =>
      rw [read_char_of_cons head, stops c (by rw [head]; rfl)]
      rfl

theorem read_literal_of_cons {c : Char} {chars : List Char} (head : input.chars = c :: chars) :
    (literal c).read input = some ([], input.drop 1) := by
  unfold literal
  rw [read_char_of_cons head, if_pos (beq_self_eq_true c)]

theorem read_literal_of_ne {c : Char} (different : input.chars.head? ≠ some c) :
    (literal c).read input = none := by
  apply read_char_of_stops
  intro other head
  apply beq_false_of_ne
  intro same
  rw [same] at head
  exact different head

theorem read_orElse_char (fits takes : Char → Bool) :
    ((char fits).orElse (char takes)).read = (char fun c => fits c || takes c).read := by
  funext input
  cases head : input.chars with
  | nil =>
      rw [read_orElse, read_char, read_char, read_char, head]
      rfl
  | cons c chars =>
      rw [read_orElse, read_char_of_cons head, read_char_of_cons head, read_char_of_cons head]
      by_cases fitting : fits c = true
      · simp [fitting]
      · simp [fitting]

theorem read_blank : blank.read = (char isBlank).read :=
  read_orElse_char (· == ' ') (· == '\t')

theorem read_newline_of_stops (stops : Stops isLineBreak input.chars) :
    newline.read input = none := by
  have none (c : Char) (breaks : isLineBreak c = true) : (literal c).read input = none := by
    apply read_literal_of_ne
    intro head
    rw [stops c head] at breaks
    cases breaks
  have feed := none '\n' rfl
  have turn := none '\r' rfl
  unfold newline
  rw [read_orElse_of_none, turn]
  rw [read_orElse_of_none feed, read_andThen_of_none turn]

/-- A character that a pattern keeps out, and anything else. -/
theorem read_notAhead_anything {stop : Pattern} {breaks : Char → Bool}
    (refused : ∀ input : Piece, Stops breaks input.chars → stop.read input = none)
    (stopped : ∀ (input : Piece) c chars, input.chars = c :: chars → breaks c = true →
      ∃ result, stop.read input = some result) :
    ((notAhead stop).andThen anything).read = (char fun c => !breaks c).read := by
  funext input
  cases head : input.chars with
  | nil =>
      have free := read_notAhead_of_none (refused input (by rw [head]; exact stops_nil breaks))
      rw [read_andThen_of_some free, anything, read_char, read_char, head]
      rfl
  | cons c chars =>
      cases kept : breaks c with
      | true =>
          obtain ⟨result, read⟩ := stopped input c chars head kept
          rw [read_andThen_of_none (read_notAhead_of_some read), read_char_of_cons head, kept]
          rfl
      | false =>
          have free := read_notAhead_of_none
            (refused input (by rw [head]; exact stops_cons kept chars))
          rw [read_andThen_of_some free, anything, read_char_of_cons head, read_char_of_cons head,
            kept]
          rfl

theorem read_newline_of_break {c : Char} {chars : List Char} (head : input.chars = c :: chars)
    (breaks : isLineBreak c = true) : ∃ result, newline.read input = some result := by
  unfold newline
  rcases Bool.or_eq_true_iff.mp breaks with feed | turn
  · have same : c = '\n' := eq_of_beq feed
    subst same
    exact ⟨_, read_orElse_of_some (read_orElse_of_some (read_literal_of_cons head))⟩
  · have same : c = '\r' := eq_of_beq turn
    subst same
    cases both : ((literal '\n').orElse ((literal '\r').andThen (literal '\n'))).read input with
    | some result => exact ⟨_, read_orElse_of_some both⟩
    | none =>
        rw [read_orElse_of_none both]
        exact ⟨_, read_literal_of_cons head⟩

/-- A character of the line that is not the mark which ends a part of it. -/
theorem read_until (mark : Char) :
    ((notAhead ((literal mark).orElse newline)).andThen anything).read =
      (char fun c => !(c == mark || isLineBreak c)).read := by
  apply read_notAhead_anything
  · intro input stops
    rw [read_orElse_of_none]
    · apply read_newline_of_stops
      intro c head
      exact (Bool.or_eq_false_iff.mp (stops c head)).2
    · apply read_literal_of_ne
      intro head
      have unmarked := (Bool.or_eq_false_iff.mp (stops mark head)).1
      rw [beq_self_eq_true] at unmarked
      cases unmarked
  · intro input c chars head ends
    by_cases same : c = mark
    · subst same
      exact ⟨_, read_orElse_of_some (read_literal_of_cons head)⟩
    · have breaks : isLineBreak c = true := by simpa [same] using ends
      rw [read_orElse_of_none]
      · exact read_newline_of_break head breaks
      · apply read_literal_of_ne
        rw [head]
        exact fun known => same (Option.some.inj known)

theorem read_untilBreak :
    ((notAhead newline).andThen anything).read = (char fun c => !isLineBreak c).read :=
  read_notAhead_anything (fun _ stops => read_newline_of_stops stops)
    fun _ _ _ head breaks => read_newline_of_break head breaks

/-! ### Repetitions -/

theorem iterate_of_none {read : Piece → Reading} (failed : read input = none) :
    iterate read input = ([], input) := by
  unfold iterate
  rw [failed]

theorem iterate_of_some {read : Piece → Reading} (done : read input = some (tokens, rest))
    (shorter : rest.chars.length < input.chars.length) :
    iterate read input = (tokens ++ (iterate read rest).1, (iterate read rest).2) := by
  conv =>
    lhs
    unfold iterate
  rw [done]
  exact if_pos shorter

theorem read_star_char (takes : Char → Bool) (input : Piece) :
    (star (char takes)).read input = some ([], input.dropWhile takes) := by
  obtain ⟨start, chars⟩ := input
  rw [read_star]
  congr 1
  induction chars generalizing start with
  | nil => exact iterate_of_none (read_char_of_stops (stops_nil takes))
  | cons c chars ih =>
      have head : (Piece.mk start (c :: chars)).chars = c :: chars := rfl
      cases taken : takes c with
      | false =>
          have stops := stops_cons taken chars
          rw [iterate_of_none (read_char_of_stops stops)]
          unfold Piece.dropWhile
          rw [stops.dropWhile_eq, stops.takeWhile_eq]
          rfl
      | true =>
          have one := @read_char_of_cons _ takes c chars head
          rw [if_pos taken] at one
          have rest := ih (start + bytes [c])
          rw [iterate_of_some one (Nat.lt_succ_self chars.length)]
          change ([] ++ (iterate _ ⟨start + bytes [c], chars⟩).1,
            (iterate _ ⟨start + bytes [c], chars⟩).2) = _
          rw [rest, ← Piece.drop_one_dropWhile head taken]
          rfl

theorem read_plus_char (takes : Char → Bool) (input : Piece) :
    (plus (char takes)).read input =
      if (input.chars.takeWhile takes).isEmpty then none else some ([], input.dropWhile takes) := by
  unfold plus
  cases head : input.chars with
  | nil =>
      have failed := read_char_of_stops (by rw [head]; exact stops_nil takes)
      rw [read_andThen_of_none failed]
      rfl
  | cons c chars =>
      cases taken : takes c with
      | false =>
          have failed := read_char_of_stops (by rw [head]; exact stops_cons taken chars)
          rw [read_andThen_of_none failed, List.takeWhile_cons, taken]
          rfl
      | true =>
          have one := @read_char_of_cons _ takes c chars head
          rw [if_pos taken] at one
          rw [read_andThen_of_both one (read_star_char takes _),
            Piece.drop_one_dropWhile head taken, List.takeWhile_cons, taken]
          rfl

theorem read_star_blank (input : Piece) :
    (star blank).read input = some ([], input.dropWhile isBlank) := by
  rw [read_star_congr read_blank]
  exact read_star_char isBlank input

/-! ### Names -/

theorem read_nameStart : nameStart.read = (char isNameStart).read :=
  read_orElse_char Char.isAlpha (· == '_')

theorem read_name {told : Rule} {continues : Char → Bool}
    (starting : ∀ c, isNameStart c = true → continues c = true) (input : Piece) :
    (rule told (nameStart.andThen (star (char continues)))).read input =
      (readName? continues input).map fun result => ([.node told result.1 []], result.2) := by
  rw [read_rule, read_andThen_congr read_nameStart rfl]
  unfold readName?
  cases head : input.chars with
  | nil =>
      rw [read_andThen_of_none (read_char_of_stops (by rw [head]; exact stops_nil isNameStart))]
      rfl
  | cons c chars =>
      cases starts : isNameStart c with
      | false =>
          have failed := read_char_of_stops (by rw [head]; exact stops_cons starts chars)
          rw [read_andThen_of_none failed]
          simp [starts]
      | true =>
          have one := @read_char_of_cons _ isNameStart c chars head
          rw [if_pos starts] at one
          rw [read_andThen_of_some one, read_star_char,
            Piece.drop_one_dropWhile head (starting c starts)]
          simp [starts, Piece.upTo_dropWhile]

theorem read_parameterChar :
    ((char Char.isAlphanum).orElse (literal '_')).read = (char isParameterChar).read :=
  read_orElse_char Char.isAlphanum (· == '_')

theorem read_nameChar :
    (((char Char.isAlphanum).orElse (literal '_')).orElse (literal '.')).read =
      (char isNameChar).read := by
  rw [read_orElse_congr read_parameterChar rfl]
  exact read_orElse_char isParameterChar (· == '.')

theorem isNameChar_of_isNameStart (c : Char) (starts : isNameStart c = true) :
    isNameChar c = true :=
  Bool.or_eq_true_iff.mpr (Or.inl (isParameterChar_of_isNameStart starts))

theorem read_templateName (input : Piece) :
    templateName.read input =
      (readName? isNameChar input).map fun result => ([.node .name result.1 []], result.2) := by
  rw [← read_name isNameChar_of_isNameStart input]
  unfold templateName
  rw [read_rule, read_rule, read_andThen_congr rfl (read_star_congr read_nameChar)]

theorem read_parameter (input : Piece) :
    parameter.read input =
      (readName? isParameterChar input).map fun result =>
        ([.node .parameter result.1 []], result.2) := by
  rw [← read_name (fun _ => isParameterChar_of_isNameStart) input]
  unfold parameter
  rw [read_rule, read_rule, read_andThen_congr rfl (read_star_congr read_parameterChar)]

theorem read_parameter_of_none {input : Piece}
    (unnamed : readName? isParameterChar input = none) : parameter.read input = none := by
  rw [read_parameter, unnamed]
  rfl

theorem read_parameter_of_some {input : Piece} {result : Piece × Piece}
    (named : readName? isParameterChar input = some result) :
    parameter.read input = some ([.node .parameter result.1 []], result.2) := by
  rw [read_parameter, named]
  rfl

/-! ### What is left -/

theorem length_iterate_le {read : Piece → Reading}
    (le : ∀ {input rest : Piece} {tokens : List Token}, read input = some (tokens, rest) →
      rest.chars.length ≤ input.chars.length) (input : Piece) :
    (iterate read input).2.chars.length ≤ input.chars.length := by
  fun_induction iterate read input with
  | case1 input failed => exact Nat.le_refl _
  | case2 input tokens rest done shorter following ih =>
      exact Nat.le_trans ih (Nat.le_of_lt shorter)
  | case3 input tokens rest done longer => exact le done

theorem length_char_lt (done : (char fits).read input = some (tokens, rest)) :
    rest.chars.length < input.chars.length := by
  cases head : input.chars with
  | nil =>
      rw [read_char_of_stops (by rw [head]; exact stops_nil fits)] at done
      cases done
  | cons c chars =>
      rw [read_char_of_cons head] at done
      split at done
      · cases done
        rw [Piece.chars_drop, head]
        exact Nat.lt_succ_self chars.length
      · cases done

/-- Reading leaves a text that is no longer. -/
theorem length_read_le {pattern : Pattern} (done : pattern.read input = some (tokens, rest)) :
    rest.chars.length ≤ input.chars.length := by
  induction pattern generalizing input rest tokens with
  | start =>
      rw [read_start] at done
      split at done
      · cases done
        exact Nat.le_refl _
      · cases done
  | finish =>
      rw [read_finish] at done
      split at done
      · cases done
        exact Nat.le_refl _
      · cases done
  | char fits => exact Nat.le_of_lt (length_char_lt done)
  | andThen first second ihFirst ihSecond =>
      cases one : first.read input with
      | none =>
          rw [read_andThen_of_none one] at done
          cases done
      | some head =>
          rw [read_andThen_of_some one] at done
          obtain ⟨result, two, same⟩ := Option.map_eq_some_iff.mp done
          cases same
          exact Nat.le_trans (ihSecond two) (ihFirst one)
  | orElse first second ihFirst ihSecond =>
      cases one : first.read input with
      | none =>
          rw [read_orElse_of_none one] at done
          exact ihSecond done
      | some result =>
          rw [read_orElse_of_some one] at done
          exact ihFirst (one.trans done)
  | maybe inner ih =>
      cases one : inner.read input with
      | none =>
          rw [read_maybe_of_none one] at done
          cases done
          exact Nat.le_refl _
      | some result =>
          rw [read_maybe_of_some one] at done
          exact ih (one.trans done)
  | star inner ih =>
      rw [read_star] at done
      have whole := length_iterate_le ih input
      rw [Option.some.inj done] at whole
      exact whole
  | ahead inner ih =>
      rw [read_ahead] at done
      split at done
      · cases done
        exact Nat.le_refl _
      · cases done
  | notAhead inner ih =>
      rw [read_notAhead] at done
      split at done
      · cases done
      · cases done
        exact Nat.le_refl _
  | rule told inner ih =>
      rw [read_rule] at done
      obtain ⟨result, one, same⟩ := Option.map_eq_some_iff.mp done
      cases same
      exact ih one

theorem length_andThen_lt (done : (first.andThen second).read input = some (tokens, rest))
    (shorter : ∀ {tokens : List Token} {rest : Piece}, first.read input = some (tokens, rest) →
      rest.chars.length < input.chars.length) : rest.chars.length < input.chars.length := by
  cases one : first.read input with
  | none =>
      rw [read_andThen_of_none one] at done
      cases done
  | some head =>
      rw [read_andThen_of_some one] at done
      obtain ⟨result, two, same⟩ := Option.map_eq_some_iff.mp done
      cases same
      exact Nat.lt_of_le_of_lt (length_read_le two) (shorter one)

theorem length_newline_lt (done : newline.read input = some (tokens, rest)) :
    rest.chars.length < input.chars.length := by
  unfold newline at done
  cases feed : (literal '\n').read input with
  | some result =>
      rw [read_orElse_of_some (read_orElse_of_some feed)] at done
      exact length_char_lt (feed.trans done)
  | none =>
      cases both : ((literal '\r').andThen (literal '\n')).read input with
      | some result =>
          rw [read_orElse_of_some ((read_orElse_of_none feed).trans both)] at done
          exact length_andThen_lt (both.trans done) length_char_lt
      | none =>
          rw [read_orElse_of_none ((read_orElse_of_none feed).trans both)] at done
          exact length_char_lt done

/-! ### Lists with separators -/

/-- A list is read item by item: after an item there comes a separator and the rest of the list, or
what ends the list. -/
theorem read_separated {separator : Pattern}
    (shorter : ∀ {input rest : Piece} {tokens : List Token},
      (separator.andThen item).read input = some (tokens, rest) →
      rest.chars.length < input.chars.length)
    (blocked : ∀ {input : Piece} {result : List Token × Piece},
      separator.read input = some result → last.read input = none)
    (input : Piece) :
    ((item.andThen (star (separator.andThen item))).andThen last).read input =
      (item.read input).bind fun head =>
        match separator.read head.2 with
        | none => (last.read head.2).map fun result => (head.1 ++ result.1, result.2)
        | some middle =>
          (((item.andThen (star (separator.andThen item))).andThen last).read middle.2).map
            fun result => (head.1 ++ middle.1 ++ result.1, result.2) := by
  rw [read_andThen_assoc]
  cases one : item.read input with
  | none => exact read_andThen_of_none one
  | some head =>
      rw [read_andThen_of_some one, Option.bind_some]
      have tail : ((star (separator.andThen item)).andThen last).read head.2 =
          (last.read (iterate (separator.andThen item).read head.2).2).map fun result =>
            ((iterate (separator.andThen item).read head.2).1 ++ result.1, result.2) :=
        read_andThen_of_some (read_star _ _)
      rw [tail]
      cases two : separator.read head.2 with
      | none =>
          rw [iterate_of_none (read_andThen_of_none two)]
          simp only [Option.map_map]
          rfl
      | some middle =>
          simp only
          cases three : item.read middle.2 with
          | none =>
              rw [iterate_of_none (read_andThen_of_second_none two three), blocked two,
                read_andThen_of_none three]
              rfl
          | some following =>
              have next := read_andThen_of_both two three
              rw [iterate_of_some next (shorter next), read_andThen_of_some three,
                read_andThen_of_some (read_star _ _)]
              simp only [Option.map_map]
              congr 1
              funext result
              simp

end Pattern

end TemplateServer.Grammar
