import Mathlib.Computability.Language
import TemplateServer.Proofs.Grammar.Parameters

/-!
The forms of lines, as languages. A form is taken apart from the left: where a run of characters
is followed by words that do not start with one, the run is what `takeWhile` takes. Main statements:
the reader takes a line for a header, an import or a comment if and only if the line has that form.
-/

namespace TemplateServer.Grammar

open Text
open scoped Computability

namespace Form

def every (fits : Char → Bool) : Language Char :=
  {word | ∀ c ∈ word, fits c = true}

def one (fits : Char → Bool) : Language Char :=
  {word | ∃ c, fits c = true ∧ word = [c]}

def exactly (c : Char) : Language Char :=
  {word | word = [c]}

def isLetter (c : Char) : Bool :=
  ('A' ≤ c && c ≤ 'Z') || ('a' ≤ c && c ≤ 'z')

def isDigit (c : Char) : Bool :=
  '0' ≤ c && c ≤ '9'

def blanks : Language Char :=
  every fun c => c == ' ' || c == '\t'

def name : Language Char :=
  one (fun c => isLetter c || c == '_') *
    every fun c => isLetter c || isDigit c || c == '_' || c == '.'

def parameter : Language Char :=
  one (fun c => isLetter c || c == '_') * every fun c => isLetter c || isDigit c || c == '_'

def separator : Language Char :=
  blanks * exactly ',' * blanks

def parameters : Language Char :=
  exactly '(' * blanks * (1 + parameter * (separator * parameter)∗) * blanks * exactly ')'

def header : Language Char :=
  blanks * exactly '#' * blanks * name * blanks * (1 + parameters) * blanks

def imported : Language Char :=
  blanks * exactly '[' * every (· != ']') * exactly ']' *
    exactly '(' * (one (· != ')') * every (· != ')')) * exactly ')' * blanks

/-- The lines whose first character that is no blank is this one. -/
def marked (c : Char) : Language Char :=
  blanks * exactly c * every fun _ => true

/-! ### Classes of characters -/

theorem isLetter_eq : isLetter = Char.isAlpha := by
  funext c
  have upper : ('A' ≤ c && c ≤ 'Z') = c.isUpper := (Bool.decide_and ('A' ≤ c) (c ≤ 'Z')).symm
  unfold isLetter
  rw [upper]
  rfl

theorem isDigit_eq : isDigit = Char.isDigit :=
  rfl

theorem name_eq : name = one isNameStart * every isNameChar := by
  unfold name
  rw [isLetter_eq, isDigit_eq]
  rfl

theorem parameter_eq : parameter = one isNameStart * every isParameterChar := by
  unfold parameter
  rw [isLetter_eq, isDigit_eq]
  rfl

/-! ### Taking words apart from the left -/

/-- Whether no word starts with a character of a class. -/
def Clear (fits : Char → Bool) (forms : Language Char) : Prop :=
  ∀ word ∈ forms, Stops fits word

variable {fits takes : Char → Bool} {forms others : Language Char} {word : List Char} {c : Char}

theorem mem_every_mul (clear : Clear fits forms) :
    word ∈ every fits * forms ↔ word.dropWhile fits ∈ forms := by
  rw [Language.mem_mul]
  constructor
  · rintro ⟨run, all, rest, member, rfl⟩
    rw [dropWhile_append_of_all all (clear rest member)]
    exact member
  · intro member
    refine ⟨word.takeWhile fits, ?_, word.dropWhile fits, member, List.takeWhile_append_dropWhile⟩
    intro c taken
    exact List.mem_takeWhile_imp taken

theorem mem_exactly_mul : word ∈ exactly c * forms ↔ ∃ rest ∈ forms, word = c :: rest := by
  rw [Language.mem_mul]
  constructor
  · rintro ⟨_, rfl, rest, member, rfl⟩
    exact ⟨rest, member, rfl⟩
  · rintro ⟨rest, member, rfl⟩
    exact ⟨[c], rfl, rest, member, rfl⟩

theorem mem_one_mul :
    word ∈ one fits * forms ↔ ∃ c, fits c = true ∧ ∃ rest ∈ forms, word = c :: rest := by
  rw [Language.mem_mul]
  constructor
  · rintro ⟨_, ⟨c, fitting, rfl⟩, rest, member, rfl⟩
    exact ⟨c, fitting, rest, member, rfl⟩
  · rintro ⟨c, fitting, rest, member, rfl⟩
    exact ⟨[c], ⟨c, fitting, rfl⟩, rest, member, rfl⟩

theorem clear_one : Clear fits 1 := by
  intro word empty
  rw [(Language.mem_one word).mp empty]
  exact stops_nil fits

theorem clear_add (left : Clear fits forms) (right : Clear fits others) :
    Clear fits (forms + others) := by
  intro word member
  rcases (Language.mem_add forms others word).mp member with first | second
  · exact left word first
  · exact right word second

theorem clear_exactly_mul (refused : fits c = false) : Clear fits (exactly c * forms) := by
  intro word member
  obtain ⟨rest, _, rfl⟩ := mem_exactly_mul.mp member
  exact stops_cons refused rest

theorem clear_one_mul (refused : ∀ c, takes c = true → fits c = false) :
    Clear fits (one takes * forms) := by
  intro word member
  obtain ⟨c, fitting, rest, _, rfl⟩ := mem_one_mul.mp member
  exact stops_cons (refused c fitting) rest

theorem clear_every_mul (refused : ∀ c, takes c = true → fits c = false)
    (clear : Clear fits forms) : Clear fits (every takes * forms) := by
  intro word member
  rw [Language.mem_mul] at member
  obtain ⟨run, all, rest, remaining, rfl⟩ := member
  cases run with
  | nil => exact clear rest remaining
  | cons c run => exact stops_cons (refused c (all c List.mem_cons_self)) (run ++ rest)

theorem every_mul_every (fits : Char → Bool) : every fits * every fits = every fits := by
  ext word
  rw [Language.mem_mul]
  constructor
  · rintro ⟨left, first, right, second, rfl⟩ c member
    rcases List.mem_append.mp member with early | late
    · exact first c early
    · exact second c late
  · intro all
    exact ⟨word, all, [], fun _ => nofun, List.append_nil word⟩

/-! ### Blanks -/

theorem mem_blanks : word ∈ blanks ↔ word.dropWhile isBlank = [] :=
  List.dropWhile_eq_nil_iff.symm

theorem mem_blanks_mul (clear : Clear isBlank forms) :
    word ∈ blanks * forms ↔ word.dropWhile isBlank ∈ forms :=
  mem_every_mul clear

/-- A part that may be missing, with blanks before it and after it. -/
theorem blanks_mul_optional (others forms : Language Char) :
    blanks * ((1 + others) * (blanks * forms)) = blanks * (forms + others * (blanks * forms)) := by
  have idle : blanks * blanks = blanks := every_mul_every _
  rw [add_mul, one_mul, mul_add, ← mul_assoc blanks blanks, idle, ← mul_add]

theorem refused_of_isBlank (space : fits ' ' = false) (tab : fits '\t' = false) (c : Char)
    (blank : isBlank c = true) : fits c = false := by
  rcases Bool.or_eq_true_iff.mp blank with isSpace | isTab
  · rw [eq_of_beq isSpace]
    exact space
  · rw [eq_of_beq isTab]
    exact tab

theorem clear_blanks_mul (space : fits ' ' = false) (tab : fits '\t' = false)
    (clear : Clear fits forms) : Clear fits (blanks * forms) :=
  clear_every_mul (refused_of_isBlank space tab) clear

/-! ### Names -/

/-- A name is read where the form has one. -/
theorem mem_name_mul {continues : Char → Bool}
    (starting : ∀ c, isNameStart c = true → continues c = true) (clear : Clear continues forms)
    {input : Piece} :
    input.chars ∈ one isNameStart * (every continues * forms) ↔
      ∃ name rest, readName? continues input = some (name, rest) ∧ rest.chars ∈ forms := by
  rw [mem_one_mul]
  unfold readName?
  constructor
  · rintro ⟨c, starts, rest, member, head⟩
    rw [mem_every_mul clear] at member
    refine ⟨input.takeWhile continues, input.dropWhile continues, ?_, ?_⟩
    · rw [head]
      exact if_pos starts
    · rw [Piece.chars_dropWhile, head, List.dropWhile_cons_of_pos (starting c starts)]
      exact member
  · rintro ⟨name, rest, read, member⟩
    cases head : input.chars with
    | nil =>
        rw [head] at read
        cases read
    | cons c chars =>
        rw [head] at read
        simp only at read
        split at read
        · rename_i starts
          cases read
          refine ⟨c, starts, chars, ?_, rfl⟩
          rw [mem_every_mul clear]
          rw [Piece.chars_dropWhile, head, List.dropWhile_cons_of_pos (starting c starts)] at member
          exact member
        · cases read

/-! ### Parameters -/

/-- A list of parameters with what closes it and the blanks up to the end of the line. -/
def listed : Language Char :=
  parameter * (separator * parameter)∗ * (blanks * (exactly ')' * blanks))

def afterParameter : Language Char :=
  exactly ')' * blanks + exactly ',' * (blanks * listed)

/-- After a parameter the list is closed, or goes on after a comma. -/
theorem listed_eq :
    listed = one isNameStart * (every isParameterChar * (blanks * afterParameter)) := by
  have unrolled : (separator * parameter)∗ * (blanks * (exactly ')' * blanks)) =
      blanks * afterParameter := by
    rw [← Language.one_add_self_mul_kstar_eq_kstar, add_mul, one_mul]
    unfold afterParameter listed
    rw [mul_add]
    simp only [separator, mul_assoc]
  unfold listed
  rw [mul_assoc, unrolled, parameter_eq, mul_assoc]

theorem clear_afterParameter (closing : fits ')' = false)
    (comma : fits ',' = false) : Clear fits afterParameter :=
  clear_add (clear_exactly_mul closing) (clear_exactly_mul comma)

theorem isBlank_of_isNameStart (c : Char) (starts : isNameStart c = true) : isBlank c = false := by
  cases blank : isBlank c with
  | false => rfl
  | true =>
      rw [@refused_of_isBlank isNameStart rfl rfl c blank] at starts
      cases starts

theorem clear_listed : Clear isBlank listed := by
  rw [listed_eq]
  exact clear_one_mul isBlank_of_isNameStart

theorem mem_afterParameter :
    word ∈ blanks * afterParameter ↔
      (∃ rest ∈ blanks, word.dropWhile isBlank = ')' :: rest) ∨
        ∃ rest, rest.dropWhile isBlank ∈ listed ∧ word.dropWhile isBlank = ',' :: rest := by
  rw [mem_blanks_mul (clear_afterParameter rfl rfl), afterParameter, Language.mem_add,
    mem_exactly_mul, mem_exactly_mul]
  simp only [mem_blanks_mul clear_listed]

theorem mem_listed_iff {input : Piece} :
    input.chars ∈ listed ↔ ∃ name rest,
      readName? isParameterChar input = some (name, rest) ∧
        rest.chars ∈ blanks * afterParameter := by
  rw [listed_eq]
  exact mem_name_mul (fun _ => isParameterChar_of_isNameStart)
    (clear_blanks_mul rfl rfl (clear_afterParameter rfl rfl))

theorem mem_listed_of_named {input parameter rest : Piece}
    (named : readName? isParameterChar input = some (parameter, rest)) :
    input.chars ∈ listed ↔
      (∃ chars ∈ blanks, (rest.dropWhile isBlank).chars = ')' :: chars) ∨
        ∃ chars, chars.dropWhile isBlank ∈ listed ∧
          (rest.dropWhile isBlank).chars = ',' :: chars := by
  rw [mem_listed_iff, named, Piece.chars_dropWhile, ← mem_afterParameter]
  simp

/-- A list of parameters is read where the form has one. -/
theorem mem_listed (opening : Nat) (input : Piece) :
    input.chars ∈ listed ↔ ∃ parameters following,
      readParameters opening input = .ok (parameters, following) ∧ following.chars ∈ blanks := by
  induction input using readParameters_induction with
  | nameless input unnamed =>
      rw [mem_listed_iff, unnamed, readParameters_of_nameless unnamed]
      simp
  | comma input parameter rest chars named head ih =>
      rw [Piece.chars_dropWhile, Piece.chars_drop_one head] at ih
      rw [mem_listed_of_named named, head, readParameters_of_comma named head]
      cases more : readParameters opening
          (((rest.dropWhile isBlank).drop 1).dropWhile isBlank) with
      | error malformed =>
          rw [more] at ih
          simpa [Except.map] using ih
      | ok result =>
          obtain ⟨others, following⟩ := result
          rw [more] at ih
          simpa [Except.map] using ih
  | closing input parameter rest chars named head =>
      rw [mem_listed_of_named named, head, readParameters_of_closing named head]
      simp [← Piece.chars_drop_one head]
  | other input parameter rest named unlisted unclosed =>
      rw [mem_listed_of_named named, readParameters_of_other named unlisted unclosed]
      constructor
      · rintro (⟨chars, _, head⟩ | ⟨chars, _, head⟩)
        · rw [head] at unclosed
          exact absurd rfl unclosed
        · rw [head] at unlisted
          exact absurd rfl unlisted
      · rintro ⟨_, _, error, _⟩
        cases error

/-- What stands in brackets is read where the form has a list or nothing. -/
theorem mem_bracketed (opening : Nat) (input : Piece) :
    input.chars ∈ exactly ')' * blanks + listed ↔ ∃ parameters following,
      readParameterList opening input = .ok (parameters, following) ∧
        following.chars ∈ blanks := by
  have unclosed : Clear (· == ')') listed := by
    rw [listed_eq]
    apply clear_one_mul
    rintro c starts
    apply beq_false_of_ne
    rintro rfl
    cases starts
  rw [Language.mem_add, mem_exactly_mul]
  by_cases closed : input.chars.head? = some ')'
  · obtain ⟨chars, head⟩ := List.head?_eq_some_iff.mp closed
    have other : input.chars ∉ listed := by
      intro member
      cases unclosed _ member ')' closed
    rw [head] at other
    rw [readParameterList_of_closing head, head]
    simp [other, head]
  · rw [readParameterList_of_other closed, mem_listed opening]
    constructor
    · rintro (⟨rest, _, head⟩ | list)
      · rw [head] at closed
        exact absurd rfl closed
      · exact list
    · exact Or.inr

/-! ### Headers -/

def afterName : Language Char :=
  1 + exactly '(' * (blanks * (exactly ')' * blanks + listed))

theorem clear_bracketed : Clear isBlank (exactly ')' * blanks + listed) :=
  clear_add (clear_exactly_mul rfl) clear_listed

/-- The form of headers, taken apart from the left. -/
theorem header_eq :
    header = blanks * (exactly '#' *
      (blanks * (one isNameStart * (every isNameChar * (blanks * afterName))))) := by
  have bracketed : parameters * blanks =
      exactly '(' * (blanks * (exactly ')' * blanks + listed)) := by
    unfold parameters listed
    simp only [mul_assoc]
    rw [blanks_mul_optional]
    simp only [mul_assoc]
  have ending : blanks * ((1 + parameters) * blanks) = blanks * afterName := by
    have split := blanks_mul_optional parameters 1
    rw [mul_one, bracketed] at split
    exact split
  unfold header
  rw [name_eq]
  simp only [mul_assoc]
  rw [ending]

theorem mem_afterName (opening : Nat) (rest : Piece) :
    rest.chars ∈ blanks * afterName ↔
      (rest.dropWhile isBlank).chars = [] ∨
        ∃ chars, (rest.dropWhile isBlank).chars = '(' :: chars ∧ ∃ parameters following,
          readParameterList opening (((rest.dropWhile isBlank).drop 1).dropWhile isBlank) =
            .ok (parameters, following) ∧ following.chars ∈ blanks := by
  have clear : Clear isBlank afterName := clear_add clear_one (clear_exactly_mul rfl)
  rw [mem_blanks_mul clear, afterName, Language.mem_add, Language.mem_one,
    mem_exactly_mul, ← Piece.chars_dropWhile]
  refine or_congr Iff.rfl (exists_congr fun chars => ?_)
  rw [and_comm]
  refine and_congr_right fun head => ?_
  rw [mem_blanks_mul clear_bracketed, ← Piece.chars_drop_one head, ← Piece.chars_dropWhile,
    mem_bracketed opening]

theorem isSome_header {line name rest : Piece}
    (named : readName? isNameChar (Header.input line) = some (name, rest)) :
    (Header.ofLine line).toOption.isSome ↔ rest.chars ∈ blanks * afterName := by
  rw [Header.ofLine_of_named named, mem_afterName (rest.dropWhile isBlank).start]
  cases head : (rest.dropWhile isBlank).chars with
  | nil => simp
  | cons c chars =>
      by_cases bracket : c = '('
      · subst bracket
        simp only
        cases readParameterList (rest.dropWhile isBlank).start
            (((rest.dropWhile isBlank).drop 1).dropWhile isBlank) with
        | error malformed => simp
        | ok result =>
            obtain ⟨parameters, following⟩ := result
            simp [mem_blanks, ← Piece.chars_dropWhile]
      · simp [bracket]

/-- A line has the form of a header if and only if it is read as one. -/
theorem mem_header (line : Piece) :
    line.chars ∈ header ↔ (line.chars.dropWhile isBlank).head? = some '#' ∧
      (Header.ofLine line).toOption.isSome := by
  have clear : Clear isNameChar (blanks * afterName) :=
    clear_blanks_mul rfl rfl (clear_add clear_one (clear_exactly_mul rfl))
  rw [header_eq, mem_blanks_mul (clear_exactly_mul rfl), mem_exactly_mul, List.head?_eq_some_iff,
    ← exists_and_right]
  refine exists_congr fun chars => ?_
  rw [and_comm]
  refine and_congr_right fun head => ?_
  have same : (Header.input line).chars = chars.dropWhile isBlank := by
    unfold Header.input
    rw [Piece.chars_dropWhile, Piece.chars_drop_one head]
  rw [mem_blanks_mul (clear_one_mul isBlank_of_isNameStart), ← same,
    mem_name_mul Pattern.isNameChar_of_isNameStart clear]
  cases named : readName? isNameChar (Header.input line) with
  | none =>
      rw [Header.ofLine_of_nameless named]
      simp
  | some result =>
      obtain ⟨name, rest⟩ := result
      rw [isSome_header named]
      simp

/-! ### Imports and comments -/

theorem mem_marked (word : List Char) (unblank : isBlank c = false) :
    word ∈ marked c ↔ (word.dropWhile isBlank).head? = some c := by
  unfold marked
  rw [mul_assoc, mem_blanks_mul (clear_exactly_mul unblank), mem_exactly_mul,
    List.head?_eq_some_iff]
  exact exists_congr fun rest => and_iff_right fun _ _ => rfl

/-- A run that may not be empty. -/
theorem mem_one_mul_every_mul (clear : Clear fits forms) :
    word ∈ one fits * (every fits * forms) ↔
      word.takeWhile fits ≠ [] ∧ word.dropWhile fits ∈ forms := by
  rw [mem_one_mul]
  constructor
  · rintro ⟨c, fitting, rest, member, rfl⟩
    rw [mem_every_mul clear] at member
    rw [List.takeWhile_cons_of_pos fitting, List.dropWhile_cons_of_pos fitting]
    exact ⟨List.cons_ne_nil _ _, member⟩
  · rintro ⟨filled, member⟩
    cases word with
    | nil => exact absurd rfl filled
    | cons c rest =>
        cases fitting : fits c with
        | false => exact absurd (stops_cons fitting rest).takeWhile_eq filled
        | true =>
            rw [List.dropWhile_cons_of_pos fitting] at member
            exact ⟨c, fitting, rest, (mem_every_mul clear).mpr member, rfl⟩

def ImportParts (line inside target rest : List Char) : Prop :=
  line.dropWhile isBlank = '[' :: inside ∧
    inside.dropWhile (· != ']') = ']' :: '(' :: target ∧
    target.takeWhile (· != ')') ≠ [] ∧ target.dropWhile (· != ')') = ')' :: rest ∧ rest ∈ blanks

theorem mem_imported_iff_parts :
    word ∈ imported ↔ ∃ inside target rest, ImportParts word inside target rest := by
  have label : Clear (· != ']') (exactly ']' * (exactly '(' *
      (one (· != ')') * (every (· != ')') * (exactly ')' * blanks))))) := clear_exactly_mul rfl
  have path : Clear (· != ')') (exactly ')' * blanks) := clear_exactly_mul rfl
  unfold imported
  simp only [mul_assoc]
  rw [mem_blanks_mul (clear_exactly_mul rfl), mem_exactly_mul]
  simp only [mem_every_mul label, mem_exactly_mul, mem_one_mul_every_mul path]
  constructor
  · rintro ⟨inside, ⟨_, ⟨target, ⟨filled, rest, blank, closed⟩, rfl⟩, labelled⟩, opened⟩
    exact ⟨inside, target, rest, opened, labelled, filled, closed, blank⟩
  · rintro ⟨inside, target, rest, opened, labelled, filled, closed, blank⟩
    exact ⟨inside, ⟨_, ⟨target, ⟨filled, rest, blank, closed⟩, rfl⟩, labelled⟩, opened⟩

theorem isSome_import_iff_parts (line : Piece) :
    (Import.ofLine? line).isSome ↔
      ∃ inside target rest, ImportParts line.chars inside target rest := by
  unfold Import.ofLine?
  constructor
  · intro found
    split at found
    · rename_i inside opened
      split at found
      · rename_i target labelled
        split at found
        · rename_i rest closed
          simp only at found
          split at found
          · cases found
          · rename_i proper
            simp only [Bool.or_eq_true, Bool.not_eq_true', List.isEmpty_iff, not_or,
              Bool.not_eq_false, List.all_eq_true] at proper
            exact ⟨inside, target, rest, opened, labelled, proper.1, closed, proper.2⟩
        · cases found
      · cases found
    · cases found
  · rintro ⟨inside, target, rest, opened, labelled, filled, closed, blank⟩
    have used : rest.all isBlank = true := List.all_eq_true.mpr blank
    have nonempty : (target.takeWhile (· != ')')).isEmpty = false :=
      List.isEmpty_eq_false_iff.mpr filled
    simp only [opened, labelled, closed, used, nonempty]
    rfl

/-- A line has the form of an import if and only if it is read as one. -/
theorem mem_imported (line : Piece) : line.chars ∈ imported ↔ (Import.ofLine? line).isSome :=
  mem_imported_iff_parts.trans (isSome_import_iff_parts line).symm

end Form

end TemplateServer.Grammar
