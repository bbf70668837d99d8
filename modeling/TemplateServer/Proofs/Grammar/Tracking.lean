import Mathlib.Order.Bounds.Basic
import TemplateServer.Proofs.Grammar.Reading

/-!
Tracked reading. While a pattern is read, the rules that are tried in vain are noted: those at the
furthest place are kept and those before it are dropped, wherever the reading turns to after they
have failed. Main statements: tracking makes no difference to what is read, and the place that is
kept is the furthest one where a rule was tried in vain.
-/

namespace TemplateServer.Grammar

open Text

/-- Whether the insides of a rule are left untold. -/
def Rule.isAtomic : Rule → Bool
  | .rest | .name | .parameter | .label | .path => true
  | _ => false

/-- What is around a pattern: whether it is to be kept out, and whether an atomic rule has it
inside. -/
structure Context where
  refused : Bool
  atomic : Bool

namespace Context

def plain : Context :=
  ⟨false, false⟩

def flip (around : Context) : Context :=
  { around with refused := !around.refused }

def inside (around : Context) (told : Rule) : Context :=
  { around with atomic := around.atomic || told.isAtomic }

end Context

namespace Attempts

def countAt (known : Attempts) (place : Nat) : Nat :=
  if known.offset = place then known.expected.length + known.unexpected.length else 0

/-- What is left at a place of the attempts there once those since `earlier` are dropped. -/
def backTo (earlier known : Attempts) (place : Nat) : Attempts :=
  if known.offset = place ∧ earlier.offset = place then
    ⟨place, known.expected.take earlier.expected.length,
      known.unexpected.take earlier.unexpected.length⟩
  else
    ⟨place, [], []⟩

/-- Notes a rule that was tried in vain at a place, where `earlier` was known before. It stands for
the rules inside it that were tried at its place, except that a single one stands for itself. -/
def note (told : Rule) (around : Context) (place : Nat) (earlier known : Attempts) : Attempts :=
  if around.atomic ∨ known.countAt place = earlier.countAt place + 1 ∨ place < known.offset then
    known
  else
    let kept := earlier.backTo known place
    if around.refused then
      { kept with unexpected := kept.unexpected ++ [told] }
    else
      { kept with expected := kept.expected ++ [told] }

end Attempts

/-- Reads again and again as `iterate` does, with what is known of the attempts. -/
def iterateTracked (run : Piece → Attempts → Reading × Attempts) (input : Piece)
    (known : Attempts) : (List Token × Piece) × Attempts :=
  match run input known with
  | (none, tried) => (([], input), tried)
  | (some (tokens, rest), tried) =>
    if rest.chars.length < input.chars.length then
      let following := iterateTracked run rest tried
      ((tokens ++ following.1.1, following.1.2), following.2)
    else
      ((tokens, rest), tried)
termination_by input.chars.length

namespace Pattern

/-- Reads a pattern as `read` does and notes the rules that are tried in vain: one that fails where
it is wanted, and one that is read where it is to be kept out. -/
def run : Pattern → Context → Piece → Attempts → Reading × Attempts
  | .start, _, input, known => (start.read input, known)
  | .finish, _, input, known => (finish.read input, known)
  | .char fits, _, input, known => ((char fits).read input, known)
  | .andThen first second, around, input, known =>
    match run first around input known with
    | (none, tried) => (none, tried)
    | (some (tokens, rest), tried) =>
      let last := run second around rest tried
      (last.1.map fun result => (tokens ++ result.1, result.2), last.2)
  | .orElse first second, around, input, known =>
    match run first around input known with
    | (none, tried) => run second around input tried
    | done => done
  | .maybe inner, around, input, known =>
    let result := run inner around input known
    (some (result.1.getD ([], input)), result.2)
  | .star inner, around, input, known =>
    let result := iterateTracked (run inner around) input known
    (some result.1, result.2)
  | .ahead inner, around, input, known =>
    let result := run inner around input known
    (if result.1.isSome then some ([], input) else none, result.2)
  | .notAhead inner, around, input, known =>
    let result := run inner around.flip input known
    (if result.1.isSome then none else some ([], input), result.2)
  | .rule told inner, around, input, known =>
    let result := run inner (around.inside told) input known
    (result.1.map fun result => ([.node told (input.upTo result.2) result.1], result.2),
      if result.1.isSome = around.refused then
        Attempts.note told around input.start known result.2
      else
        result.2)

/-- What is known of the attempts once a pattern has been read, in vain or not. -/
def tries (pattern : Pattern) (around : Context) (input : Piece) (known : Attempts) : Attempts :=
  (pattern.run around input known).2

/-- The lines of a whole text, or else the attempts at the furthest place. -/
def parse (text : List Char) : Except Attempts (List Entry) :=
  match file.run .plain ⟨0, text⟩ .none with
  | (none, tried) => .error tried
  | (some (tokens, _), _) => .ok ((tokens.flatMap Token.inner).filterMap Entry.ofToken?)

variable {first second third inner item separator last : Pattern} {around : Context}
  {input rest : Piece} {known : Attempts} {tokens : List Token} {told : Rule}

/-! ### Tracking and reading -/

theorem iterateTracked_fst {run : Piece → Attempts → Reading × Attempts} {read : Piece → Reading}
    (same : ∀ input known, (run input known).1 = read input) (input : Piece) (known : Attempts) :
    (iterateTracked run input known).1 = iterate read input := by
  fun_induction iterateTracked run input known with
  | case1 input known tried ran =>
      have failed := same input known
      rw [ran] at failed
      rw [iterate_of_none failed.symm]
  | case2 input known tokens rest tried ran shorter following ih =>
      have done := same input known
      rw [ran] at done
      rw [iterate_of_some done.symm shorter, ← ih]
  | case3 input known tokens rest tried ran longer =>
      have done := same input known
      rw [ran] at done
      unfold iterate
      rw [← done]
      exact (if_neg longer).symm

/-- Tracking makes no difference to what is read. -/
theorem run_fst (pattern : Pattern) (around : Context) (input : Piece) (known : Attempts) :
    (pattern.run around input known).1 = pattern.read input := by
  induction pattern generalizing around input known with
  | start => rfl
  | finish => rfl
  | char fits => rfl
  | andThen first second ihFirst ihSecond =>
      have head := ihFirst around input known
      unfold run
      split
      · rename_i tried ran
        rw [ran] at head
        rw [read_andThen_of_none head.symm]
      · rename_i tokens rest tried ran
        rw [ran] at head
        rw [read_andThen_of_some head.symm]
        simp only [ihSecond]
  | orElse first second ihFirst ihSecond =>
      have head := ihFirst around input known
      unfold run
      split
      · rename_i tried ran
        rw [ran] at head
        rw [read_orElse_of_none head.symm, ihSecond]
      · rename_i result more
        cases ran : first.run around input known with
        | mk one tried =>
            rw [ran] at head
            cases one with
            | none => exact absurd ran (more tried)
            | some done => rw [read_orElse_of_some head.symm]
  | maybe inner ih =>
      rw [read_maybe, ← ih around input known]
      rfl
  | star inner ih =>
      rw [read_star, ← iterateTracked_fst (fun input known => ih around input known) input known]
      rfl
  | ahead inner ih =>
      rw [read_ahead, ← ih around input known]
      rfl
  | notAhead inner ih =>
      rw [read_notAhead, ← ih around.flip input known]
      rfl
  | rule told inner ih =>
      rw [read_rule, ← ih (around.inside told) input known]
      rfl

theorem run_eq (pattern : Pattern) (around : Context) (input : Piece) (known : Attempts) :
    pattern.run around input known = (pattern.read input, pattern.tries around input known) :=
  Prod.ext (run_fst pattern around input known) rfl

/-! ### What is tried for one part -/

theorem tries_andThen (first second : Pattern) (around : Context) (input : Piece)
    (known : Attempts) :
    (first.andThen second).tries around input known =
      match first.read input with
      | none => first.tries around input known
      | some head => second.tries around head.2 (first.tries around input known) := by
  rw [tries, run, run_eq]
  cases first.read input with
  | none => rfl
  | some head => rfl

theorem tries_andThen_of_none (failed : first.read input = none) :
    (first.andThen second).tries around input known = first.tries around input known := by
  rw [tries_andThen, failed]

theorem tries_andThen_of_some {result : List Token × Piece}
    (done : first.read input = some result) :
    (first.andThen second).tries around input known =
      second.tries around result.2 (first.tries around input known) := by
  rw [tries_andThen, done]

theorem tries_orElse (first second : Pattern) (around : Context) (input : Piece)
    (known : Attempts) :
    (first.orElse second).tries around input known =
      if (first.read input).isSome then
        first.tries around input known
      else
        second.tries around input (first.tries around input known) := by
  rw [tries, run, run_eq]
  cases first.read input with
  | none => rfl
  | some result => rfl

theorem tries_orElse_of_none (failed : first.read input = none) :
    (first.orElse second).tries around input known =
      second.tries around input (first.tries around input known) := by
  rw [tries_orElse, failed]
  rfl

theorem tries_orElse_of_some {result : List Token × Piece} (done : first.read input = some result) :
    (first.orElse second).tries around input known = first.tries around input known := by
  rw [tries_orElse, done]
  rfl

theorem tries_maybe (inner : Pattern) (around : Context) (input : Piece) (known : Attempts) :
    (maybe inner).tries around input known = inner.tries around input known :=
  rfl

theorem tries_ahead (inner : Pattern) (around : Context) (input : Piece) (known : Attempts) :
    (ahead inner).tries around input known = inner.tries around input known :=
  rfl

theorem tries_notAhead (inner : Pattern) (around : Context) (input : Piece) (known : Attempts) :
    (notAhead inner).tries around input known = inner.tries around.flip input known :=
  rfl

theorem tries_rule (told : Rule) (inner : Pattern) (around : Context) (input : Piece)
    (known : Attempts) :
    (rule told inner).tries around input known =
      if (inner.read input).isSome = around.refused then
        Attempts.note told around input.start known
          (inner.tries (around.inside told) input known)
      else
        inner.tries (around.inside told) input known := by
  rw [← run_fst inner (around.inside told) input known]
  rfl

theorem tries_star (inner : Pattern) (around : Context) (input : Piece) (known : Attempts) :
    (star inner).tries around input known =
      (iterateTracked (inner.run around) input known).2 :=
  rfl

theorem tries_star_of_none (failed : inner.read input = none) :
    (star inner).tries around input known = inner.tries around input known := by
  rw [tries_star, iterateTracked, run_eq, failed]

theorem tries_star_of_some (done : inner.read input = some (tokens, rest))
    (shorter : rest.chars.length < input.chars.length) :
    (star inner).tries around input known =
      (star inner).tries around rest (inner.tries around input known) := by
  rw [tries_star, iterateTracked, run_eq, done]
  simp only [if_pos shorter]
  rfl

/-- One reading more, where the repetition ends although it could go on in place. -/
theorem tries_star_of_some_of_not (done : inner.read input = some (tokens, rest))
    (longer : ¬rest.chars.length < input.chars.length) :
    (star inner).tries around input known = inner.tries around input known := by
  rw [tries_star, iterateTracked, run_eq, done]
  simp only [if_neg longer]

theorem tries_andThen_assoc (first second third : Pattern) :
    ((first.andThen second).andThen third).tries =
      (first.andThen (second.andThen third)).tries := by
  funext around input known
  cases one : first.read input with
  | none =>
      rw [tries_andThen_of_none (read_andThen_of_none one), tries_andThen_of_none one,
        tries_andThen_of_none one]
  | some head =>
      rw [tries_andThen_of_some one]
      cases two : second.read head.2 with
      | none =>
          rw [tries_andThen_of_none (read_andThen_of_second_none one two),
            tries_andThen_of_none two, tries_andThen_of_some one]
      | some middle =>
          rw [tries_andThen_of_some (read_andThen_of_both one two), tries_andThen_of_some two,
            tries_andThen_of_some one]

/-! ### The furthest place -/

/-- Whether a rule is tried in vain at a place while a pattern is read. -/
inductive TriesAt : Pattern → Context → Piece → Nat → Prop where
  | first {first second around input place : _} (tried : TriesAt first around input place) :
    TriesAt (.andThen first second) around input place
  | second {first second around input place : _} {result : List Token × Piece}
    (done : first.read input = some result) (tried : TriesAt second around result.2 place) :
    TriesAt (.andThen first second) around input place
  | left {first second around input place : _} (tried : TriesAt first around input place) :
    TriesAt (.orElse first second) around input place
  | right {first second around input place : _} (failed : first.read input = none)
    (tried : TriesAt second around input place) : TriesAt (.orElse first second) around input place
  | maybe {inner around input place : _} (tried : TriesAt inner around input place) :
    TriesAt (.maybe inner) around input place
  | once {inner around input place : _} (tried : TriesAt inner around input place) :
    TriesAt (.star inner) around input place
  | again {inner around input place : _} {result : List Token × Piece}
    (done : inner.read input = some result) (shorter : result.2.chars.length < input.chars.length)
    (tried : TriesAt (.star inner) around result.2 place) :
    TriesAt (.star inner) around input place
  | ahead {inner around input place : _} (tried : TriesAt inner around input place) :
    TriesAt (.ahead inner) around input place
  | notAhead {inner around input place : _} (tried : TriesAt inner (Context.flip around) input place) :
    TriesAt (.notAhead inner) around input place
  | inside {told inner around input place : _}
    (tried : TriesAt inner (Context.inside around told) input place) :
    TriesAt (.rule told inner) around input place
  | whole {told inner around input : _} (apart : Context.atomic around = false)
    (vain : (inner.read input).isSome = around.refused) :
    TriesAt (.rule told inner) around input input.start

/-- Whether a place is the furthest among one that is known and those where a rule is tried. -/
def Furthest (tried : Nat → Prop) (known place : Nat) : Prop :=
  IsGreatest {other | other = known ∨ tried other} place

theorem Furthest.trans {one two both : Nat → Prop} {start middle stop : Nat}
    (left : Furthest one start middle) (right : Furthest two middle stop)
    (all : ∀ place, both place ↔ one place ∨ two place) : Furthest both start stop := by
  refine ⟨?_, ?_⟩
  · rcases right.1 with rfl | tried
    · exact left.1.imp id fun tried => (all stop).mpr (Or.inl tried)
    · exact Or.inr ((all stop).mpr (Or.inr tried))
  · have onward : middle ≤ stop := right.2 (Or.inl rfl)
    rintro place (rfl | tried)
    · exact (left.2 (Or.inl rfl)).trans onward
    · rcases (all place).mp tried with early | late
      · exact (left.2 (Or.inr early)).trans onward
      · exact right.2 (Or.inr late)

theorem Furthest.refl {tried : Nat → Prop} (none : ∀ place, ¬tried place) (known : Nat) :
    Furthest tried known known :=
  ⟨Or.inl rfl, fun place among => (among.resolve_right (none place)).le⟩

theorem Furthest.congr {one other : Nat → Prop} {known place : Nat}
    (furthest : Furthest one known place) (same : ∀ place, other place ↔ one place) :
    Furthest other known place := by
  obtain rfl : other = one := funext fun place => propext (same place)
  exact furthest

/-- A rule that is tried in vain is noted unless what is known is further on. -/
theorem furthest_note (told : Rule) (apart : around.atomic = false) (place : Nat)
    (earlier known : Attempts) :
    Furthest (· = place) known.offset (Attempts.note told around place earlier known).offset := by
  unfold Attempts.note
  split
  · rename_i kept
    refine ⟨Or.inl rfl, ?_⟩
    rintro other (rfl | rfl)
    · exact Nat.le_refl _
    · rcases kept with inside | alone | further
      · rw [apart] at inside
        cases inside
      · unfold Attempts.countAt at alone
        split at alone
        · rename_i here
          exact here.ge
        · cases alone
      · exact further.le
  · rename_i noted
    have reached : known.offset ≤ place := by
      by_contra further
      exact noted (Or.inr (Or.inr (Nat.lt_of_not_le further)))
    have offset : (earlier.backTo known place).offset = place := by
      unfold Attempts.backTo
      split
      · rfl
      · rfl
    have same : ∀ kept : Attempts, kept.offset = place →
        Furthest (· = place) known.offset kept.offset := by
      rintro kept rfl
      exact ⟨Or.inr rfl, by rintro other (rfl | rfl); exacts [reached, Nat.le_refl _]⟩
    split
    · exact same _ offset
    · exact same _ offset

theorem triesAt_rule_iff (told : Rule) (inner : Pattern) (around : Context) (input : Piece)
    (place : Nat) :
    (rule told inner).TriesAt around input place ↔
      inner.TriesAt (around.inside told) input place ∨
        (around.atomic = false ∧ (inner.read input).isSome = around.refused) ∧
          place = input.start := by
  constructor
  · intro tried
    cases tried with
    | inside tried => exact Or.inl tried
    | whole apart vain => exact Or.inr ⟨⟨apart, vain⟩, rfl⟩
  · rintro (tried | ⟨⟨apart, vain⟩, rfl⟩)
    · exact .inside tried
    · exact .whole apart vain

theorem furthest_star
    (each : ∀ input known,
      Furthest (inner.TriesAt around input) known.offset (inner.tries around input known).offset)
    (input : Piece) (known : Attempts) :
    Furthest ((star inner).TriesAt around input) known.offset
      ((star inner).tries around input known).offset := by
  generalize count : input.chars.length = length
  induction length using Nat.strong_induction_on generalizing input known with
  | h length ih =>
      have here := each input known
      by_cases further : ∃ result, inner.read input = some result ∧
          result.2.chars.length < input.chars.length
      · obtain ⟨result, done, shorter⟩ := further
        rw [tries_star_of_some done shorter]
        refine here.trans (ih _ (count ▸ shorter) result.2 _ rfl) fun place => ⟨?_, ?_⟩
        · intro tried
          cases tried with
          | once tried => exact Or.inl tried
          | again another _ tried =>
              cases done.symm.trans another
              exact Or.inr tried
        · rintro (tried | tried)
          · exact .once tried
          · exact .again done shorter tried
      · have last : (star inner).tries around input known = inner.tries around input known := by
          cases done : inner.read input with
          | none => exact tries_star_of_none done
          | some result =>
              exact tries_star_of_some_of_not done fun shorter => further ⟨result, done, shorter⟩
        rw [last]
        refine here.congr fun place => ⟨?_, .once⟩
        intro tried
        cases tried with
        | once tried => exact tried
        | again done shorter _ => exact absurd ⟨_, done, shorter⟩ further

/-- The place that is kept is the furthest one where a rule was tried in vain. -/
theorem furthest_tries (pattern : Pattern) (around : Context) (input : Piece) (known : Attempts) :
    Furthest (pattern.TriesAt around input) known.offset
      (pattern.tries around input known).offset := by
  induction pattern generalizing around input known with
  | start => exact Furthest.refl (fun _ => nofun) known.offset
  | finish => exact Furthest.refl (fun _ => nofun) known.offset
  | char fits => exact Furthest.refl (fun _ => nofun) known.offset
  | andThen first second ihFirst ihSecond =>
      have head := ihFirst around input known
      cases one : first.read input with
      | none =>
          rw [tries_andThen_of_none one]
          refine head.congr fun place => ⟨?_, .first⟩
          intro tried
          cases tried with
          | first tried => exact tried
          | second done _ => cases one.symm.trans done
      | some result =>
          rw [tries_andThen_of_some one]
          refine head.trans (ihSecond around result.2 _) fun place => ⟨?_, ?_⟩
          · intro tried
            cases tried with
            | first tried => exact Or.inl tried
            | second done tried =>
                cases one.symm.trans done
                exact Or.inr tried
          · rintro (tried | tried)
            · exact .first tried
            · exact .second one tried
  | orElse first second ihFirst ihSecond =>
      have head := ihFirst around input known
      cases one : first.read input with
      | some result =>
          rw [tries_orElse_of_some one]
          refine head.congr fun place => ⟨?_, .left⟩
          intro tried
          cases tried with
          | left tried => exact tried
          | right failed _ => cases one.symm.trans failed
      | none =>
          rw [tries_orElse_of_none one]
          refine head.trans (ihSecond around input _) fun place => ⟨?_, ?_⟩
          · intro tried
            cases tried with
            | left tried => exact Or.inl tried
            | right _ tried => exact Or.inr tried
          · rintro (tried | tried)
            · exact .left tried
            · exact .right one tried
  | maybe inner ih =>
      exact (ih around input known).congr fun place => ⟨fun | .maybe tried => tried, .maybe⟩
  | star inner ih => exact furthest_star (ih around) input known
  | ahead inner ih =>
      exact (ih around input known).congr fun place => ⟨fun | .ahead tried => tried, .ahead⟩
  | notAhead inner ih =>
      exact (ih around.flip input known).congr fun place =>
        ⟨fun | .notAhead tried => tried, .notAhead⟩
  | rule told inner ih =>
      have inside := ih (around.inside told) input known
      rw [tries_rule]
      split
      · rename_i vain
        cases atomic : around.atomic with
        | false =>
            refine inside.trans (furthest_note told atomic input.start known _) fun place => ?_
            rw [triesAt_rule_iff]
            exact or_congr_right (and_iff_right ⟨atomic, vain⟩)
        | true =>
            unfold Attempts.note
            rw [if_pos (Or.inl atomic)]
            refine inside.congr fun place => ?_
            rw [triesAt_rule_iff, atomic]
            exact or_iff_left fun noted => Bool.noConfusion noted.1.1
      · rename_i kept
        refine inside.congr fun place => ?_
        rw [triesAt_rule_iff]
        exact or_iff_left fun noted => kept noted.1.2

/-- What is tried before the furthest place makes no difference to what is known. -/
theorem tries_of_before {pattern : Pattern}
    (before : ∀ place, pattern.TriesAt around input place → place < known.offset) :
    pattern.tries around input known = known := by
  induction pattern generalizing around input with
  | start => rfl
  | finish => rfl
  | char fits => rfl
  | andThen first second ihFirst ihSecond =>
      have head := ihFirst fun place tried => before place (.first tried)
      cases one : first.read input with
      | none => rw [tries_andThen_of_none one, head]
      | some result =>
          rw [tries_andThen_of_some one, head]
          exact ihSecond fun place tried => before place (.second one tried)
  | orElse first second ihFirst ihSecond =>
      have head := ihFirst fun place tried => before place (.left tried)
      cases one : first.read input with
      | none =>
          rw [tries_orElse_of_none one, head]
          exact ihSecond fun place tried => before place (.right one tried)
      | some result => rw [tries_orElse_of_some one, head]
  | maybe inner ih => exact ih fun place tried => before place (.maybe tried)
  | star inner ih =>
      generalize count : input.chars.length = length
      induction length using Nat.strong_induction_on generalizing input with
      | h length again =>
          have head := ih fun place tried => before place (.once tried)
          cases done : inner.read input with
          | none => rw [tries_star_of_none done, head]
          | some result =>
              by_cases shorter : result.2.chars.length < input.chars.length
              · rw [tries_star_of_some done shorter, head]
                exact again _ (count ▸ shorter)
                  (fun place tried => before place (.again done shorter tried)) rfl
              · rw [tries_star_of_some_of_not done shorter, head]
  | ahead inner ih => exact ih fun place tried => before place (.ahead tried)
  | notAhead inner ih => exact ih fun place tried => before place (.notAhead tried)
  | rule told inner ih =>
      rw [tries_rule, ih fun place tried => before place (.inside tried)]
      split
      · rename_i vain
        unfold Attempts.note
        cases atomic : around.atomic with
        | true => exact if_pos (Or.inl rfl)
        | false => exact if_pos (Or.inr (Or.inr (before input.start (.whole atomic vain))))
      · rfl

/-! ### Patterns without rules -/

def isSilent : Pattern → Bool
  | .start | .finish | .char _ => true
  | .andThen first second | .orElse first second => first.isSilent && second.isSilent
  | .maybe inner | .star inner | .ahead inner | .notAhead inner => inner.isSilent
  | .rule _ _ => false

theorem not_triesAt_of_silent {pattern : Pattern} {place : Nat}
    (silent : pattern.isSilent = true) : ¬pattern.TriesAt around input place := by
  intro tried
  induction tried with
  | first _ ih => exact ih (Bool.and_eq_true_iff.mp silent).1
  | second _ _ ih => exact ih (Bool.and_eq_true_iff.mp silent).2
  | left _ ih => exact ih (Bool.and_eq_true_iff.mp silent).1
  | right _ _ ih => exact ih (Bool.and_eq_true_iff.mp silent).2
  | maybe _ ih => exact ih silent
  | once _ ih => exact ih silent
  | again _ _ _ ih => exact ih silent
  | ahead _ ih => exact ih silent
  | notAhead _ ih => exact ih silent
  | inside _ _ => cases silent
  | whole _ _ => cases silent

theorem tries_of_silent {pattern : Pattern} (silent : pattern.isSilent = true) (around : Context)
    (input : Piece) (known : Attempts) : pattern.tries around input known = known :=
  tries_of_before fun _ tried => absurd tried (not_triesAt_of_silent silent)

theorem tries_rule_of_none (failed : (rule told inner).read input = none) :
    (rule told inner).tries .plain input known =
      Attempts.note told .plain input.start known
        (inner.tries (Context.plain.inside told) input known) := by
  rw [read_rule] at failed
  rw [tries_rule, Option.map_eq_none_iff.mp failed]
  rfl

theorem tries_rule_of_some {result : List Token × Piece}
    (done : (rule told inner).read input = some result) :
    (rule told inner).tries .plain input known =
      inner.tries (Context.plain.inside told) input known := by
  rw [read_rule] at done
  obtain ⟨inside, one, _⟩ := Option.map_eq_some_iff.mp done
  rw [tries_rule, one]
  rfl

/-- A rule without rules inside it stands for itself. -/
theorem tries_rule_of_silent (silent : inner.isSilent = true) :
    (rule told inner).tries .plain input known =
      if ((rule told inner).read input).isSome then
        known
      else
        Attempts.note told .plain input.start known known := by
  rw [tries_rule, tries_of_silent silent, read_rule]
  cases inner.read input with
  | none => rfl
  | some result => rfl

/-! ### Lists with separators -/

theorem tries_separated_of_none {head : List Token × Piece} (silent : separator.isSilent = true)
    (one : item.read input = some head) (two : separator.read head.2 = none) :
    ((item.andThen (star (separator.andThen item))).andThen last).tries around input known =
      last.tries around head.2 (item.tries around input known) := by
  have ended : (separator.andThen item).read head.2 = none := read_andThen_of_none two
  have stays : (star (separator.andThen item)).read head.2 = some ([], head.2) := by
    rw [read_star, iterate_of_none ended]
  rw [tries_andThen_assoc, tries_andThen_of_some one, tries_andThen_of_some stays,
    tries_star_of_none ended, tries_andThen_of_none two, tries_of_silent silent]

/-- After an item and a separator a list goes on as from the item after it, unless there is none:
then what ends the list is tried after the first item. -/
theorem tries_separated {head middle : List Token × Piece} (silent : separator.isSilent = true)
    (shorter : ∀ {input rest : Piece} {tokens : List Token},
      (separator.andThen item).read input = some (tokens, rest) →
      rest.chars.length < input.chars.length)
    (one : item.read input = some head) (two : separator.read head.2 = some middle) :
    ((item.andThen (star (separator.andThen item))).andThen last).tries around input known =
      let later := ((item.andThen (star (separator.andThen item))).andThen last).tries around
        middle.2 (item.tries around input known)
      if (item.read middle.2).isSome then later else last.tries around head.2 later := by
  rw [tries_andThen_assoc, tries_andThen_of_some one]
  have quiet := tries_of_silent silent around head.2 (item.tries around input known)
  cases three : item.read middle.2 with
  | none =>
      have ended : (separator.andThen item).read head.2 = none :=
        read_andThen_of_second_none two three
      have stays : (star (separator.andThen item)).read head.2 = some ([], head.2) := by
        rw [read_star, iterate_of_none ended]
      rw [tries_andThen_of_some stays, tries_star_of_none ended, tries_andThen_of_some two, quiet]
      simp only [tries_andThen_of_none three]
      rfl
  | some following =>
      have next := read_andThen_of_both two three
      rw [tries_andThen_of_some (read_star _ _), tries_star_of_some next (shorter next),
        tries_andThen_of_some two, quiet, iterate_of_some next (shorter next)]
      simp only [tries_andThen_of_some three]
      rw [tries_andThen_of_some (read_star _ _)]
      rfl

end Pattern

end TemplateServer.Grammar
