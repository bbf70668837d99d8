import TemplateServer.Proofs.Grammar.Acceptance

/-!
What an outline records of a text. The lines of a text are those before its first header and then
block after block, a header with the lines up to the next one. Main statement: the sections are the
blocks and hold the body lines of these, the imports are the import lines, the strays are the body
lines before the first header that show something, and all that is recorded stands in the text where
it says.
-/

namespace TemplateServer.Grammar

open Text

/-! ### Kinds of lines -/

def IsHeader (line : Piece) : Prop :=
  line.chars ∈ Form.header

def IsImport (line : Piece) : Prop :=
  line.chars ∉ Form.header ∧ line.chars ∈ Form.imported

def IsBody (line : Piece) : Prop :=
  line.chars ∉ Form.header ∧ line.chars ∉ Form.imported ∧ line.chars ∉ Form.marked '>'

instance (line : Piece) : Decidable (line.chars ∈ Form.header) :=
  decidable_of_iff _ (Form.mem_header line).symm

instance (line : Piece) : Decidable (line.chars ∈ Form.imported) :=
  decidable_of_iff _ (Form.mem_imported line).symm

instance (line : Piece) : Decidable (line.chars ∈ Form.marked '>') :=
  decidable_of_iff _ (Form.mem_marked line.chars rfl).symm

instance : DecidablePred IsHeader :=
  fun line => inferInstanceAs (Decidable (line.chars ∈ Form.header))

instance : DecidablePred IsImport :=
  fun line => inferInstanceAs (Decidable (line.chars ∉ Form.header ∧ line.chars ∈ Form.imported))

instance : DecidablePred IsBody :=
  fun line => inferInstanceAs (Decidable (line.chars ∉ Form.header ∧
    line.chars ∉ Form.imported ∧ line.chars ∉ Form.marked '>'))

/-! ### Headers -/

structure Header.Records (line : Piece) (header : Header) : Prop where
  name : header.name.chars ∈ Form.name
  parameters : ∀ parameter ∈ header.parameters, parameter.chars ∈ Form.parameter
  picks : Piece.Picks (header.name :: header.parameters) line

variable {line input name rest : Piece} {continues : Char → Bool}

theorem mem_of_readName? (starting : ∀ c, isNameStart c = true → continues c = true)
    (named : readName? continues input = some (name, rest)) :
    name.chars ∈ Form.one isNameStart * Form.every continues := by
  obtain ⟨⟨c, chars, head, starts⟩, rfl, _⟩ := readName?_parts named
  refine Form.mem_one_mul.mpr ⟨c, starts, chars.takeWhile continues, ?_, ?_⟩
  · intro other taken
    exact List.mem_takeWhile_imp taken
  · change input.chars.takeWhile continues = _
    rw [head, List.takeWhile_cons_of_pos (starting c starts)]

theorem within_of_readName? (named : readName? continues input = some (name, rest)) :
    name.Within input ∧ rest.Within input ∧ rest.start = name.stop := by
  obtain ⟨_, rfl, rfl⟩ := readName?_parts named
  exact ⟨input.within_takeWhile continues, input.within_dropWhile continues, rfl⟩

/-- Names that follow a name after a mark. -/
theorem picks_of_readName? {chars : List Char} {mark : Char} {pieces : List Piece}
    (named : readName? continues input = some (name, rest))
    (head : (rest.dropWhile isBlank).chars = mark :: chars)
    (picks : Piece.Picks pieces (((rest.dropWhile isBlank).drop 1).dropWhile isBlank)) :
    Piece.Picks (name :: pieces) input := by
  obtain ⟨first, remains, start⟩ := within_of_readName? named
  have skipped := Piece.within_dropWhile rest isBlank
  have marked := Piece.within_drop (rest.dropWhile isBlank) 1
  have resumed := Piece.within_dropWhile ((rest.dropWhile isBlank).drop 1) isBlank
  apply Piece.Picks.cons first picks
  · exact resumed.trans (marked.trans (skipped.trans remains))
  · have mark := Piece.start_lt_drop_one head
    have before := skipped.start_le
    have after := resumed.start_le
    omega

theorem records_readParameters {opening : Nat} {following : Piece} {parameters : List Piece}
    (done : readParameters opening input = .ok (parameters, following)) :
    (∀ parameter ∈ parameters, parameter.chars ∈ Form.parameter) ∧
      Piece.Picks parameters input := by
  induction input using readParameters_induction generalizing parameters with
  | nameless input unnamed =>
      rw [readParameters_of_nameless unnamed] at done
      cases done
  | comma input parameter rest chars named head ih =>
      rw [readParameters_of_comma named head] at done
      cases more : readParameters opening
          (((rest.dropWhile isBlank).drop 1).dropWhile isBlank) with
      | error malformed =>
          rw [more] at done
          cases done
      | ok result =>
          rw [more] at done
          cases done
          obtain ⟨formed, picks⟩ := ih more
          refine ⟨List.forall_mem_cons.mpr ⟨?_, formed⟩, picks_of_readName? named head picks⟩
          rw [Form.parameter_eq]
          exact mem_of_readName? (fun _ => isParameterChar_of_isNameStart) named
  | closing input parameter rest chars named head =>
      rw [readParameters_of_closing named head] at done
      cases done
      refine ⟨List.forall_mem_singleton.mpr ?_, Piece.picks_singleton (within_of_readName? named).1⟩
      rw [Form.parameter_eq]
      exact mem_of_readName? (fun _ => isParameterChar_of_isNameStart) named
  | other input parameter rest named unlisted unclosed =>
      rw [readParameters_of_other named unlisted unclosed] at done
      cases done

theorem records_readParameterList {opening : Nat} {following : Piece} {parameters : List Piece}
    (done : readParameterList opening input = .ok (parameters, following)) :
    (∀ parameter ∈ parameters, parameter.chars ∈ Form.parameter) ∧
      Piece.Picks parameters input := by
  unfold readParameterList at done
  split at done
  · cases done
    exact ⟨fun _ => nofun, Piece.picks_nil input⟩
  · exact records_readParameters done

theorem Header.records_of_ofLine {header : Header} (read : Header.ofLine line = .ok header) :
    Header.Records line header := by
  have read : (Header.ofLine line).toOption = some header := by rw [read]; rfl
  have remains : (Header.input line).Within line :=
    (Piece.within_dropWhile _ isBlank).trans
      ((Piece.within_drop _ 1).trans (Piece.within_dropWhile line isBlank))
  have widen {pieces : List Piece} (picks : Piece.Picks pieces (Header.input line)) :
      Piece.Picks pieces line :=
    ⟨fun piece member => (picks.within piece member).trans remains, picks.ordered⟩
  cases named : readName? isNameChar (Header.input line) with
  | none =>
      rw [Header.ofLine_of_nameless named] at read
      cases read
  | some parts =>
      obtain ⟨name, rest⟩ := parts
      have formed : name.chars ∈ Form.name := by
        rw [Form.name_eq]
        exact mem_of_readName? Pattern.isNameChar_of_isNameStart named
      rw [Header.ofLine_of_named named] at read
      split at read
      · cases read
        exact ⟨formed, fun _ => nofun, widen (Piece.picks_singleton (within_of_readName? named).1)⟩
      · rename_i chars head
        split at read
        · cases read
        · rename_i parameters following listed
          split at read
          · cases read
            obtain ⟨each, picks⟩ := records_readParameterList listed
            exact ⟨formed, each, widen (picks_of_readName? named head picks)⟩
          · cases read
      · cases read

/-! ### Imports -/

def Import.Records (line : Piece) (declaration : Import) : Prop :=
  declaration.line = line ∧ ∃ indent target tail, indent ∈ Form.blanks ∧ tail ∈ Form.blanks ∧
    ']' ∉ declaration.label ∧ ')' ∉ target ∧ declaration.path = trim target ∧
    line.chars = indent ++ '[' :: (declaration.label ++ ']' :: '(' :: (target ++ ')' :: tail))

theorem Import.records_of_ofLine? {declaration : Import}
    (read : Import.ofLine? line = some declaration) : Import.Records line declaration := by
  unfold Import.ofLine? at read
  split at read
  · rename_i inside opened
    split at read
    · rename_i target labelled
      split at read
      · rename_i tail closed
        simp only at read
        split at read
        · cases read
        · rename_i proper
          simp only [Bool.or_eq_true, Bool.not_eq_true', not_or, Bool.not_eq_false,
            List.all_eq_true] at proper
          cases read
          refine ⟨rfl, line.chars.takeWhile isBlank, target.takeWhile (· != ')'), tail, ?_,
            proper.2, not_mem_takeWhile_ne ']' inside, not_mem_takeWhile_ne ')' target, rfl, ?_⟩
          · intro c taken
            have blank := List.mem_takeWhile_imp taken
            exact blank
          · rw [← takeWhile_append_of_dropWhile closed, ← takeWhile_append_of_dropWhile labelled]
            exact takeWhile_append_of_dropWhile opened
      · cases read
    · cases read
  · cases read

/-! ### Blocks -/

/-- The line of a header and the lines up to the next one. -/
structure Block where
  heading : Piece
  others : List Piece

def Block.lines (block : Block) : List Piece :=
  block.heading :: block.others

/-- Whether a section is that of a block: it has the block's header and its body lines. -/
structure Section.Records (block : Block) (part : Section) : Prop where
  headed : IsHeader block.heading
  alone : ∀ line ∈ block.others, ¬IsHeader line
  header : part.header.Records block.heading
  lines : part.lines = block.others.filter IsBody

/-- Whether an outline is that of the lines before the first header and of the blocks after
them. -/
structure Outline.Covers (front : List Piece) (blocks : List Block) (outline : Outline) : Prop where
  alone : ∀ line ∈ front, ¬IsHeader line
  lead : outline.lead = front.filter IsBody
  sections : List.Forall₂ Section.Records blocks outline.sections
  imports : List.Forall₂ Import.Records
    ((front ++ blocks.flatMap Block.lines).filter IsImport) outline.imports

theorem covers_empty : Outline.empty.Covers [] [] :=
  ⟨fun _ => nofun, rfl, .nil, .nil⟩

variable {entry : Entry} {front : List Piece} {blocks : List Block} {outline : Outline}

/-- What a line can be read as. -/
theorem ofLine_cases (read : Entry.ofLine line = .ok entry) :
    (∃ header, entry = .header header ∧ Header.ofLine line = .ok header) ∨
      (∃ declaration, entry = .imported declaration ∧ Import.ofLine? line = some declaration) ∨
      entry = .comment line ∨ entry = .body line := by
  unfold Entry.ofLine at read
  split at read
  · cases found : Header.ofLine line with
    | error malformed =>
        rw [found] at read
        cases read
    | ok header =>
        rw [found] at read
        cases read
        exact Or.inl ⟨header, rfl, rfl⟩
  · cases read
    exact Or.inr (Or.inr (Or.inl rfl))
  · split at read
    · rename_i declaration found
      cases read
      exact Or.inr (Or.inl ⟨declaration, rfl, found⟩)
    · cases read
      exact Or.inr (Or.inr (Or.inr rfl))

theorem alone_cons (unheaded : ¬IsHeader line) (alone : ∀ other ∈ front, ¬IsHeader other) :
    ∀ other ∈ line :: front, ¬IsHeader other :=
  List.forall_mem_cons.mpr ⟨unheaded, alone⟩

/-- One more line: a header starts a block with the lines that came first so far, and any other
line becomes the first of these. -/
theorem Outline.Covers.cons (covers : outline.Covers front blocks)
    (read : Entry.ofLine line = .ok entry) :
    ∃ first groups, line :: (front ++ blocks.flatMap Block.lines) =
        first ++ groups.flatMap Block.lines ∧ (Outline.cons entry outline).Covers first groups := by
  have classified := classified_of_ofLine read
  rcases ofLine_cases read with
    ⟨header, rfl, found⟩ | ⟨declaration, rfl, found⟩ | rfl | rfl
  · have headed : IsHeader line := classified
    have unimported : ¬IsImport line := fun other => other.1 headed
    refine ⟨[], ⟨line, front⟩ :: blocks, rfl, fun _ => nofun, rfl, ?_, ?_⟩
    · exact .cons ⟨headed, covers.alone, Header.records_of_ofLine found, covers.lead⟩
        covers.sections
    · change List.Forall₂ Import.Records
        ((line :: (front ++ blocks.flatMap Block.lines)).filter IsImport) outline.imports
      rw [List.filter_cons_of_neg (by simpa using unimported)]
      exact covers.imports
  · have isImport : IsImport line := classified
    have unbodied : ¬IsBody line := fun body => body.2.1 isImport.2
    refine ⟨line :: front, blocks, rfl, alone_cons isImport.1 covers.alone, ?_, covers.sections, ?_⟩
    · rw [List.filter_cons_of_neg (by simpa using unbodied)]
      exact covers.lead
    · rw [List.cons_append, List.filter_cons_of_pos (by simpa using isImport)]
      exact .cons (Import.records_of_ofLine? found) covers.imports
  · obtain ⟨_, unheaded, unimported, marked⟩ := classified
    have unbodied : ¬IsBody line := fun body => body.2.2 marked
    have other : ¬IsImport line := fun isImport => unimported isImport.2
    refine ⟨line :: front, blocks, rfl, alone_cons unheaded covers.alone, ?_, covers.sections, ?_⟩
    · rw [List.filter_cons_of_neg (by simpa using unbodied)]
      exact covers.lead
    · rw [List.cons_append, List.filter_cons_of_neg (by simpa using other)]
      exact covers.imports
  · obtain ⟨_, body⟩ := classified
    have isBody : IsBody line := body
    have other : ¬IsImport line := fun isImport => body.2.1 isImport.2
    refine ⟨line :: front, blocks, rfl, alone_cons body.1 covers.alone, ?_, covers.sections, ?_⟩
    · rw [List.filter_cons_of_pos (by simpa using isBody), ← covers.lead]
      rfl
    · rw [List.cons_append, List.filter_cons_of_neg (by simpa using other)]
      exact covers.imports

theorem covers_ofEntries {lines : List Piece} {entries : List Entry}
    (read : lines.mapM Entry.ofLine = .ok entries) :
    ∃ front blocks, lines = front ++ blocks.flatMap Block.lines ∧
      (Outline.ofEntries entries).Covers front blocks := by
  induction lines generalizing entries with
  | nil =>
      cases read
      exact ⟨[], [], rfl, covers_empty⟩
  | cons line lines ih =>
      rw [List.mapM_cons] at read
      cases one : Entry.ofLine line with
      | error malformed =>
          rw [one] at read
          cases read
      | ok entry =>
          cases more : lines.mapM Entry.ofLine with
          | error malformed =>
              rw [one, more] at read
              cases read
          | ok entries =>
              rw [one, more] at read
              cases read
              obtain ⟨front, blocks, rfl, covers⟩ := ih more
              exact covers.cons one

theorem covers_ofText {text : List Char} (read : Outline.ofText text = .ok outline) :
    ∃ front blocks, Lines 0 text (front ++ blocks.flatMap Block.lines) ∧
      outline.Covers front blocks := by
  unfold Outline.ofText at read
  cases found : (logicalLines text).mapM Entry.ofLine with
  | error malformed =>
      rw [found] at read
      cases read
  | ok entries =>
      rw [found] at read
      cases read
      obtain ⟨front, blocks, same, covers⟩ := covers_ofEntries found
      exact ⟨front, blocks, lines_iff.mpr same.symm, covers⟩

theorem Outline.Covers.bodyLines_sublist (covers : outline.Covers front blocks) :
    (outline.sections.flatMap Section.lines).Sublist (front ++ blocks.flatMap Block.lines) := by
  have each {blocks : List Block} {parts : List Section}
      (records : List.Forall₂ Section.Records blocks parts) :
      (parts.flatMap Section.lines).Sublist (blocks.flatMap Block.lines) := by
    induction records with
    | nil => exact .slnil
    | cons first _ ih =>
        rw [List.flatMap_cons, List.flatMap_cons, first.lines]
        exact (List.filter_sublist.cons _).append ih
  exact (each covers.sections).trans (List.sublist_append_right _ _)

/-- The body lines of all templates stand in the text one after the other. -/
theorem picks_bodyLines {text : List Char} (read : Outline.ofText text = .ok outline) :
    Piece.Picks (outline.sections.flatMap Section.lines) ⟨0, text⟩ := by
  obtain ⟨front, blocks, apart, covers⟩ := covers_ofText read
  have sublist := covers.bodyLines_sublist
  have picks := apart.picks
  exact ⟨fun line member => picks.within line (sublist.subset member),
    picks.ordered.sublist sublist⟩

/-! ### The whole text -/

def Outline.pieces (outline : Outline) : List Piece :=
  outline.strays ++ outline.imports.map Import.line ++
    outline.sections.flatMap fun part => part.header.name :: part.header.parameters ++ part.lines

theorem mem_of_forall₂ {α β : Type} {related : α → β → Prop} {left : List α} {right : List β}
    (all : List.Forall₂ related left right) {item : β} (member : item ∈ right) :
    ∃ other ∈ left, related other item := by
  induction all with
  | nil => cases member
  | cons first _ ih =>
      rcases List.mem_cons.mp member with same | later
      · rw [same]
        exact ⟨_, List.mem_cons_self, first⟩
      · obtain ⟨other, found, held⟩ := ih later
        exact ⟨other, List.mem_cons_of_mem _ found, held⟩

theorem Outline.Covers.strays_eq (covers : outline.Covers front blocks) :
    outline.strays = front.filter fun line => IsBody line ∧ trim line.chars ≠ [] := by
  unfold Outline.strays
  rw [covers.lead, List.filter_filter]
  apply List.filter_congr
  intro line _
  rw [Bool.eq_iff_iff]
  simp only [Bool.and_eq_true, Bool.not_eq_true', decide_eq_true_eq, ne_eq, trim_eq_nil,
    Bool.not_eq_true]
  exact and_comm

/-- All that is recorded stands on one of the lines. -/
theorem Outline.Covers.within_line (covers : outline.Covers front blocks) {piece : Piece}
    (recorded : piece ∈ outline.pieces) :
    ∃ line ∈ front ++ blocks.flatMap Block.lines, piece.Within line := by
  have inBlock {block : Block} (listed : block ∈ blocks) {line : Piece}
      (member : line ∈ block.lines) : line ∈ front ++ blocks.flatMap Block.lines :=
    List.mem_append_right front (List.mem_flatMap.mpr ⟨block, listed, member⟩)
  unfold Outline.pieces at recorded
  rcases List.mem_append.mp recorded with outside | inside
  · rcases List.mem_append.mp outside with stray | imported
    · rw [covers.strays_eq] at stray
      exact ⟨piece, List.mem_append_left _ (List.mem_filter.mp stray).1, piece.within_self⟩
    · obtain ⟨declaration, listed, rfl⟩ := List.mem_map.mp imported
      obtain ⟨line, found, same, _⟩ := mem_of_forall₂ covers.imports listed
      rw [same]
      exact ⟨line, (List.mem_filter.mp found).1, line.within_self⟩
  · obtain ⟨part, listed, member⟩ := List.mem_flatMap.mp inside
    obtain ⟨block, found, records⟩ := mem_of_forall₂ covers.sections listed
    rcases List.mem_append.mp member with heading | body
    · exact ⟨block.heading, inBlock found List.mem_cons_self,
        records.header.picks.within piece heading⟩
    · rw [records.lines] at body
      exact ⟨piece, inBlock found (List.mem_cons_of_mem _ (List.mem_filter.mp body).1),
        piece.within_self⟩

theorem Import.Records.label_within {declaration : Import} (records : declaration.Records line) :
    ∃ start, Piece.Within ⟨start, declaration.label⟩ declaration.line := by
  obtain ⟨rfl, indent, target, tail, _, _, _, _, _, chars⟩ := records
  refine ⟨_, indent ++ ['['], ']' :: '(' :: (target ++ ')' :: tail), ?_, rfl⟩
  rw [chars]
  simp

theorem Import.Records.path_within {declaration : Import} (records : declaration.Records line) :
    ∃ start, Piece.Within ⟨start, declaration.path⟩ declaration.line := by
  obtain ⟨rfl, indent, target, tail, _, _, _, _, path, chars⟩ := records
  obtain ⟨before, after, same⟩ := exists_trim target
  refine ⟨_, indent ++ '[' :: (declaration.label ++ ']' :: '(' :: before),
    after ++ ')' :: tail, ?_, rfl⟩
  rw [chars, path]
  conv =>
    lhs
    rw [same]
  simp

theorem Plain.not_mem {text : List Char} (plain : Plain text) : '\r' ∉ text ∧ '\n' ∉ text :=
  ⟨fun turn => absurd (plain '\r' turn) (by decide),
    fun feed => absurd (plain '\n' feed) (by decide)⟩

theorem plain_of_not_mem {text : List Char} (unturned : '\r' ∉ text) (unfed : '\n' ∉ text) :
    Plain text := by
  intro c member
  have turn : c ≠ '\r' := fun same => unturned (same ▸ member)
  have feed : c ≠ '\n' := fun same => unfed (same ▸ member)
  simp [isLineBreak, turn, feed]

/-- Whether an outline accounts for a text: the lines of the text are those before the first header
and then block after block, and what is recorded stands in the text where it says. -/
structure Outline.Accounts (text : List Char) (front : List Piece) (blocks : List Block)
    (outline : Outline) : Prop extends Outline.Covers front blocks outline where
  apart : Lines 0 text (front ++ blocks.flatMap Block.lines)
  ordered : (front ++ blocks.flatMap Block.lines).Pairwise fun first second =>
    first.stop < second.start
  unbroken : ∀ line ∈ front ++ blocks.flatMap Block.lines, '\r' ∉ line.chars ∧ '\n' ∉ line.chars
  strays : outline.strays = front.filter fun line => IsBody line ∧ trim line.chars ≠ []
  pieces : ∀ piece ∈ outline.pieces, piece.Within ⟨0, text⟩
  labels : ∀ declaration ∈ outline.imports,
    ∃ start, Piece.Within ⟨start, declaration.label⟩ declaration.line
  paths : ∀ declaration ∈ outline.imports,
    ∃ start, Piece.Within ⟨start, declaration.path⟩ declaration.line

/-- No line is lost, told twice or put under the wrong header. -/
theorem Outline.ofText_accounts {text : List Char} {outline : Outline}
    (read : Outline.ofText text = .ok outline) :
    ∃ front blocks, outline.Accounts text front blocks := by
  obtain ⟨front, blocks, apart, covers⟩ := covers_ofText read
  have picks := apart.picks
  refine ⟨front, blocks, covers, apart, picks.ordered, ?_, covers.strays_eq, ?_, ?_, ?_⟩
  · intro line member
    exact (apart.plain line member).not_mem
  · intro piece recorded
    obtain ⟨line, member, within⟩ := covers.within_line recorded
    exact within.trans (picks.within line member)
  · intro declaration listed
    obtain ⟨line, _, records⟩ := mem_of_forall₂ covers.imports listed
    exact records.label_within
  · intro declaration listed
    obtain ⟨line, _, records⟩ := mem_of_forall₂ covers.imports listed
    exact records.path_within

/-- A text with a line before the first header and one there that shows nothing, two templates, body
lines with an import and a comment among them, and each kind of line break. -/
theorem ofText_accounts_for_each_kind :
    ∃ outline,
      Outline.ofText "é\n \t\r# A (p, q)\r\n- x\n[l]( f )\n> c\n- y\n#B".toList = .ok outline ∧
      outline.strays.map Piece.start = [0] ∧
      outline.sections.map (fun part => part.lines.map Piece.start) = [[18, 35], []] ∧
      ∃ front blocks, outline.Accounts
        "é\n \t\r# A (p, q)\r\n- x\n[l]( f )\n> c\n- y\n#B".toList front blocks := by
  have read : Outline.ofText "é\n \t\r# A (p, q)\r\n- x\n[l]( f )\n> c\n- y\n#B".toList =
      .ok ⟨[⟨0, ['é']⟩, ⟨3, [' ', '\t']⟩],
        [⟨⟨⟨8, ['A']⟩, [⟨11, ['p']⟩, ⟨14, ['q']⟩]⟩, [⟨18, ['-', ' ', 'x']⟩, ⟨35, ['-', ' ', 'y']⟩]⟩,
          ⟨⟨⟨40, ['B']⟩, []⟩, []⟩],
        [⟨['l'], ['f'], ⟨22, ['[', 'l', ']', '(', ' ', 'f', ' ', ')']⟩⟩]⟩ := by
    decide +kernel
  exact ⟨_, read, by decide, rfl, Outline.ofText_accounts read⟩

end TemplateServer.Grammar
