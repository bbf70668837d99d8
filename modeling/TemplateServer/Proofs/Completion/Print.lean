import Mathlib.Data.List.DropRight
import TemplateServer.Completion
import TemplateServer.Proofs.Grammar.Join

/-!
The offered templates printed as a template file: a header from what would be inserted, and under it
the body that is shown beside the offer. Main statement: the printed file reads, and its templates
are the offered ones.
-/

namespace TemplateServer

open Text Grammar

/-! ### Printed headers -/

namespace Grammar

variable {name : List Char} {parameters : List (List Char)}

theorem readName?_append {continues : Char → Bool} {rest : List Char}
    (starting : ∀ c, isNameStart c = true → continues c = true)
    (formed : name ∈ Form.one isNameStart * Form.every continues) (stops : Stops continues rest)
    (start : Nat) :
    readName? continues ⟨start, name ++ rest⟩ =
      some (⟨start, name⟩, ⟨start + bytes name, rest⟩) := by
  obtain ⟨c, starts, tail, continued, rfl⟩ := Form.mem_one_mul.mp formed
  have all : ∀ d ∈ c :: tail, continues d = true :=
    List.forall_mem_cons.mpr ⟨starting c starts, continued⟩
  unfold readName? Piece.takeWhile Piece.dropWhile
  simp only [takeWhile_append_of_all all stops, dropWhile_append_of_all all stops]
  exact if_pos starts

/-- A mark is passed over with the blanks after it. -/
theorem exists_afterMark {mark : Char} {blanks rest : List Char} (unblank : isBlank mark = false)
    (blank : ∀ c ∈ blanks, isBlank c = true) (stops : Stops isBlank rest) (start : Nat) :
    ∃ place, ((Piece.dropWhile ⟨start, mark :: (blanks ++ rest)⟩ isBlank).drop 1).dropWhile
      isBlank = ⟨place, rest⟩ := by
  have kept : Piece.dropWhile ⟨start, mark :: (blanks ++ rest)⟩ isBlank =
      ⟨start, mark :: (blanks ++ rest)⟩ :=
    Piece.dropWhile_of_stops (stops_cons unblank (blanks ++ rest))
  rw [kept]
  exact ⟨_, congrArg (Piece.mk _) (dropWhile_append_of_all blank stops)⟩

/-- A list of parameters as it is printed, from the first parameter to the closing bracket. -/
def printedParameters (parameters : List (List Char)) : List Char :=
  [',', ' '].intercalate parameters ++ [')']

theorem printedParameters_singleton (parameter : List Char) :
    printedParameters [parameter] = parameter ++ [')'] := by
  unfold printedParameters
  rw [List.intercalate_singleton]

theorem printedParameters_cons_cons (first second : List Char) (later : List (List Char)) :
    printedParameters (first :: second :: later) =
      first ++ ',' :: ([' '] ++ printedParameters (second :: later)) := by
  unfold printedParameters
  rw [List.intercalate_cons_cons, List.append_assoc, List.append_assoc]
  rfl

theorem exists_head_printedParameters (filled : parameters ≠ [])
    (formed : ∀ parameter ∈ parameters, parameter ∈ Form.parameter) :
    ∃ c rest, isNameStart c = true ∧ printedParameters parameters = c :: rest := by
  cases parameters with
  | nil => exact absurd rfl filled
  | cons parameter parameters =>
      have first := formed parameter List.mem_cons_self
      rw [Form.parameter_eq] at first
      obtain ⟨c, starts, tail, _, rfl⟩ := Form.mem_one_mul.mp first
      cases parameters with
      | nil => exact ⟨c, _, starts, printedParameters_singleton (c :: tail)⟩
      | cons second later =>
          exact ⟨c, _, starts, printedParameters_cons_cons (c :: tail) second later⟩

theorem stops_printedParameters (filled : parameters ≠ [])
    (formed : ∀ parameter ∈ parameters, parameter ∈ Form.parameter) :
    Stops isBlank (printedParameters parameters) := by
  obtain ⟨c, rest, starts, same⟩ := exists_head_printedParameters filled formed
  rw [same]
  exact stops_cons (Form.isBlank_of_isNameStart c starts) rest

theorem readParameters_printed (filled : parameters ≠ [])
    (formed : ∀ parameter ∈ parameters, parameter ∈ Form.parameter) (opening start : Nat) :
    ∃ pieces following,
      readParameters opening ⟨start, printedParameters parameters⟩ = .ok (pieces, following) ∧
      pieces.map Piece.chars = parameters ∧ following.chars = [] := by
  induction parameters generalizing start with
  | nil => exact absurd rfl filled
  | cons parameter parameters ih =>
      have first := formed parameter List.mem_cons_self
      rw [Form.parameter_eq] at first
      have named {rest : List Char} (stops : Stops isParameterChar rest) :=
        readName?_append (fun _ => isParameterChar_of_isNameStart) first stops start
      cases parameters with
      | nil =>
          rw [printedParameters_singleton]
          exact ⟨_, _, readParameters_of_closing (named (stops_cons rfl [])) rfl, rfl, rfl⟩
      | cons second later =>
          have others : ∀ other ∈ second :: later, other ∈ Form.parameter :=
            fun other member => formed other (List.mem_cons_of_mem parameter member)
          -- the blank after the comma is all that is passed over, as no name starts with one
          obtain ⟨place, resumed⟩ := @exists_afterMark ',' [' '] _ rfl
            (List.forall_mem_singleton.mpr rfl)
            (stops_printedParameters (List.cons_ne_nil second later) others)
            (start + bytes parameter)
          obtain ⟨pieces, following, read, same, done⟩ :=
            ih (List.cons_ne_nil second later) others place
          refine ⟨⟨start, parameter⟩ :: pieces, following, ?_, ?_, done⟩
          · rw [printedParameters_cons_cons,
              readParameters_of_comma (named (stops_cons rfl _)) rfl, resumed, read]
            rfl
          · rw [List.map_cons, same]

theorem readParameterList_printed (filled : parameters ≠ [])
    (formed : ∀ parameter ∈ parameters, parameter ∈ Form.parameter) (opening start : Nat) :
    readParameterList opening ⟨start, printedParameters parameters⟩ =
      readParameters opening ⟨start, printedParameters parameters⟩ := by
  obtain ⟨c, rest, starts, same⟩ := exists_head_printedParameters filled formed
  apply readParameterList_of_other
  rw [same]
  intro closed
  rw [Option.some.inj closed] at starts
  cases starts

def printedList : List (List Char) → List Char
  | [] => []
  | parameter :: parameters => '(' :: printedParameters (parameter :: parameters)

def printedHeader (name : List Char) (parameters : List (List Char)) : List Char :=
  '#' :: ([' '] ++ (name ++ printedList parameters))

theorem stops_printedList (parameters : List (List Char)) :
    Stops isNameChar (printedList parameters) := by
  cases parameters with
  | nil => exact stops_nil isNameChar
  | cons parameter parameters => exact stops_cons rfl _

theorem Header.exists_ofLine_printed (formed : name ∈ Form.name)
    (each : ∀ parameter ∈ parameters, parameter ∈ Form.parameter) (start : Nat) :
    ∃ header, (Header.ofLine ⟨start, printedHeader name parameters⟩).toOption = some header ∧
      header.name.chars = name ∧ header.parameters.map Piece.chars = parameters := by
  unfold printedHeader
  rw [Form.name_eq] at formed
  have stops : Stops isBlank (name ++ printedList parameters) := by
    obtain ⟨c, starts, tail, _, rfl⟩ := Form.mem_one_mul.mp formed
    exact stops_cons (Form.isBlank_of_isNameStart c starts) (tail ++ printedList parameters)
  obtain ⟨place, input⟩ := @exists_afterMark '#' [' '] _ rfl (List.forall_mem_singleton.mpr rfl)
    stops start
  have named := readName?_append Pattern.isNameChar_of_isNameStart formed
    (stops_printedList parameters) place
  rw [← input] at named
  cases parameters with
  | nil => exact ⟨_, Header.ofLine_of_named named, rfl, rfl⟩
  | cons parameter parameters =>
      have filled := List.cons_ne_nil parameter parameters
      obtain ⟨inside, opened⟩ := @exists_afterMark '(' [] _ rfl (fun _ => nofun)
        (stops_printedParameters filled each) (place + bytes name)
      obtain ⟨pieces, following, listed, same, done⟩ :=
        readParameters_printed filled each (place + bytes name) inside
      refine ⟨⟨⟨place, name⟩, pieces⟩, ?_, rfl, same⟩
      rw [Header.ofLine_of_named named]
      have mark : Piece.dropWhile ⟨place + bytes name, printedList (parameter :: parameters)⟩
          isBlank = ⟨place + bytes name, '(' :: printedParameters (parameter :: parameters)⟩ := rfl
      have opened : (Piece.drop ⟨place + bytes name,
          '(' :: printedParameters (parameter :: parameters)⟩ 1).dropWhile isBlank =
          ⟨inside, printedParameters (parameter :: parameters)⟩ := opened
      simp only [mark, opened, readParameterList_printed filled each, listed, Piece.chars_dropWhile,
        done]
      rfl

theorem ofLine_of_header {line : Piece} {header : Header}
    (marked : (line.chars.dropWhile isBlank).head? = some '#')
    (read : (Header.ofLine line).toOption = some header) :
    Entry.ofLine line = .ok (.header header) := by
  unfold Entry.ofLine
  rw [marked]
  cases found : Header.ofLine line with
  | error malformed =>
      rw [found] at read
      cases read
  | ok other =>
      rw [found] at read
      cases read
      rfl

/-! ### Printed headers take one line -/

theorem isLineBreak_of_isNameChar (c : Char) (inside : isNameChar c = true) :
    isLineBreak c = false := by
  cases broken : isLineBreak c with
  | false => rfl
  | true =>
      rcases Bool.or_eq_true_iff.mp broken with feed | turn
      · rw [eq_of_beq feed] at inside
        cases inside
      · rw [eq_of_beq turn] at inside
        cases inside

theorem plain_append {first second : List Char} (left : Plain first) (right : Plain second) :
    Plain (first ++ second) := by
  intro c member
  rcases List.mem_append.mp member with early | late
  · exact left c early
  · exact right c late

theorem isNameChar_of_formed {continues : Char → Bool}
    (inside : ∀ c, continues c = true → isNameChar c = true)
    (formed : name ∈ Form.one isNameStart * Form.every continues) :
    ∀ c ∈ name, isNameChar c = true := by
  obtain ⟨c, starts, tail, continued, rfl⟩ := Form.mem_one_mul.mp formed
  exact List.forall_mem_cons.mpr ⟨Pattern.isNameChar_of_isNameStart c starts,
    fun d member => inside d (continued d member)⟩

theorem isNameChar_of_name (formed : name ∈ Form.name) : ∀ c ∈ name, isNameChar c = true := by
  rw [Form.name_eq] at formed
  exact isNameChar_of_formed (fun _ inside => inside) formed

theorem isNameChar_of_parameter (formed : name ∈ Form.parameter) :
    ∀ c ∈ name, isNameChar c = true := by
  rw [Form.parameter_eq] at formed
  exact isNameChar_of_formed (fun _ inside => Bool.or_eq_true_iff.mpr (Or.inl inside)) formed

theorem plain_of_isNameChar (inside : ∀ c ∈ name, isNameChar c = true) : Plain name :=
  fun c member => isLineBreak_of_isNameChar c (inside c member)

theorem plain_printedParameters (formed : ∀ parameter ∈ parameters, parameter ∈ Form.parameter) :
    Plain (printedParameters parameters) := by
  have closed : Plain [')'] := plain_cons rfl fun _ => nofun
  have comma : Plain [',', ' '] := plain_cons rfl (plain_cons rfl fun _ => nofun)
  have each : ∀ parameter ∈ parameters, Plain parameter := by
    intro parameter listed
    exact plain_of_isNameChar (isNameChar_of_parameter (formed parameter listed))
  exact plain_append (forall_mem_intercalate comma each) closed

theorem plain_printedHeader (formed : name ∈ Form.name)
    (each : ∀ parameter ∈ parameters, parameter ∈ Form.parameter) :
    Plain (printedHeader name parameters) := by
  have listed : Plain (printedList parameters) := by
    cases parameters with
    | nil => exact fun _ => nofun
    | cons parameter parameters => exact plain_cons rfl (plain_printedParameters each)
  have named : Plain name := plain_of_isNameChar (isNameChar_of_name formed)
  have mark : Plain ['#', ' '] := plain_cons rfl (plain_cons rfl fun _ => nofun)
  exact plain_append mark (plain_append named listed)

/-! ### Printed templates -/

theorem toList_call (name : String) (arguments : List String) :
    (Completion.call name arguments).toList =
      name.toList ++ '(' :: printedParameters (arguments.map String.toList) := by
  unfold Completion.call
  rw [String.toList_append, String.toList_append, String.toList_append, String.toList_intercalate,
    List.append_assoc, List.append_assoc]
  rfl

namespace Section

variable {part : Section}

/-- Whether a template can be printed so that it reads again. -/
structure Legible (part : Section) : Prop where
  name : part.header.name.chars ∈ Form.name
  parameters : ∀ parameter ∈ part.header.parameters, parameter.chars ∈ Form.parameter
  lines : ∀ line ∈ part.lines, line.chars ∈ Form.body ∧ Plain line.chars

theorem legible_of_ofText {text : List Char} {outline : Outline}
    (read : Outline.ofText text = .ok outline) (listed : part ∈ outline.sections) :
    part.Legible := by
  obtain ⟨front, blocks, _, covers⟩ := covers_ofText read
  obtain ⟨block, _, records⟩ := mem_of_forall₂ covers.sections listed
  exact ⟨records.header.name, records.header.parameters,
    fun _ member => mem_body_of_ofText read listed member⟩

/-- The rows of a body up to the last one that shows something. -/
def rows (part : Section) : List (List Char) :=
  (part.lines.map Piece.chars).rdropWhile isEmptyToEye

theorem toList_body (part : Section) : part.body.toList = ['\n'].intercalate part.rows := by
  have same : part.rows = part.bodyLines.map Piece.chars := by
    unfold rows bodyLines List.rdropWhile
    rw [← List.map_reverse, List.dropWhile_map, ← List.map_reverse]
    rfl
  unfold body
  rw [String.toList_intercalate, Piece.toList_text, same]
  rfl

/-- The rows of a body as it is printed. An empty body still takes one row. -/
def printedRows (part : Section) : List (List Char) :=
  if part.rows = [] then [[]] else part.rows

theorem Legible.printedRows (legible : part.Legible) :
    ∀ row ∈ part.printedRows, row ∈ Form.body ∧ Plain row := by
  intro row member
  unfold Section.printedRows at member
  split at member
  · rw [List.mem_singleton.mp member]
    exact ⟨nil_mem_body, fun _ => nofun⟩
  · have kept := (List.rdropWhile_prefix isEmptyToEye _).subset member
    obtain ⟨line, listed, same⟩ := List.mem_map.mp kept
    rw [← same]
    exact legible.lines line listed

theorem rdropWhile_printedRows (part : Section) :
    part.printedRows.rdropWhile isEmptyToEye = part.rows := by
  unfold printedRows
  split
  · rename_i empty
    rw [empty]
    rfl
  · exact List.rdropWhile_idempotent isEmptyToEye _

theorem intercalate_printedRows (part : Section) :
    ['\n'].intercalate part.printedRows = part.body.toList := by
  rw [toList_body]
  unfold printedRows
  split
  · rename_i empty
    rw [empty]
    rfl
  · rfl

def printed (part : Section) : List (List Char) :=
  printedHeader part.header.name.chars (part.header.parameters.map Piece.chars) :: part.printedRows

theorem Legible.plain_printed (legible : part.Legible) : ∀ row ∈ part.printed, Plain row := by
  intro row member
  rcases List.mem_cons.mp member with heading | body
  · rw [heading]
    exact plain_printedHeader legible.name (List.forall_mem_map.mpr legible.parameters)
  · exact (legible.printedRows row body).2

theorem toList_insertion (source : String) (part : Section) :
    (Completion.ofTemplate (Template.ofSection source part)).insertion.toList =
      part.header.name.chars ++ printedList (part.header.parameters.map Piece.chars) := by
  have name : part.name.toList = part.header.name.chars := String.toList_ofList
  unfold Completion.ofTemplate Template.ofSection
  cases listed : part.header.parameters with
  | nil =>
      change part.name.toList = _
      rw [name]
      exact (List.append_nil _).symm
  | cons parameter parameters =>
      change (Completion.call part.name ((parameter :: parameters).map Piece.text)).toList = _
      rw [toList_call, Piece.toList_text, name]
      rfl

theorem toList_printed (source : String) (part : Section) :
    ("# " ++ (Completion.ofTemplate (Template.ofSection source part)).insertion ++ "\n" ++
      (Completion.ofTemplate (Template.ofSection source part)).documentation).toList =
      ['\n'].intercalate part.printed := by
  have rows : part.printedRows ≠ [] := by
    unfold printedRows
    split
    · exact List.cons_ne_nil _ _
    · assumption
  unfold printed
  rw [List.intercalate_cons_of_ne_nil rows, intercalate_printedRows, String.toList_append,
    String.toList_append, String.toList_append, toList_insertion]
  rfl

theorem intercalate_printed (parts : List Section) :
    ['\n'].intercalate (parts.map fun part => ['\n'].intercalate part.printed) =
      ['\n'].intercalate (parts.flatMap printed) := by
  induction parts with
  | nil => rfl
  | cons part parts ih =>
      cases parts with
      | nil =>
          rw [List.map_singleton, List.intercalate_singleton, List.flatMap_singleton]
      | cons second later =>
          have mine : part.printed ≠ [] := List.cons_ne_nil _ _
          have others : (second :: later).flatMap printed ≠ [] := List.cons_ne_nil _ _
          rw [List.flatMap_cons, intercalate_append mine others, ← ih]
          exact List.intercalate_cons_of_ne_nil (List.cons_ne_nil _ _)

theorem ofSection_congr (source : String) {other : Section}
    (name : other.header.name.chars = part.header.name.chars)
    (parameters : other.header.parameters.map Piece.chars = part.header.parameters.map Piece.chars)
    (rows : other.rows = part.rows) :
    Template.ofSection source other = Template.ofSection source part := by
  have body : other.body = part.body := by
    rw [← String.toList_inj, toList_body, toList_body, rows]
  have texts : other.header.parameters.map Piece.text = part.header.parameters.map Piece.text := by
    rw [← Piece.toList_text, ← Piece.toList_text] at parameters
    exact List.map_injective_iff.mpr (fun _ _ => String.toList_injective) parameters
  unfold Template.ofSection Section.name Piece.text
  rw [name, body]
  exact congrArg (Template.mk _ · _ _) texts

end Section

/-- Lines that are those of the printed templates, wherever they stand. -/
theorem exists_entries_of_printed (source : String) {parts : List Section}
    (legible : ∀ part ∈ parts, part.Legible) {lines : List Piece}
    (same : lines.map Piece.chars = parts.flatMap Section.printed) :
    ∃ entries, lines.mapM Entry.ofLine = .ok entries ∧ (Outline.ofEntries entries).lead = [] ∧
      (Outline.ofEntries entries).sections.map (Template.ofSection source) =
        parts.map (Template.ofSection source) := by
  induction parts generalizing lines with
  | nil =>
      obtain rfl := List.map_eq_nil_iff.mp same
      exact ⟨[], rfl, rfl, rfl⟩
  | cons part parts ih =>
      rw [List.flatMap_cons] at same
      obtain ⟨first, later, rfl, mine, others⟩ := List.map_eq_append_iff.mp same
      obtain ⟨heading, rows, rfl, head, body⟩ := List.map_eq_cons_iff.mp mine
      have readable := legible part List.mem_cons_self
      obtain ⟨entries, following, leadless, templates⟩ :=
        ih (fun other member => legible other (List.mem_cons_of_mem part member)) others
      obtain ⟨header, read, name, parameters⟩ := Header.exists_ofLine_printed
        readable.name (List.forall_mem_map.mpr readable.parameters) heading.start
      have first : Entry.ofLine heading = .ok (.header header) := by
        rw [← head] at read
        apply ofLine_of_header _ read
        rw [head]
        rfl
      have bodies : rows.mapM Entry.ofLine = .ok (rows.map Entry.body) := by
        apply mapM_ofLine_body
        intro line member
        have row : line.chars ∈ part.printedRows := by
          rw [← body]
          exact List.mem_map_of_mem member
        exact (readable.printedRows line.chars row).1
      -- the later templates leave no line in front of their first header, so that the body under
      -- this one is made of its own rows
      refine ⟨.header header :: (rows.map Entry.body ++ entries), ?_, rfl, ?_⟩
      · rw [List.mapM_append, List.mapM_cons, first, bodies, following]
        rfl
      · have shown : Section.rows ⟨header, rows⟩ = part.rows := by
          unfold Section.rows
          rw [body]
          exact part.rdropWhile_printedRows
        change ((Outline.ofEntries (rows.map Entry.body ++ entries)).sections.map
          (Template.ofSection source)).cons (Template.ofSection source
            ⟨header, (Outline.ofEntries (rows.map Entry.body ++ entries)).lead⟩) = _
        rw [ofEntries_body, leadless, List.append_nil, templates, List.map_cons,
          Section.ofSection_congr source name parameters shown]

theorem exists_ofText_printed (source : String) {parts : List Section}
    (legible : ∀ part ∈ parts, part.Legible) :
    ∃ outline, Outline.ofText (['\n'].intercalate (parts.flatMap Section.printed)) = .ok outline ∧
      outline.sections.map (Template.ofSection source) = parts.map (Template.ofSection source) := by
  cases parts with
  | nil => exact ⟨_, rfl, rfl⟩
  | cons part parts =>
      have filled : (part :: parts).flatMap Section.printed ≠ [] := List.cons_ne_nil _ _
      have plain : ∀ row ∈ (part :: parts).flatMap Section.printed, Plain row := by
        intro row member
        obtain ⟨other, listed, among⟩ := List.mem_flatMap.mp member
        exact (legible other listed).plain_printed row among
      obtain ⟨entries, read, _, templates⟩ := exists_entries_of_printed source legible
        (chars_linesFrom_intercalate filled plain 0)
      refine ⟨Outline.ofEntries entries, ?_, templates⟩
      change ((linesFrom 0 _).mapM Entry.ofLine).map Outline.ofEntries = _
      rw [read]
      rfl

end Grammar

/-- The templates among the offered items, printed one after the other. -/
def Completion.listing (items : List Completion) : String :=
  "\n".intercalate ((items.filter fun item => item.kind = .template).map fun item =>
    "# " ++ item.insertion ++ "\n" ++ item.documentation)

theorem Completion.toList_listing (source : String) (parts : List Section) :
    (Completion.listing (Completion.all (parts.map (Template.ofSection source)))).toList =
      ['\n'].intercalate (parts.flatMap Section.printed) := by
  have templates : (Completion.all (parts.map (Template.ofSection source))).filter
      (fun item => item.kind = .template) =
      (parts.map (Template.ofSection source)).map Completion.ofTemplate := by
    unfold Completion.all
    rw [List.filter_append, List.filter_eq_self.mpr, List.filter_eq_nil_iff.mpr, List.append_nil]
    · intro item member
      obtain ⟨builtin, _, rfl⟩ := List.mem_map.mp member
      exact Bool.false_ne_true
    · intro item member
      obtain ⟨template, _, rfl⟩ := List.mem_map.mp member
      rfl
  unfold Completion.listing
  rw [templates, String.toList_intercalate, ← Section.intercalate_printed, List.map_map,
    List.map_map, List.map_map]
  congr 1
  apply List.map_congr_left
  intro part _
  exact part.toList_printed source

theorem Reading.exists_legible (source text : String) :
    ∃ parts : List Section, (∀ part ∈ parts, part.Legible) ∧
      (Reading.ofText source text).templates = parts.map (Template.ofSection source) := by
  unfold Reading.ofText
  cases read : Outline.ofText text.toList with
  | error fault => exact ⟨[], fun _ => nofun, rfl⟩
  | ok outline =>
      exact ⟨outline.sections, fun _ listed => Section.legible_of_ofText read listed, rfl⟩

/-- Templates survive being printed and read again. -/
theorem Reading.ofText_listing (source text : String) :
    (∃ outline, Outline.ofText
      (Completion.listing (Completion.all (Reading.ofText source text).templates)).toList =
        .ok outline) ∧
    (Reading.ofText source
      (Completion.listing (Completion.all (Reading.ofText source text).templates))).templates =
        (Reading.ofText source text).templates := by
  obtain ⟨parts, legible, templates⟩ := Reading.exists_legible source text
  obtain ⟨outline, read, again⟩ := exists_ofText_printed source legible
  rw [templates]
  rw [← Completion.toList_listing source] at read
  refine ⟨⟨outline, read⟩, ?_⟩
  unfold Reading.ofText
  rw [read]
  exact again

end TemplateServer
