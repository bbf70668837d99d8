import TemplateServer.Proofs.Grammar.Account

/-!
Texts that are put together from lines. What a line is depends on its characters alone, so a line of
a body remains one wherever it is put. Main statements: lines joined by line feeds are the lines of
the text they give, and a line added to a text leaves the lines above it as they are.
-/

namespace TemplateServer.Grammar

open Text

/-! ### Lines of a body -/

def Form.body : Language Char :=
  {word | word ∉ marked '#' ∧ word ∉ imported ∧ word ∉ marked '>'}

variable {line : Piece} {lines : List Piece} {text row : List Char} {rows : List (List Char)}
  {start : Nat}

theorem ofLine_eq_body_iff : Entry.ofLine line = .ok (.body line) ↔ line.chars ∈ Form.body := by
  constructor
  · intro read
    obtain ⟨_, _, unimported, unmarked⟩ := classified_of_ofLine read
    refine ⟨?_, unimported, unmarked⟩
    intro marked
    have head := (Form.mem_marked line.chars rfl).mp marked
    unfold Entry.ofLine at read
    rw [head] at read
    cases found : Header.ofLine line with
    | error malformed =>
        simp only [found] at read
        cases read
    | ok header =>
        simp only [found] at read
        cases read
  · intro body
    obtain ⟨unheaded, unimported, unmarked⟩ := body
    rw [Form.mem_marked line.chars rfl] at unheaded unmarked
    have absent : Import.ofLine? line = none := by
      rw [Form.mem_imported] at unimported
      exact Option.not_isSome_iff_eq_none.mp unimported
    unfold Entry.ofLine
    split
    · rename_i head
      exact absurd head unheaded
    · rename_i head
      exact absurd head unmarked
    · rw [absent]

theorem nil_mem_body : [] ∈ Form.body :=
  (@ofLine_eq_body_iff ⟨0, []⟩).mp rfl

theorem mem_body_of_head {c : Char} (head : (row.dropWhile isBlank).head? = some c)
    (header : c ≠ '#') (imported : c ≠ '[') (comment : c ≠ '>') : row ∈ Form.body := by
  refine ⟨?_, ?_, ?_⟩
  · intro marked
    rw [Form.mem_marked row rfl, head] at marked
    exact header (Option.some.inj marked)
  · apply @not_mem_imported ⟨0, row⟩
    apply Import.ofLine?_of_ne
    rw [head]
    exact fun same => imported (Option.some.inj same)
  · intro marked
    rw [Form.mem_marked row rfl, head] at marked
    exact comment (Option.some.inj marked)

theorem mapM_ofLine_body (bodies : ∀ line ∈ lines, line.chars ∈ Form.body) :
    lines.mapM Entry.ofLine = .ok (lines.map Entry.body) := by
  induction lines with
  | nil => rfl
  | cons line lines ih =>
      rw [List.mapM_cons, ofLine_eq_body_iff.mpr (bodies line List.mem_cons_self),
        ih fun other member => bodies other (List.mem_cons_of_mem line member)]
      rfl

theorem ofEntries_body (lines : List Piece) (entries : List Entry) :
    Outline.ofEntries (lines.map Entry.body ++ entries) =
      { Outline.ofEntries entries with lead := lines ++ (Outline.ofEntries entries).lead } := by
  induction lines with
  | nil => rfl
  | cons line lines ih =>
      change Outline.cons (.body line) (Outline.ofEntries (lines.map Entry.body ++ entries)) = _
      rw [ih]
      rfl

theorem exists_entries_of_ofText {outline : Outline} (read : Outline.ofText text = .ok outline) :
    ∃ entries, (linesFrom 0 text).mapM Entry.ofLine = .ok entries ∧
      Outline.ofEntries entries = outline := by
  change ((linesFrom 0 text).mapM Entry.ofLine).map Outline.ofEntries = .ok outline at read
  cases found : (linesFrom 0 text).mapM Entry.ofLine with
  | error malformed =>
      rw [found] at read
      cases read
  | ok entries =>
      rw [found] at read
      cases read
      exact ⟨entries, rfl, rfl⟩

theorem Outline.Covers.mem_lines {outline : Outline} {front : List Piece} {blocks : List Block}
    (covers : outline.Covers front blocks) {part : Section} (listed : part ∈ outline.sections)
    (member : line ∈ part.lines) :
    line ∈ front ++ blocks.flatMap Block.lines ∧ IsBody line := by
  obtain ⟨block, found, records⟩ := mem_of_forall₂ covers.sections listed
  rw [records.lines] at member
  obtain ⟨inside, body⟩ := List.mem_filter.mp member
  have among : line ∈ block.lines := List.mem_cons_of_mem block.heading inside
  exact ⟨List.mem_append_right front (List.mem_flatMap.mpr ⟨block, found, among⟩),
    of_decide_eq_true body⟩

/-- The body lines of a template are lines of a body wherever they are put. -/
theorem mem_body_of_ofText {outline : Outline} (read : Outline.ofText text = .ok outline)
    {part : Section} (listed : part ∈ outline.sections) (member : line ∈ part.lines) :
    line.chars ∈ Form.body ∧ Plain line.chars := by
  obtain ⟨front, blocks, apart, covers⟩ := covers_ofText read
  obtain ⟨among, unheaded, unimported, unmarked⟩ := covers.mem_lines listed member
  refine ⟨⟨?_, unimported, unmarked⟩, apart.plain line among⟩
  -- a line that starts with `#` and is no header would have failed the text
  intro marked
  obtain ⟨entries, found, _⟩ := exists_entries_of_ofText read
  rw [lines_iff.mp apart] at among
  have readable := mapM_ofLine_iff.mp ⟨entries, found⟩ line among
  exact unheaded (ofLine_iff.mp readable marked)

/-! ### Lines joined by line feeds -/

theorem forall_mem_intercalate {holds : Char → Prop} {separator : List Char}
    (between : ∀ c ∈ separator, holds c) (inside : ∀ row ∈ rows, ∀ c ∈ row, holds c) :
    ∀ c ∈ separator.intercalate rows, holds c := by
  induction rows with
  | nil => exact fun _ => nofun
  | cons row rows ih =>
      have first := inside row List.mem_cons_self
      cases rows with
      | nil =>
          rw [List.intercalate_singleton]
          exact first
      | cons second later =>
          have others := ih fun other listed => inside other (List.mem_cons_of_mem row listed)
          intro c member
          rw [List.intercalate_cons_cons, List.append_assoc] at member
          rcases List.mem_append.mp member with mine | member
          · exact first c mine
          · rcases List.mem_append.mp member with mark | member
            · exact between c mark
            · exact others c member

theorem intercalate_append {separator : List Char} {first second : List (List Char)}
    (filled : first ≠ []) (more : second ≠ []) :
    separator.intercalate (first ++ second) =
      separator.intercalate first ++ separator ++ separator.intercalate second := by
  induction first with
  | nil => exact absurd rfl filled
  | cons row rows ih =>
      cases rows with
      | nil =>
          rw [List.singleton_append, List.intercalate_cons_of_ne_nil more,
            List.intercalate_singleton]
      | cons other rows =>
          have later := ih (List.cons_ne_nil other rows)
          rw [List.cons_append] at later ⊢
          rw [List.cons_append, List.intercalate_cons_cons, later, List.intercalate_cons_cons]
          simp only [List.append_assoc]

theorem chars_linesFrom_intercalate (filled : rows ≠ []) (plain : ∀ row ∈ rows, Plain row)
    (start : Nat) : (linesFrom start (['\n'].intercalate rows)).map Piece.chars = rows := by
  induction rows generalizing start with
  | nil => exact absurd rfl filled
  | cons row rows ih =>
      have first := plain row List.mem_cons_self
      cases rows with
      | nil =>
          rw [List.intercalate_singleton]
          unfold linesFrom
          rw [splitLines_plain first]
          rfl
      | cons second rows =>
          have later := ih (List.cons_ne_nil second rows) fun other member =>
            plain other (List.mem_cons_of_mem row member)
          rw [List.intercalate_cons_cons, List.append_assoc]
          unfold linesFrom
          rw [splitLines_append first (.feed _), List.map_cons, later]

/-! ### A line added to a text -/

/-- A text that ends in a carriage return has an empty line after it, which goes when the line feed
in front of the added line joins the carriage return. -/
theorem Lines.add (apart : Lines start text lines) (plain : Plain row) :
    ∃ earlier, (lines = earlier ∨ ∃ place, lines = earlier ++ [⟨place, []⟩]) ∧
      Lines start (text ++ '\n' :: row) (earlier ++ [⟨start + bytes text + 1, row⟩]) := by
  induction apart with
  | @last start line first =>
      refine ⟨[⟨start, line⟩], Or.inl rfl, ?_⟩
      exact .more first (.feed row) (.last _ plain)
  | @more start line mark rest lines first breaks following ih =>
      obtain ⟨earlier, kept, added⟩ := ih
      have place : start + bytes line + bytes mark + bytes rest + 1 =
          start + bytes (line ++ (mark ++ rest)) + 1 := by
        rw [bytes_append, bytes_append]
        omega
      rw [place] at added
      have whole : line ++ (mark ++ rest) ++ '\n' :: row =
          line ++ (mark ++ (rest ++ '\n' :: row)) := by
        simp only [List.append_assoc]
      -- the break stays what it is unless it is a carriage return at the very end
      have unjoined (still : Breaks mark (rest ++ '\n' :: row)) :
          ∃ earlier, (⟨start, line⟩ :: lines = earlier ∨
              ∃ place, ⟨start, line⟩ :: lines = earlier ++ [⟨place, []⟩]) ∧
            Lines start (line ++ (mark ++ rest) ++ '\n' :: row)
              (earlier ++ [⟨start + bytes (line ++ (mark ++ rest)) + 1, row⟩]) := by
        refine ⟨⟨start, line⟩ :: earlier, ?_, ?_⟩
        · rcases kept with same | ⟨place, same⟩
          · exact Or.inl (by rw [same])
          · exact Or.inr ⟨place, by rw [same, List.cons_append]⟩
        · rw [whole]
          exact .more first still added
      cases breaks with
      | feed => exact unjoined (.feed _)
      | turnFeed => exact unjoined (.turnFeed _)
      | turn alone =>
          cases rest with
          | cons c rest => exact unjoined (.turn alone)
          | nil =>
              refine ⟨[⟨start, line⟩], Or.inr ?_, ?_⟩
              · have single := lines_iff.mp following
                exact ⟨_, by rw [single]; rfl⟩
              · have joined := @Lines.more start line ['\r', '\n'] row _ first (.turnFeed row)
                  (.last _ plain)
                simp only [List.append_nil, List.append_assoc]
                have size : start + bytes (line ++ ['\r']) + 1 =
                    start + bytes line + bytes ['\r', '\n'] := by
                  rw [bytes_append, ← Nat.add_assoc]
                  rfl
                rw [size]
                exact joined

/-! ### Templates of a text with a line added -/

def headerOf? (line : Piece) : Option Header :=
  match Entry.ofLine line with
  | .ok (.header header) => some header
  | _ => none

theorem headerOf?_of_body (body : line.chars ∈ Form.body) : headerOf? line = none := by
  unfold headerOf?
  rw [ofLine_eq_body_iff.mpr body]

theorem headers_ofEntries {entries : List Entry} (read : lines.mapM Entry.ofLine = .ok entries) :
    (Outline.ofEntries entries).sections.map Section.header = lines.filterMap headerOf? := by
  induction lines generalizing entries with
  | nil =>
      cases read
      rfl
  | cons line lines ih =>
      rw [List.mapM_cons] at read
      cases one : Entry.ofLine line with
      | error malformed =>
          rw [one] at read
          cases read
      | ok entry =>
          cases more : lines.mapM Entry.ofLine with
          | error malformed =>
              rw [one, more] at read
              cases read
          | ok entries =>
              rw [one, more] at read
              cases read
              have later := ih more
              change (Outline.cons entry (Outline.ofEntries entries)).sections.map _ = _
              rw [List.filterMap_cons]
              unfold headerOf? at later ⊢
              rw [one, ← later]
              cases entry with
              | header header => rfl
              | imported declaration => rfl
              | comment line => rfl
              | body line => rfl

/-- A line of a body that is added to a text leaves the templates of the text as they are. -/
theorem headers_add {outline longer : Outline} (plain : Plain row) (body : row ∈ Form.body)
    (read : Outline.ofText text = .ok outline)
    (again : Outline.ofText (text ++ '\n' :: row) = .ok longer) :
    longer.sections.map Section.header = outline.sections.map Section.header := by
  obtain ⟨entries, found, rfl⟩ := exists_entries_of_ofText read
  obtain ⟨more, foundMore, rfl⟩ := exists_entries_of_ofText again
  obtain ⟨earlier, kept, added⟩ := (lines_linesFrom 0 text).add plain
  have none (place : Nat) {chars : List Char} (body : chars ∈ Form.body) :
      [(⟨place, chars⟩ : Piece)].filterMap headerOf? = [] := by
    rw [List.filterMap_cons, headerOf?_of_body body]
    rfl
  rw [headers_ofEntries found, headers_ofEntries foundMore, ← lines_iff.mp added,
    List.filterMap_append, none _ body, List.append_nil]
  rcases kept with same | ⟨place, same⟩
  · rw [same]
  · rw [same, List.filterMap_append, none place nil_mem_body, List.append_nil]

end TemplateServer.Grammar
