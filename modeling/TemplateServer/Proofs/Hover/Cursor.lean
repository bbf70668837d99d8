import TemplateServer.Proofs.Completion.Call
import TemplateServer.Proofs.Hover
import TemplateServer.Proofs.Text.Line

/-!
Hovering where the cursor is. Main statements: what is shown is shown for a range on the line of the
cursor, which has the cursor in it up to the dots that touch the range; and with the cursor at the
name of a definition, the first template of that name is shown for the range of the name, unless the
name ends in a dot.
-/

namespace TemplateServer

open Text Grammar

/-! ### Ranges around the cursor -/

namespace Text

/-- Whether a position is the column past the line feed of its line. The place there is the start of
the next line. -/
def PastFeed (text : List Char) (position : Position) : Prop :=
  ∃ above front below, LineAt text position.line above (front ++ ['\n']) below ∧ '\n' ∉ front ∧
    position.character = units front + 1

variable {text before after part dots : List Char} {position : Position} {offset : Nat}

/-- A place has one position, which is the one that led to it unless that is past a line feed. -/
theorem positionOf_eq_iff (reached : offsetOf? text position = some offset) :
    positionOf text offset = position ↔ ¬PastFeed text position := by
  obtain ⟨above, line, below, placed⟩ := exists_lineAt (number_le_of_offsetOf? reached)
  obtain ⟨first, second, cut, column, size⟩ := placed.exists_cut reached
  constructor
  · intro same beyondFeed
    obtain ⟨upper, front, lower, past, plain, beyond⟩ := beyondFeed
    have whole := past.split?_of_cut (List.append_nil (front ++ ['\n'])).symm
    have width : units (front ++ ['\n']) = position.character := by
      rw [beyond, units_append]
      rfl
    have place : offset = bytes (upper ++ (front ++ ['\n'])) := by
      unfold offsetOf? at reached
      rw [width] at whole
      rw [whole] at reached
      exact (Option.some.inj reached).symm
    obtain ⟨following, rest, next⟩ := past.next rfl plain
    have start := next.positionOf_of_plain (List.nil_append following).symm List.not_mem_nil
    rw [List.append_nil, ← place, same] at start
    have lines : position.line = position.line + 1 := congrArg Position.line start
    omega
  · intro before
    rcases placed.whole_or_plain cut with plain | ⟨front, closed, plain, empty⟩
    · rw [size, placed.positionOf_of_plain cut plain, ← column]
    · exfalso
      apply before
      refine ⟨above, front, below, closed ▸ placed, plain, ?_⟩
      rw [empty, List.append_nil, closed] at cut
      rw [column, ← cut, units_append]
      rfl

/-- Places in a part of the text without line feeds are on one line. -/
theorem positionOf_of_plain {run rest : List Char} (whole : text = before ++ (run ++ after))
    (plain : '\n' ∉ run) (cut : run = part ++ rest) :
    positionOf text (bytes before + bytes part) =
      ⟨(positionOf text (bytes before)).line,
        (positionOf text (bytes before)).character + units part⟩ := by
  have flat : '\n' ∉ part := by
    intro feed
    rw [cut] at plain
    exact plain (List.mem_append_left rest feed)
  have split : text = (before ++ part) ++ (rest ++ after) := by
    rw [whole, cut]
    simp only [List.append_assoc]
  have start : positionOf text (bytes before) = before.foldl Position.next Position.zero := by
    rw [whole, positionOf_append]
  rw [start, split, ← bytes_append, positionOf_append, List.foldl_append, foldl_next_of_plain flat]

theorem units_of_dots (all : ∀ c ∈ dots, c = '.') : units dots = dots.length := by
  induction dots with
  | nil => rfl
  | cons c rest ih =>
      rw [all c List.mem_cons_self, units_cons, List.length_cons,
        ih fun d member => all d (List.mem_cons_of_mem c member)]
      exact Nat.add_comm 1 _

theorem not_feed_of_word (word : ∀ c ∈ part, isWordChar c = true) : '\n' ∉ part :=
  fun feed => absurd (word '\n' feed) (by decide)

end Text

/-- What is shown is shown for the word at the position. -/
theorem Hover.exists_word {text : String} {templates : List Template} {position : Position}
    {shown : Hover} (found : Hover.at? text templates position = some shown) :
    ∃ word, wordAt? text.toList position = some word ∧ shown.range = word.range text.toList := by
  unfold Hover.at? at found
  cases same : wordAt? text.toList position with
  | none =>
      rw [same] at found
      cases found
  | some word =>
      rw [same] at found
      obtain ⟨contents, _, rfl⟩ := Option.map_eq_some_iff.mp found
      exact ⟨word, rfl, rfl⟩

/-- What is shown for a position that is not past a line feed is shown for a range on its line. The
range has the position in it, but for the dots that touch the range on either side, and is sent as it
is if the text takes less than 2 ^ 32 bytes. -/
theorem Hover.at?_range_around_cursor {text : String} {templates : List Template}
    {position : Position} {shown : Hover} (found : Hover.at? text templates position = some shown)
    (onLine : ¬PastFeed text.toList position) :
    shown.range.start.line = position.line ∧ shown.range.stop.line = position.line ∧
      ∃ before left word right after,
        text.toList = before ++ (left ++ (word ++ (right ++ after))) ∧
        (∀ c ∈ left, c = '.') ∧ (∀ c ∈ right, c = '.') ∧
        shown.range = rangeOf text.toList (bytes before + bytes left)
          (bytes before + bytes left + bytes word) ∧
        shown.range.start.character ≤ position.character + left.length ∧
        position.character ≤ shown.range.stop.character + right.length ∧
        (bytes text.toList < UInt32.size → shown.range.wrapped = shown.range) := by
  obtain ⟨word, atCursor, range⟩ := Hover.exists_word found
  obtain ⟨before, first, second, after, left, right, whole, reached, all, parts, start, dotsLeft,
    dotsRight⟩ := exists_run_of_wordAt? atCursor
  have plain := not_feed_of_word all
  have cut : text.toList = before ++ (left ++ (word.chars ++ (right ++ after))) := by
    rw [whole, parts]
    simp only [List.append_assoc]
  -- the cursor and both ends of the range are so many columns after the start of the run
  have cursor := positionOf_of_plain whole plain rfl
  rw [(positionOf_eq_iff reached).mpr onLine] at cursor
  have starts := positionOf_of_plain whole plain parts
  have stops := positionOf_of_plain whole plain (parts.trans (List.append_assoc _ _ _).symm)
  rw [bytes_append, ← Nat.add_assoc] at stops
  have same : shown.range = rangeOf text.toList (bytes before + bytes left)
      (bytes before + bytes left + bytes word.chars) := by
    rw [range, ← start]
    rfl
  have widths := congrArg units parts
  have leftWidth := units_of_dots dotsLeft
  have rightWidth := units_of_dots dotsRight
  simp only [units_append] at widths
  rw [same]
  unfold rangeOf
  rw [starts, stops, cursor]
  have sent : bytes text.toList < UInt32.size → _ := fun small =>
    wrapped_rangeOf small (bytes before + bytes left) (bytes before + bytes left + bytes word.chars)
  unfold rangeOf at sent
  rw [starts, stops] at sent
  refine ⟨rfl, rfl, before, left, word.chars, right, after, cut, dotsLeft, dotsRight, ?_, ?_, ?_,
    sent⟩
  · rw [starts, stops]
  · simp only
    omega
  · simp only [units_append]
    omega

/-- The cursor after two dots that follow the word. -/
theorem Hover.range_before_two_dots :
    ¬PastFeed "x\n😀 .add..".toList ⟨1, 9⟩ ∧ ∃ shown,
      Hover.at? "x\n😀 .add.." [] ⟨1, 9⟩ = some shown ∧ shown.range = ⟨⟨1, 4⟩, ⟨1, 7⟩⟩ ∧
      shown.range.start.line = 1 ∧ shown.range.stop.line = 1 ∧
      ∃ dots : List Char, (∀ c ∈ dots, c = '.') ∧ 9 ≤ shown.range.stop.character + dots.length := by
  have reached : offsetOf? "x\n😀 .add..".toList ⟨1, 9⟩ = some 13 := by decide +kernel
  have range : (Hover.at? "x\n😀 .add.." [] ⟨1, 9⟩).map Hover.range = some ⟨⟨1, 4⟩, ⟨1, 7⟩⟩ := by
    decide +kernel
  have onLine : ¬PastFeed "x\n😀 .add..".toList ⟨1, 9⟩ :=
    (positionOf_eq_iff reached).mp (by decide +kernel)
  obtain ⟨shown, found, same⟩ := Option.map_eq_some_iff.mp range
  obtain ⟨starts, stops, _, _, _, right, _, _, _, dots, _, _, reaches, _⟩ :=
    Hover.at?_range_around_cursor found onLine
  exact ⟨onLine, shown, found, same, starts, stops, right, dots, reaches⟩

/-- The cursor before a dot that precedes the word, and the cursor past a line feed. -/
theorem Hover.range_away_from_cursor :
    (Hover.at? ".add" [] ⟨0, 0⟩).map Hover.range = some ⟨⟨0, 1⟩, ⟨0, 4⟩⟩ ∧
      Position.le ⟨0, 1⟩ ⟨0, 0⟩ = false ∧
      (Hover.at? "x\nadd" [] ⟨0, 2⟩).map Hover.range = some ⟨⟨1, 0⟩, ⟨1, 3⟩⟩ := by
  decide +kernel

/-! ### Definitions -/

namespace Grammar

variable {line : Piece} {header : Header}

theorem isWordChar_of_isBlank {c : Char} (blank : isBlank c = true) : isWordChar c = false := by
  rcases Bool.or_eq_true_iff.mp blank with space | tab
  · rw [eq_of_beq space]
    decide
  · rw [eq_of_beq tab]
    decide

/-- A name in a header is followed by a blank, a bracket or the end of the line. -/
theorem Header.stops_afterName (read : Header.ofLine line = .ok header) :
    ∃ rest, readName? isNameChar (Header.input line) = some (header.name, rest) ∧
      Stops isWordChar rest.chars := by
  have read : (Header.ofLine line).toOption = some header := by rw [read]; rfl
  cases named : readName? isNameChar (Header.input line) with
  | none =>
      rw [Header.ofLine_of_nameless named] at read
      cases read
  | some parts =>
      obtain ⟨name, rest⟩ := parts
      rw [Header.ofLine_of_named named] at read
      have stops : Stops isWordChar rest.chars := by
        intro c head
        by_cases blank : isBlank c = true
        · exact isWordChar_of_isBlank blank
        · obtain ⟨more, chars⟩ := List.head?_eq_some_iff.mp head
          have kept : (rest.dropWhile isBlank).chars = c :: more := by
            rw [Piece.chars_dropWhile, chars, List.dropWhile_cons_of_neg blank]
          rw [kept] at read
          by_cases bracket : c = '('
          · rw [bracket]
            decide
          · simp [bracket] at read
      have same : header.name = name := by
        split at read
        · cases read
          rfl
        · split at read
          · cases read
          · split at read
            · cases read
              rfl
            · cases read
        · cases read
      exact ⟨rest, by rw [same], stops⟩

theorem ofLine_of_headerOf? (found : headerOf? line = some header) :
    (line.chars.dropWhile isBlank).head? = some '#' ∧ Header.ofLine line = .ok header := by
  unfold headerOf? at found
  split at found
  · rename_i told read
    cases found
    unfold Entry.ofLine at read
    split at read
    · rename_i mark
      cases same : Header.ofLine line with
      | error malformed =>
          rw [same] at read
          cases read
      | ok other =>
          rw [same] at read
          cases read
          exact ⟨mark, rfl⟩
    · cases read
    · split at read
      · cases read
      · cases read
  · cases found

/-- The characters next to the name in a header are no word characters. -/
theorem Header.exists_surroundings (found : headerOf? line = some header) :
    ∃ before after, line.chars = before ++ (header.name.chars ++ after) ∧
      header.name.start = line.start + bytes before ∧
      (∃ c, before.getLast? = some c ∧ isWordChar c = false) ∧ Stops isWordChar after := by
  obtain ⟨mark, read⟩ := ofLine_of_headerOf? found
  obtain ⟨following, opened⟩ := List.head?_eq_some_iff.mp mark
  obtain ⟨rest, named, stops⟩ := Header.stops_afterName read
  obtain ⟨_, name, remains⟩ := readName?_parts named
  have gap : (Header.input line).chars = following.dropWhile isBlank := by
    change ((line.chars.dropWhile isBlank).drop 1).dropWhile isBlank = _
    rw [opened]
    rfl
  refine ⟨line.chars.takeWhile isBlank ++ '#' :: following.takeWhile isBlank, rest.chars, ?_, ?_, ?_,
    stops⟩
  · have inside : (header.name.chars ++ rest.chars) = following.dropWhile isBlank := by
      rw [name, remains, ← gap]
      exact List.takeWhile_append_dropWhile
    rw [inside, List.append_assoc, List.cons_append, List.takeWhile_append_dropWhile]
    exact takeWhile_append_of_dropWhile opened
  · rw [name]
    change line.start + bytes _ + bytes ((line.chars.dropWhile isBlank).take 1) +
      bytes (((line.chars.dropWhile isBlank).drop 1).takeWhile isBlank) = _
    rw [opened, bytes_append, bytes_cons]
    simp only [List.take_succ_cons, List.take_zero, List.drop_succ_cons, List.drop_zero, bytes_cons,
      bytes_nil]
    omega
  · have filled : '#' :: following.takeWhile isBlank ≠ [] := List.cons_ne_nil _ _
    refine ⟨_, by rw [List.getLast?_append_of_ne_nil _ filled, List.getLast?_eq_some_getLast filled], ?_⟩
    rcases List.mem_cons.mp (List.getLast_mem filled) with sharp | blank
    · rw [sharp]
      decide
    · exact isWordChar_of_isBlank (List.mem_takeWhile_imp blank)

/-- In the whole text, too, the name in a header is a run of word characters between others. -/
theorem exists_definition {text : List Char} {outline : Outline}
    (read : Outline.ofText text = .ok outline) {part : Section} (listed : part ∈ outline.sections) :
    ∃ before after, text = before ++ (part.header.name.chars ++ after) ∧
      part.header.name.start = bytes before ∧
      (∀ c, before.getLast? = some c → isWordChar c = false) ∧ Stops isWordChar after := by
  obtain ⟨entries, found, rfl⟩ := exists_entries_of_ofText read
  have member : part.header ∈ (linesFrom 0 text).filterMap headerOf? := by
    rw [← headers_ofEntries found]
    exact List.mem_map_of_mem listed
  obtain ⟨line, among, headed⟩ := List.mem_filterMap.mp member
  obtain ⟨above, below, whole, lineStart, ends⟩ :=
    (lines_linesFrom 0 text).exists_surroundings among
  obtain ⟨before, after, chars, start, ⟨last, final, refused⟩, stops⟩ :=
    Header.exists_surroundings headed
  refine ⟨above ++ before, after ++ below, ?_, ?_, ?_, ?_⟩
  · rw [whole, chars]
    simp only [List.append_assoc]
  · rw [start, lineStart, bytes_append]
    omega
  · intro c same
    rw [List.getLast?_append, final] at same
    rw [← Option.some.inj same]
    exact refused
  · intro c head
    cases after with
    | nil => exact ends.stops rfl rfl c head
    | cons next rest => exact stops c head

end Grammar

variable {text : String} {outline : Outline} {part : Section} {position : Position} {offset : Nat}

/-- The word at each place of a defined name is that name without the dots at its end. -/
theorem wordAt?_of_definition (read : Outline.ofText text.toList = .ok outline)
    (listed : part ∈ outline.sections) (reached : offsetOf? text.toList position = some offset)
    (notBefore : part.header.name.start ≤ offset) (notAfter : offset ≤ part.header.name.stop)
    {stem dots : List Char} (parts : part.header.name.chars = stem ++ dots)
    (dotted : ∀ c ∈ dots, c = '.') (undotted : stem.getLast? ≠ some '.') :
    wordAt? text.toList position = some ⟨part.header.name.start, stem⟩ := by
  obtain ⟨before, after, whole, start, leftEnd, rightEnd⟩ := exists_definition read listed
  have formed : part.header.name.chars ∈ Form.name := by
    obtain ⟨front, blocks, apart, covers⟩ := covers_ofText read
    obtain ⟨block, found, records⟩ := mem_of_forall₂ covers.sections listed
    exact records.header.name
  have word : ∀ c ∈ part.header.name.chars, isWordChar c = true :=
    fun c member => isWordChar_of_isNameChar (isNameChar_of_name formed c member)
  rw [wordAt?_of_ends whole start word leftEnd rightEnd reached notBefore notAfter]
  -- the name starts with a letter or a low line, and so does what is left without the dots
  rw [Form.name_eq] at formed
  obtain ⟨c, starts, tail, _, spelled⟩ := Form.mem_one_mul.mp formed
  have different : c ≠ '.' := by
    intro dot
    rw [dot] at starts
    cases starts
  have filled : stem ≠ [] := by
    intro empty
    rw [empty, List.nil_append] at parts
    rw [← parts, spelled] at dotted
    exact different (dotted c List.mem_cons_self)
  apply undotted?_of_undots
  refine ⟨⟨[], dots, parts, rfl, fun _ => nofun, dotted⟩, filled, ?_, undotted⟩
  intro head
  have first := congrArg List.head? (spelled.symm.trans parts)
  rw [List.head?_append_of_ne_nil _ filled] at first
  exact different (Option.some.inj (first.trans head))

theorem Hover.contents?_of_template {templates : List Template} {word : String} {template : Template}
    (found : (templates.find? fun other => other.name == word) = some template) :
    Hover.contents? templates word = some (Hover.ofTemplate template) := by
  unfold Hover.contents? Hover.template?
  rw [found]
  rfl

/-- With the cursor at the name of a definition, what is shown is what the name without the dots at
its end refers to. For a name that does not end in a dot this is the first template of that name,
shown for the range of the name. The range is sent as it is if the text takes less than 2 ^ 32
bytes. -/
theorem Hover.at?_at_definition (source : String) {text : String} {outline : Outline}
    (read : Outline.ofText text.toList = .ok outline) {part : Section}
    (listed : part ∈ outline.sections) {position : Position} {offset : Nat}
    (reached : offsetOf? text.toList position = some offset)
    (notBefore : part.header.name.start ≤ offset) (notAfter : offset ≤ part.header.name.stop) :
    let name := part.header.name
    let templates := (Analysis.ofText source text).templates
    let hover := Hover.at? text templates position
    (name.chars.getLast? ≠ some '.' →
      ∃ template, (templates.find? fun other => other.name == part.name) = some template ∧
        hover = some ⟨[source, template.body], rangeOf text.toList name.start name.stop⟩) ∧
    (∀ stem dots, name.chars = stem ++ dots → (∀ c ∈ dots, c = '.') → stem.getLast? ≠ some '.' →
      hover = (Hover.contents? templates (String.ofList stem)).map fun contents =>
        ⟨contents, rangeOf text.toList name.start (name.start + bytes stem)⟩) ∧
    (bytes text.toList < UInt32.size → ∀ shown, hover = some shown →
      shown.range.wrapped = shown.range) := by
  intro name templates hover
  have general : ∀ stem dots, name.chars = stem ++ dots → (∀ c ∈ dots, c = '.') →
      stem.getLast? ≠ some '.' →
      hover = (Hover.contents? templates (String.ofList stem)).map fun contents =>
        ⟨contents, rangeOf text.toList name.start (name.start + bytes stem)⟩ := by
    intro stem dots parts dotted undotted
    have word := wordAt?_of_definition read listed reached notBefore notAfter parts dotted undotted
    change Hover.at? text templates position = _
    unfold Hover.at?
    rw [word]
    rfl
  refine ⟨?_, general, ?_⟩
  rotate_left
  · intro small shown found
    obtain ⟨word, _, range⟩ := Hover.exists_word found
    rw [range]
    exact wrapped_rangeOf small _ _
  intro undotted
  have shown := general name.chars [] (List.append_nil _).symm (fun _ => nofun) undotted
  have defined : templates = outline.sections.map (Template.ofSection source) :=
    Analysis.templates_of_ofText source read
  have known : part.name ∈ templates.map Template.name := by
    rw [defined, List.map_map]
    exact List.mem_map_of_mem listed
  obtain ⟨template, found⟩ := Option.isSome_iff_exists.mp (isSome_find?_name.mpr known)
  have origin : template.source = source := by
    have member := List.mem_of_find?_eq_some found
    rw [defined] at member
    obtain ⟨_, _, rfl⟩ := List.mem_map.mp member
    rfl
  refine ⟨template, found, ?_⟩
  rw [shown]
  change (Hover.contents? templates part.name).map _ = _
  rw [Hover.contents?_of_template found, Hover.ofTemplate, origin]
  rfl

/-- The cursor at the end of a name that is defined twice. -/
theorem Hover.first_shown_at_second_definition :
    offsetOf? "# f.x\n- one\n\t# f.x (p)\n- two".toList ⟨2, 6⟩ = some 18 ∧
      Hover.at? "# f.x\n- one\n\t# f.x (p)\n- two"
        (Analysis.ofText "s" "# f.x\n- one\n\t# f.x (p)\n- two").templates ⟨2, 6⟩ =
        some ⟨["s", "- one"], ⟨⟨2, 3⟩, ⟨2, 6⟩⟩⟩ := by
  have read : Outline.ofText "# f.x\n- one\n\t# f.x (p)\n- two".toList =
      .ok ⟨[], [⟨⟨⟨2, "f.x".toList⟩, []⟩, [⟨6, "- one".toList⟩]⟩,
        ⟨⟨⟨15, "f.x".toList⟩, [⟨20, ['p']⟩]⟩, [⟨23, "- two".toList⟩]⟩], []⟩ := by
    decide +kernel
  have reached : offsetOf? "# f.x\n- one\n\t# f.x (p)\n- two".toList ⟨2, 6⟩ = some 18 := by
    decide +kernel
  have first : ((Analysis.ofText "s" "# f.x\n- one\n\t# f.x (p)\n- two").templates.find?
      fun other => other.name == "f.x") = some ⟨"f.x", [], "- one", "s"⟩ := by
    decide +kernel
  have range : rangeOf "# f.x\n- one\n\t# f.x (p)\n- two".toList 15 18 = ⟨⟨2, 3⟩, ⟨2, 6⟩⟩ := by
    decide +kernel
  obtain ⟨template, found, shown⟩ := (Hover.at?_at_definition "s" read
    (List.mem_cons_of_mem _ (List.mem_singleton.mpr rfl)) reached (by decide) (by decide)).1
    (by decide)
  obtain rfl := Option.some.inj (first.symm.trans found)
  refine ⟨reached, shown.trans ?_⟩
  rw [← range]
  rfl

/-- The cursor at the start of a name that ends in a dot. -/
theorem Hover.nothing_shown_at_dotted_definition :
    Outline.ofText "# A.\n- x".toList =
        .ok ⟨[], [⟨⟨⟨2, "A.".toList⟩, []⟩, [⟨5, "- x".toList⟩]⟩], []⟩ ∧
      offsetOf? "# A.\n- x".toList ⟨0, 2⟩ = some 2 ∧
      Hover.at? "# A.\n- x" (Analysis.ofText "s" "# A.\n- x").templates ⟨0, 2⟩ = none := by
  decide +kernel

end TemplateServer
