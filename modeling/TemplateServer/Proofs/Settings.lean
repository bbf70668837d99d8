import Mathlib.Data.List.Forall2
import TemplateServer.Settings

/-!
What settings a value stands for. A group of settings is an object, in which a part may be missing,
or an array of its parts. Main statement: the settings that are read from a value are those it
stands for, where what is missing has its default; any other value is refused.
-/

namespace TemplateServer

/-! ### Groups of settings -/

namespace Json

/-- The values under a key. In what was read from a text there is at most one. -/
def values (key : String) (members : List (String × Json)) : List Json :=
  members.filterMap fun member => if member.1 = key then some member.2 else none

/-- The values that are given for the only part of a group of settings, which is an object or an
array of at most one item. -/
def given? (key : String) : Json → Option (List Json)
  | .object members => some (values key members)
  | .array [] => some []
  | .array [value] => some [value]
  | _ => none

/-- What the values for a part stand for: what is taken in its absence if there are none, and else
what the first one stands for, provided that all of them stand for something. -/
inductive Stand {α : Type} (stands : Json → α → Prop) (absent : α) : List Json → α → Prop where
  | none : Stand stands absent [] absent
  | first {value : Json} {others : List Json} {part : α} (stood : stands value part)
    (more : ∀ other ∈ others, ∃ another, stands other another) :
    Stand stands absent (value :: others) part

/-- Whether a value is a group of settings with a part that has a key. -/
def Group {α : Type} (key : String) (stands : Json → α → Prop) (absent : α) (value : Json)
    (part : α) : Prop :=
  ∃ given, value.given? key = some given ∧ Stand stands absent given part

end Json

def Json.IsWord (value : Json) (count : UInt64) : Prop :=
  value = .integer count.toNat

def ValidationSettings.Stands (value : Json) (settings : ValidationSettings) : Prop :=
  Json.Group "debounceMs" Json.IsWord 500 value settings.debounceMs

def Settings.Stands (value : Json) (settings : Settings) : Prop :=
  Json.Group "validation" ValidationSettings.Stands {} value settings.validation

def Settings.Given (sent : Json) (settings : Settings) : Prop :=
  ∃ value, sent.member? "lg" = some value ∧ settings.Stands value

/-! ### Members -/

namespace Json

variable {key : String} {members : List (String × Json)}

theorem values_cons_of_eq (value : Json) :
    values key ((key, value) :: members) = value :: values key members := by
  unfold values
  rw [List.filterMap_cons, if_pos rfl]

theorem values_cons_of_ne {other : String} (different : other ≠ key) (value : Json) :
    values key ((other, value) :: members) = values key members := by
  unfold values
  rw [List.filterMap_cons, if_neg different]

end Json

namespace Shape

variable {α : Type} {shape : Shape} {stands : Json → α → Prop} {key name : String}

/-- A member that is not the part of a record is passed over. -/
theorem readMembers_cons_of_ne {other : String} (different : other ≠ key) (value : Json)
    (members : List (String × Json)) :
    readMembers .alone [defaults key shape] ((other, value) :: members) =
      readMembers .alone [defaults key shape] members := by
  have unknown : part? [defaults key shape] other = none := by
    unfold part?
    rw [List.find?_singleton]
    exact if_neg fun same => different (eq_of_beq same).symm
  rw [readMembers, unknown]
  cases readMembers .alone [defaults key shape] members with
  | error misfit => rfl
  | ok others => rfl

theorem readMembers_cons_of_eq (value : Json) (members : List (String × Json)) :
    readMembers .alone [defaults key shape] ((key, value) :: members) =
      (shape .alone value).bind fun normal =>
        (readMembers .alone [defaults key shape] members).map fun others =>
          (key, normal) :: others := by
  have known : part? [defaults key shape] key = some (defaults key shape) := by
    unfold part?
    rw [List.find?_singleton]
    exact if_pos (beq_self_eq_true key)
  rw [readMembers, known]
  change ((shape .alone value).map fun normal => some (key, normal)).bind _ = _
  cases shape .alone value with
  | error misfit => rfl
  | ok normal =>
      cases readMembers .alone [defaults key shape] members with
      | error misfit => rfl
      | ok others => rfl

def Brings (shape : Shape) (given normals : List Json) : Prop :=
  List.Forall₂ (fun value normal => shape .alone value = .ok normal) given normals

theorem readMembers_iff {members found : List (String × Json)} :
    readMembers .alone [defaults key shape] members = .ok found ↔
      ∃ normals, shape.Brings (Json.values key members) normals ∧
        found = normals.map (Prod.mk key) := by
  induction members generalizing found with
  | nil =>
      constructor
      · intro read
        cases read
        exact ⟨[], .nil, rfl⟩
      · rintro ⟨_, ⟨⟩, rfl⟩
        rfl
  | cons member members ih =>
      obtain ⟨other, value⟩ := member
      by_cases same : other = key
      · subst same
        rw [readMembers_cons_of_eq, Json.values_cons_of_eq]
        constructor
        · intro read
          cases first : shape .alone value with
          | error misfit =>
              rw [first] at read
              cases read
          | ok normal =>
              cases later : readMembers .alone [defaults other shape] members with
              | error misfit =>
                  rw [first, later] at read
                  cases read
              | ok others =>
                  rw [first, later] at read
                  cases read
                  obtain ⟨normals, brings, rfl⟩ := ih.mp later
                  exact ⟨normal :: normals, .cons first brings, rfl⟩
        · rintro ⟨_, brings, rfl⟩
          cases brings with
          | cons first later =>
              rw [first, ih.mpr ⟨_, later, rfl⟩]
              rfl
      · rw [readMembers_cons_of_ne same, Json.values_cons_of_ne same]
        exact ih

/-! ### Records with one part that may be missing -/

theorem record_object (members : List (String × Json)) :
    record name [defaults key shape] .alone (.object members) =
      (readMembers .alone [defaults key shape] members).map .object := by
  have complete : missing? [defaults key shape] members = none := rfl
  change (ofMembers .alone [defaults key shape] members).map Json.object = _
  unfold ofMembers
  rw [complete]
  cases readMembers .alone [defaults key shape] members with
  | error misfit => rfl
  | ok found => rfl

theorem record_item (value : Json) :
    record name [defaults key shape] .alone (.array [value]) =
      (shape .alone value).map fun normal => .object [(key, normal)] := by
  unfold record ofItems
  change ((((shape .alone value).map fun normal => some (key, normal)).bind _).map _) = _
  cases shape .alone value with
  | error misfit => rfl
  | ok normal => rfl

theorem record_items_ne_ok (first second : Json) (rest : List Json) (normal : Json) :
    record name [defaults key shape] .alone (.array (first :: second :: rest)) ≠ .ok normal := by
  unfold record ofItems
  change ((((shape .alone first).map fun normal => some (key, normal)).bind _).map _) ≠ _
  cases shape .alone first with
  | error misfit => exact nofun
  | ok normal => exact nofun

/-- What the record is in normal form. -/
theorem record_iff {value normal : Json} :
    record name [defaults key shape] .alone value = .ok normal ↔
      ∃ given normals, value.given? key = some given ∧ shape.Brings given normals ∧
        normal = .object (normals.map (Prod.mk key)) := by
  constructor
  · intro read
    cases value with
    | object members =>
        rw [record_object] at read
        cases inside : readMembers .alone [defaults key shape] members with
        | error misfit =>
            rw [inside] at read
            cases read
        | ok found =>
            rw [inside] at read
            cases read
            obtain ⟨normals, brings, rfl⟩ := readMembers_iff.mp inside
            exact ⟨_, normals, rfl, brings, rfl⟩
    | array items =>
        match items with
        | [] =>
            cases read
            exact ⟨[], [], rfl, .nil, rfl⟩
        | [value] =>
            rw [record_item] at read
            cases only : shape .alone value with
            | error misfit =>
                rw [only] at read
                cases read
            | ok part =>
                rw [only] at read
                cases read
                exact ⟨[value], [part], rfl, .cons only .nil, rfl⟩
        | first :: second :: rest => exact absurd read (record_items_ne_ok first second rest normal)
    | null => cases read
    | bool value => cases read
    | integer value => cases read
    | float value => cases read
    | string value => cases read
  · rintro ⟨given, normals, same, brings, rfl⟩
    cases value with
    | object members =>
        cases same
        rw [record_object, readMembers_iff.mpr ⟨normals, brings, rfl⟩]
        rfl
    | array items =>
        match items with
        | [] =>
            cases same
            cases brings
            rfl
        | [value] =>
            cases same
            cases brings with
            | cons only rest =>
                cases rest
                rw [record_item, only]
                rfl
        | first :: second :: rest => cases same
    | null => cases same
    | bool value => cases same
    | integer value => cases same
    | float value => cases same
    | string value => cases same

/-! ### What shapes tell -/

/-- Whether a shape accepts what stands for something, and its normal form stands for the same. -/
structure Tells (shape : Shape) (stands : Json → α → Prop) : Prop where
  accepts : ∀ value, (∃ normal, shape .alone value = .ok normal) ↔ ∃ part, stands value part
  keeps : ∀ {value normal : Json}, shape .alone value = .ok normal →
    ∀ part, stands normal part ↔ stands value part

theorem tells_ofReader {read : Json → Decoded α}
    (reads : ∀ value part, read value = .ok part ↔ stands value part) :
    (Shape.ofReader read).Tells stands := by
  have accepted {value normal : Json} :
      Shape.ofReader read .alone value = .ok normal ↔
        (∃ part, stands value part) ∧ value = normal := by
    unfold Shape.ofReader
    cases result : read value with
    | error misfit =>
        refine iff_of_false nofun ?_
        rintro ⟨⟨part, stood⟩, _⟩
        rw [(reads value part).mpr stood] at result
        cases result
    | ok part =>
        constructor
        · intro same
          exact ⟨⟨part, (reads value part).mp result⟩, Except.ok.inj same⟩
        · rintro ⟨_, rfl⟩
          rfl
  constructor
  · intro value
    constructor
    · rintro ⟨normal, found⟩
      exact (accepted.mp found).1
    · intro stood
      exact ⟨value, accepted.mpr ⟨stood, rfl⟩⟩
  · intro value normal found part
    rw [(accepted.mp found).2]

theorem Brings.exists_stands (tells : shape.Tells stands) {given normals : List Json}
    (brings : shape.Brings given normals) : ∀ value ∈ given, ∃ part, stands value part := by
  intro value member
  induction brings with
  | nil => cases member
  | cons first _ ih =>
      rcases List.mem_cons.mp member with rfl | later
      · exact (tells.accepts value).mp ⟨_, first⟩
      · exact ih later

theorem Brings.exists_stands_normal (tells : shape.Tells stands) {given normals : List Json}
    (brings : shape.Brings given normals) : ∀ normal ∈ normals, ∃ part, stands normal part := by
  intro normal member
  induction brings with
  | nil => cases member
  | @cons value _ _ _ first _ ih =>
      rcases List.mem_cons.mp member with rfl | later
      · obtain ⟨part, stood⟩ := (tells.accepts value).mp ⟨_, first⟩
        exact ⟨part, (tells.keeps first part).mpr stood⟩
      · exact ih later

theorem exists_brings (tells : shape.Tells stands) {given : List Json}
    (stood : ∀ value ∈ given, ∃ part, stands value part) :
    ∃ normals, shape.Brings given normals := by
  induction given with
  | nil => exact ⟨[], .nil⟩
  | cons value given ih =>
      obtain ⟨normals, brings⟩ := ih fun other member => stood other (List.mem_cons_of_mem _ member)
      obtain ⟨normal, first⟩ := (tells.accepts value).mpr (stood value List.mem_cons_self)
      exact ⟨normal :: normals, .cons first brings⟩

end Shape

namespace Json

variable {α : Type} {stands : Json → α → Prop} {absent : α}

theorem stand_cons_iff {value : Json} {others : List Json} {part : α}
    (more : ∀ other ∈ others, ∃ another, stands other another) :
    Stand stands absent (value :: others) part ↔ stands value part :=
  ⟨fun (.first stood _) => stood, fun stood => .first stood more⟩

theorem exists_stand_iff {given : List Json} :
    (∃ part, Stand stands absent given part) ↔ ∀ value ∈ given, ∃ part, stands value part := by
  cases given with
  | nil => exact iff_of_true ⟨absent, .none⟩ fun _ => nofun
  | cons value others =>
      constructor
      · rintro ⟨part, stand⟩
        cases stand with
        | first stood more => exact List.forall_mem_cons.mpr ⟨⟨part, stood⟩, more⟩
      · intro all
        obtain ⟨⟨part, stood⟩, more⟩ := List.forall_mem_cons.mp all
        exact ⟨part, .first stood more⟩

theorem given?_object_map (key : String) (normals : List Json) :
    given? key (.object (normals.map (Prod.mk key))) = some normals := by
  unfold given? values
  simp

end Json

namespace Shape

variable {α : Type} {shape : Shape} {stands : Json → α → Prop} {key name : String} {absent : α}

/-- Normal forms stand for the same as what they are made from. -/
theorem Brings.stand_iff (tells : shape.Tells stands) {given normals : List Json}
    (brings : shape.Brings given normals) (part : α) :
    Json.Stand stands absent normals part ↔ Json.Stand stands absent given part := by
  have before := brings.exists_stands tells
  have after := brings.exists_stands_normal tells
  cases brings with
  | nil => rfl
  | cons first _ =>
      rw [Json.stand_cons_iff (List.forall_mem_cons.mp after).2,
        Json.stand_cons_iff (List.forall_mem_cons.mp before).2]
      exact tells.keeps first part

/-- A record with one part tells which group of settings a value is. -/
theorem tells_record (tells : shape.Tells stands) :
    (record name [defaults key shape]).Tells (Json.Group key stands absent) := by
  constructor
  · intro value
    constructor
    · rintro ⟨normal, read⟩
      obtain ⟨given, normals, same, brings, _⟩ := record_iff.mp read
      obtain ⟨part, stood⟩ := Json.exists_stand_iff.mpr (brings.exists_stands tells)
      exact ⟨part, given, same, stood⟩
    · rintro ⟨part, given, same, stood⟩
      obtain ⟨normals, brings⟩ := exists_brings tells (Json.exists_stand_iff.mp ⟨part, stood⟩)
      exact ⟨_, record_iff.mpr ⟨given, normals, same, brings, rfl⟩⟩
  · intro value normal read part
    obtain ⟨given, normals, same, brings, rfl⟩ := record_iff.mp read
    unfold Json.Group
    rw [Json.given?_object_map, same]
    simp only [Option.some.injEq, exists_eq_left']
    exact brings.stand_iff tells part

end Shape

/-! ### Reading settings -/

/-- Reading a group of settings with one part. -/
theorem Decode.group_iff {α β : Type} {shape : Shape} {stands : Json → α → Prop}
    {read : Json → Decoded α} (tells : shape.Tells stands)
    (reads : ∀ value part, read value = .ok part ↔ stands value part) (name key : String)
    (make : α → β) (absent : α) (value : Json) (result : β) :
    (do
      let normal ← Shape.record name [Shape.defaults key shape] .alone value
      let part ← Decode.optional normal key read
      pure ((part.map make).getD (make absent)) : Decoded β) = .ok result ↔
      ∃ part, Json.Group key stands absent value part ∧ make part = result := by
  have whole : (Shape.record name [Shape.defaults key shape]).Tells
      (Json.Group key stands absent) := Shape.tells_record tells
  cases brought : Shape.record name [Shape.defaults key shape] .alone value with
  | error misfit =>
      refine iff_of_false nofun ?_
      rintro ⟨part, group, _⟩
      obtain ⟨normal, accepted⟩ := (whole.accepts value).mpr ⟨part, group⟩
      rw [accepted] at brought
      cases brought
  | ok normal =>
      simp only [← whole.keeps brought]
      obtain ⟨given, normals, same, brings, rfl⟩ := Shape.record_iff.mp brought
      have stood := brings.exists_stands_normal tells
      unfold Json.Group
      simp only [Json.given?_object_map, Option.some.injEq, exists_eq_left']
      cases normals with
      | nil =>
          constructor
          · intro made
            exact ⟨absent, .none, Except.ok.inj made⟩
          · rintro ⟨part, stand, rfl⟩
            cases stand
            rfl
      | cons normal normals =>
          have first : Decode.optional (.object ((normal :: normals).map (Prod.mk key))) key read =
              (read normal).map some := by
            have listed : Json.member? key (.object ((normal :: normals).map (Prod.mk key))) =
                some normal := List.lookup_cons_self
            unfold Decode.optional
            rw [listed]
          have others := (List.forall_mem_cons.mp stood).2
          simp only [Json.stand_cons_iff others, ← reads]
          change (Decode.optional _ key read).bind _ = _ ↔ _
          rw [first]
          cases read normal with
          | error misfit =>
              refine iff_of_false nofun ?_
              rintro ⟨part, read, _⟩
              cases read
          | ok part =>
              constructor
              · intro made
                exact ⟨part, rfl, Except.ok.inj made⟩
              · rintro ⟨_, same, rfl⟩
                cases same
                rfl

theorem Decode.integer_iff (expected : String) (least bound : Int) (value : Json) (number : Int) :
    Decode.integer expected least bound value = .ok number ↔
      value = .integer number ∧ least ≤ number ∧ number < bound := by
  constructor
  · intro read
    unfold Decode.integer at read
    split at read
    · split at read
      · rename_i bounds
        cases read
        exact ⟨rfl, bounds⟩
      · cases read
    · cases read
  · rintro ⟨rfl, bounds⟩
    exact if_pos bounds

theorem Decode.word_iff (value : Json) (count : UInt64) :
    Decode.word value = .ok count ↔ value.IsWord count := by
  unfold Decode.word Json.IsWord
  constructor
  · intro read
    cases number : Decode.integer "u64" 0 0x10000000000000000 value with
    | error misfit =>
        rw [number] at read
        cases read
    | ok found =>
        rw [number] at read
        obtain ⟨rfl, least, bound⟩ := (Decode.integer_iff _ _ _ _ _).mp number
        have same : UInt64.ofNat found.toNat = count := Except.ok.inj read
        have small : found.toNat < UInt64.size := by
          change found.toNat < 18446744073709551616
          omega
        rw [← same, UInt64.toNat_ofNat_of_lt' small, Int.toNat_of_nonneg least]
  · intro same
    have bound : count.toNat < 18446744073709551616 := count.toNat_lt
    have number := (Decode.integer_iff "u64" 0 0x10000000000000000 value count.toNat).mpr
      ⟨same, Int.natCast_nonneg _, by omega⟩
    rw [number]
    change Except.ok (UInt64.ofNat (Int.toNat count.toNat)) = _
    rw [Int.toNat_natCast, UInt64.ofNat_toNat]

/-- The shape of validation settings tells what a value stands for. -/
theorem ValidationSettings.tells_shape :
    ValidationSettings.shape.Tells ValidationSettings.Stands := by
  have part : ValidationSettings.shape.Tells (Json.Group "debounceMs" Json.IsWord 500) :=
    Shape.tells_record (Shape.tells_ofReader Decode.word_iff)
  constructor
  · intro value
    rw [part.accepts]
    exact ⟨fun ⟨count, group⟩ => ⟨⟨count⟩, group⟩, fun ⟨settings, group⟩ => ⟨_, group⟩⟩
  · intro value normal read settings
    exact part.keeps read settings.debounceMs

theorem ValidationSettings.ofJson_iff (value : Json) (settings : ValidationSettings) :
    ValidationSettings.ofJson value = .ok settings ↔ settings.Stands value := by
  have tells := Shape.tells_ofReader Decode.word_iff
  refine (Decode.group_iff tells Decode.word_iff "ValidationConfig" "debounceMs"
    ValidationSettings.mk 500 value settings).trans ?_
  constructor
  · rintro ⟨_, group, rfl⟩
    exact group
  · intro group
    exact ⟨settings.debounceMs, group, rfl⟩

/-- What is read as settings is what a value stands for. -/
theorem Settings.ofJson_iff (value : Json) (settings : Settings) :
    Settings.ofJson value = .ok settings ↔ settings.Stands value := by
  refine (Decode.group_iff ValidationSettings.tells_shape ValidationSettings.ofJson_iff
    "LgServerConfig" "validation" Settings.mk {} value settings).trans ?_
  constructor
  · rintro ⟨_, group, rfl⟩
    exact group
  · intro group
    exact ⟨settings.validation, group, rfl⟩

/-- What a client sent is taken for the settings that it holds, and for none else. -/
theorem Settings.ofClient?_iff (sent : Json) (settings : Settings) :
    Settings.ofClient? sent = some (.ok settings) ↔ settings.Given sent := by
  unfold Settings.ofClient? Settings.Given
  rw [Option.map_eq_some_iff]
  exact exists_congr fun value => and_congr_right fun _ => Settings.ofJson_iff value settings

end TemplateServer
