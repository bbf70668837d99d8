import TemplateServer.Json.Decode

/-!
Shapes of JSON values. A shape brings a value into normal form, or tells why the value does not
have the shape. In normal form every record is an object, and it has no other members than the
parts of the record that are there.

A record may be written as an array of its parts. The members of an object are read in the order
of their keys; only then is it told which of them are missing.
-/

namespace TemplateServer

/-- Where a value stands that is read: by itself, or among members that several records share. -/
inductive Standing where
  | alone
  | shared

abbrev Shape := Standing → Json → Decoded Json

namespace Shape

/-! ### Plain values -/

def ofReader {α : Type} (read : Json → Decoded α) : Shape :=
  fun _ value => (read value).map fun _ => value

def anything : Shape :=
  fun _ value => .ok value

def text : Shape :=
  ofReader Decode.text

def flag : Shape :=
  ofReader Decode.flag

def count : Shape :=
  ofReader Decode.count

def signed : Shape :=
  ofReader Decode.signed

def single : Shape :=
  ofReader Decode.single

/-- One of some words. It may also be written as an object with the word as its only key and null
as its value. -/
def word (choices : List String) : Shape
  | _, .string word =>
    if choices.contains word then .ok (.string word) else .error (.unknownWord word choices)
  | _, .object [(word, value)] =>
    if choices.contains word then
      match value with
      | .null => .ok (.string word)
      | found => .error (.wrongKind found "unit")
    else
      .error (.unknownWord word choices)
  | _, .object members => .error (.wrongValue (.object members) "map with a single key")
  | _, found => .error (.wrongKind found "string or map")

/-! ### Several values -/

def listOf (item : Shape) : Shape
  | standing, .array items => (items.mapM (item standing)).map .array
  | _, found => .error (.wrongKind found "a sequence")

def pairOf (item : Shape) : Shape
  | standing, .array [first, second] => do
    let first ← item standing first
    let second ← item standing second
    pure (.array [first, second])
  | _, .array items => .error (.wrongLength items.length "an array of length 2")
  | _, found => .error (.wrongKind found "an array of length 2")

def readEntries (standing : Standing) (key item : Shape) :
    List (String × Json) → Decoded (List (String × Json))
  | [] => .ok []
  | (name, value) :: rest => do
    let _ ← key standing (.string name)
    let result ← item standing value
    let others ← readEntries standing key item rest
    pure ((name, result) :: others)

def mapOf (expected : String) (key item : Shape) : Shape
  | standing, .object members => (readEntries standing key item members).map .object
  | _, found => .error (.wrongKind found expected)

def oneOf (name : String) (shapes : List Shape) : Shape :=
  fun _ value =>
    match shapes.findSome? fun shape => (shape .shared value).toOption with
    | some result => .ok result
    | none => .error (.noAlternative name)

/-! ### Parts of records -/

inductive Presence where
  /-- It must be there. -/
  | required
  /-- It may be null, and in an object it may be missing. -/
  | optional
  /-- It may be null, and it may be missing. -/
  | spare
  /-- It may be missing, but it may not be null. -/
  | defaulted
deriving DecidableEq

def Presence.allowsNull : Presence → Bool
  | .required => false
  | .optional => true
  | .spare => true
  | .defaulted => false

def Presence.allowsEnd : Presence → Bool
  | .required => false
  | .optional => false
  | .spare => true
  | .defaulted => true

structure Part where
  key : String
  presence : Presence
  shape : Shape

def needs (key : String) (shape : Shape) : Part :=
  ⟨key, .required, shape⟩

def allows (key : String) (shape : Shape) : Part :=
  ⟨key, .optional, shape⟩

def spares (key : String) (shape : Shape) : Part :=
  ⟨key, .spare, shape⟩

def defaults (key : String) (shape : Shape) : Part :=
  ⟨key, .defaulted, shape⟩

def Part.read (part : Part) (standing : Standing) (value : Json) :
    Decoded (Option (String × Json)) :=
  match part.presence.allowsNull, value with
  | true, .null => .ok none
  | _, _ => (part.shape standing value).map fun result => some (part.key, result)

def part? (parts : List Part) (key : String) : Option Part :=
  parts.find? fun part => part.key == key

def readMembers (standing : Standing) (parts : List Part) :
    List (String × Json) → Decoded (List (String × Json))
  | [] => .ok []
  | (key, value) :: rest => do
    let found ←
      match part? parts key with
      | none => pure none
      | some part => part.read standing value
    let others ← readMembers standing parts rest
    pure (found.toList ++ others)

def missing? (parts : List Part) (members : List (String × Json)) : Option Part :=
  parts.find? fun part => part.presence = .required && (members.lookup part.key).isNone

def ofMembers (standing : Standing) (parts : List Part) (members : List (String × Json)) :
    Decoded (List (String × Json)) := do
  let found ← readMembers standing parts members
  match missing? parts members with
  | none => pure found
  | some part => .error (.missing part.key)

def elements (number : Nat) : String :=
  Json.digitsText number ++ if number = 1 then " element" else " elements"

def tooLong (standing : Standing) (length expected : Nat) : Misfit :=
  match standing with
  | .alone => .wrongLength length "fewer elements in array"
  | .shared => .wrongLength length (elements expected ++ " in sequence")

/-- Reads the parts of a record from items, where `index` parts were read before. -/
def ofItems (standing : Standing) (expected : String) :
    List Part → Nat → List Json → Decoded (List (String × Json))
  | [], _, [] => .ok []
  | [], index, rest => .error (tooLong standing (index + rest.length) index)
  | part :: parts, index, [] =>
    if part.presence.allowsEnd then ofItems standing expected parts (index + 1) []
    else .error (.wrongLength index expected)
  | part :: parts, index, item :: items => do
    let found ← part.read standing item
    let others ← ofItems standing expected parts (index + 1) items
    pure (found.toList ++ others)

/-! ### Records -/

def record (name : String) (parts : List Part) : Shape
  | standing, .object members => (ofMembers standing parts members).map .object
  | standing, .array items =>
    let expected := "struct " ++ name ++ " with " ++ elements parts.length
    (ofItems standing expected parts 0 items).map fun members => .object (Json.sorted members)
  | _, found => .error (.wrongKind found ("struct " ++ name))

def others (parts : List Part) (members : List (String × Json)) : List (String × Json) :=
  members.filter fun member => (part? parts member.1).isNone

/-- A record that takes in the parts of other records beside its own. It is an object. -/
def composite (name : String) (own : List Part) (groups : List (List Part)) : Shape
  | standing, .object members => do
    let mine ← ofMembers standing own members
    let taken ← groups.mapM fun parts => ofMembers .shared parts (others own members)
    pure (.object (Json.sorted (mine ++ taken.flatten)))
  | _, found => .error (.wrongKind found ("struct " ++ name))

/-- A record that may have any other members of a shape beside its own parts. It is an object. -/
def extensible (name : String) (own : List Part) (rest : Shape) : Shape
  | standing, .object members => do
    let mine ← ofMembers standing own members
    let more ← readEntries .shared anything rest (others own members)
    pure (.object (Json.sorted (mine ++ more)))
  | _, found => .error (.wrongKind found ("struct " ++ name))

end Shape

end TemplateServer
