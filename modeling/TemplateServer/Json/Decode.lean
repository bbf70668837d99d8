import TemplateServer.Json.Number
import TemplateServer.Text.Class
import TemplateServer.Text.Unprintable

/-!
Reading JSON values as something else, with a reason where that fails. In texts that a reason quotes
the characters that do not show as themselves are spelled by number.
-/

namespace TemplateServer

/-! ### Texts quoted in messages -/

namespace Text

def isPrintable (c : Char) : Bool :=
  let code := c.toNat
  if code < 0x80 then 0x20 ≤ code && code < 0x7f else !inRanges unprintableRanges code

def quotedChar (c : Char) : List Char :=
  if c = '\x00' then ['\\', '0']
  else if c = '\t' then ['\\', 't']
  else if c = '\r' then ['\\', 'r']
  else if c = '\n' then ['\\', 'n']
  else if c = '\\' then ['\\', '\\']
  else if c = '"' then ['\\', '"']
  else if isPrintable c then [c]
  else '\\' :: 'u' :: '{' :: Nat.toDigits 16 c.toNat ++ ['}']

def quoted (text : String) : String :=
  String.ofList ('"' :: text.toList.flatMap quotedChar ++ ['"'])

end Text

/-! ### Misfits -/

open Text

def Json.describe : Json → String
  | .null => "null"
  | .bool true => "boolean `true`"
  | .bool false => "boolean `false`"
  | .integer value => "integer `" ++ integerText value ++ "`"
  | .float value => "floating point `" ++ floatText value ++ "`"
  | .string value => "string " ++ quoted value
  | .array _ => "sequence"
  | .object _ => "map"

inductive Misfit where
  /-- It is of another kind than expected. -/
  | wrongKind (found : Json) (expected : String)
  /-- It is of the right kind but cannot be used. -/
  | wrongValue (found : Json) (expected : String)
  /-- It is an array with another number of items than expected. -/
  | wrongLength (length : Nat) (expected : String)
  /-- It is an object without this member. -/
  | missing (key : String)
  /-- It is a word other than those expected. -/
  | unknownWord (word : String) (choices : List String)
  /-- It is a text that cannot be understood. -/
  | obscure (text : String) (reason : String)
  /-- It is none of several things it might be. -/
  | noAlternative (name : String)

def ticked (word : String) : String :=
  "`" ++ word ++ "`"

def choicesText : List String → String
  | [] => "there are no variants"
  | [only] => "expected " ++ ticked only
  | [first, second] => "expected " ++ ticked first ++ " or " ++ ticked second
  | choices => "expected one of " ++ ", ".intercalate (choices.map ticked)

def Misfit.message : Misfit → String
  | .wrongKind found expected => "invalid type: " ++ found.describe ++ ", expected " ++ expected
  | .wrongValue found expected => "invalid value: " ++ found.describe ++ ", expected " ++ expected
  | .wrongLength length expected =>
    "invalid length " ++ Json.digitsText length ++ ", expected " ++ expected
  | .missing key => "missing field " ++ ticked key
  | .unknownWord word choices => "unknown variant " ++ ticked word ++ ", " ++ choicesText choices
  | .obscure text reason => reason ++ ": " ++ quoted text
  | .noAlternative name => "data did not match any variant of untagged enum " ++ name

abbrev Decoded := Except Misfit

namespace Decode

/-! ### Plain values -/

def text : Json → Decoded String
  | .string value => .ok value
  | found => .error (.wrongKind found "a string")

def flag : Json → Decoded Bool
  | .bool value => .ok value
  | found => .error (.wrongKind found "a boolean")

def integer (expected : String) (least bound : Int) : Json → Decoded Int
  | .integer value =>
    if least ≤ value ∧ value < bound then .ok value
    else .error (.wrongValue (.integer value) expected)
  | found => .error (.wrongKind found expected)

def count (value : Json) : Decoded Nat :=
  (integer "u32" 0 0x100000000 value).map Int.toNat

def signed : Json → Decoded Int :=
  integer "i32" (-0x80000000) 0x80000000

def wideSigned : Json → Decoded Int :=
  integer "i64" (-0x8000000000000000) 0x8000000000000000

def word (value : Json) : Decoded UInt64 :=
  (integer "u64" 0 0x10000000000000000 value).map fun number => UInt64.ofNat number.toNat

def single : Json → Decoded Json
  | .integer value => .ok (.integer value)
  | .float value => .ok (.float value)
  | found => .error (.wrongKind found "f32")

def listOf {α : Type} (read : Json → Decoded α) : Json → Decoded (List α)
  | .array items => items.mapM read
  | found => .error (.wrongKind found "a sequence")

/-! ### Members -/

def optional {α : Type} (value : Json) (key : String) (read : Json → Decoded α) :
    Decoded (Option α) :=
  match value.member? key with
  | none => .ok none
  | some found => (read found).map some

def required {α : Type} (value : Json) (key : String) (read : Json → Decoded α) : Decoded α :=
  match value.member? key with
  | none => .error (.missing key)
  | some found => read found

end Decode

end TemplateServer
