import TemplateServer.Json.Number

/-!
Writing JSON without blanks between tokens.
-/

namespace TemplateServer.Json

def hexText (width value : Nat) : String :=
  let digits := Nat.toDigits 16 value
  String.ofList (List.replicate (width - digits.length) '0' ++ digits)

def charText (c : Char) : String :=
  if c = '"' then "\\\""
  else if c = '\\' then "\\\\"
  else if c = '\n' then "\\n"
  else if c = '\r' then "\\r"
  else if c = '\t' then "\\t"
  else if c = '\x08' then "\\b"
  else if c = '\x0c' then "\\f"
  else if c.toNat < 0x20 then "\\u" ++ hexText 4 c.toNat
  else c.toString

def stringText (text : String) : String :=
  "\"" ++ String.join (text.toList.map charText) ++ "\""

mutual

def render : Json → String
  | null => "null"
  | bool true => "true"
  | bool false => "false"
  | integer value => integerText value
  | float value => floatText value
  | string value => stringText value
  | array items => "[" ++ renderItems items ++ "]"
  | object members => "\x7b" ++ renderMembers members ++ "\x7d"

def renderItems : List Json → String
  | [] => ""
  | [item] => render item
  | item :: rest => render item ++ "," ++ renderItems rest

def renderMembers : List (String × Json) → String
  | [] => ""
  | [(key, value)] => stringText key ++ ":" ++ render value
  | (key, value) :: rest => stringText key ++ ":" ++ render value ++ "," ++ renderMembers rest

end

end TemplateServer.Json
