import TemplateServer.Uri.Ip
import TemplateServer.Uri.Label

/-!
Hosts of addresses.
-/

namespace TemplateServer.Uri

def isForbiddenInDomain (c : Char) : Bool :=
  c.toNat ≤ 0x20 || c.toNat == 0x7f || c == '#' || c == '%' || c == '/' || c == ':' || c == '<'
    || c == '>' || c == '?' || c == '@' || c == '[' || c == '\\' || c == ']' || c == '^'
    || c == '|'

def isForbiddenInHost (c : Char) : Bool :=
  c == '\x00' || c == '\t' || c == '\n' || c == '\r' || c == ' ' || c == '#' || c == '/'
    || c == ':' || c == '<' || c == '>' || c == '?' || c == '@' || c == '[' || c == '\\'
    || c == ']' || c == '^' || c == '|'

def bracketed (inside : List Char) : Except UriError (List Char) :=
  if inside.getLast? = some ']' then ipv6 inside.dropLast else .error .invalidIpv6

/-- A domain in ASCII and in its normal spelling; none if it is not well formed. -/
def asciiDomain? (text : List Char) : Option (List Char) :=
  match mappedAll? text with
  | none => none
  | some mapped =>
    if mapped.any isForbiddenInDomain then none
    else (readLabels? mapped).map fun labels => ['.'].intercalate (labels.map asciiLabel)

def domain (text : List Char) : Except UriError (List Char) :=
  match asciiDomain? text with
  | none => .error .invalidDomain
  | some name =>
    if name.isEmpty then .error .emptyHost
    else if endsInNumber name then ipv4 name
    else .ok name

def webHost : List Char → Except UriError (List Char)
  | '[' :: inside => bracketed inside
  | text =>
    match String.fromUTF8? ⟨(unescape text).toArray⟩ with
    | some decoded => domain decoded.toList
    | none => .error .invalidDomain

def plainHost : List Char → Except UriError (List Char)
  | '[' :: inside => bracketed inside
  | text =>
    if text.any isForbiddenInHost then .error .invalidDomainCharacter
    else .ok (escape nowhere text)

end TemplateServer.Uri
