import TemplateServer.Uri.Host
import TemplateServer.Uri.Path

/-!
Addresses of documents. Addresses are compared in a normal form, in which the scheme and the host
are in lower case, dots in the path are resolved, and escapes are written the same way.
-/

namespace TemplateServer

structure Uri where
  text : String
deriving DecidableEq

namespace Uri

/-! ### Schemes -/

inductive Scheme where
  /-- A file on some host. -/
  | file
  /-- A web address, with the socket number that need not be written. -/
  | web (usual : Nat)
  /-- Any other address. -/
  | other
deriving DecidableEq

def Scheme.ofName (name : String) : Scheme :=
  match name with
  | "file" => .file
  | "http" => .web 80
  | "https" => .web 443
  | "ws" => .web 80
  | "wss" => .web 443
  | "ftp" => .web 21
  | _ => .other

def isSchemeChar (c : Char) : Bool :=
  c.isAlphanum || c == '+' || c == '-' || c == '.'

/-- Splits an address into its scheme, in lower case, and what follows the colon. -/
def splitScheme? (text : List Char) : Option (List Char × List Char) :=
  match text.takeWhile isSchemeChar, text.dropWhile isSchemeChar with
  | first :: name, ':' :: rest =>
    if first.isAlpha then some ((first :: name).map Char.toLower, rest) else none
  | _, _ => none

/-! ### Query and fragment -/

/-- The query and the fragment of an address, from the question mark or number sign that starts
them on. -/
def tail (web : Bool) : List Char → List Char
  | '?' :: rest =>
    let query := rest.takeWhile (· != '#')
    let fragment :=
      match rest.dropWhile (· != '#') with
      | [] => []
      | _ :: text => '#' :: escape inFragment text
    '?' :: escape (inQuery web) query ++ fragment
  | '#' :: rest => '#' :: escape inFragment rest
  | _ => []

def endsPath (c : Char) : Bool :=
  c == '?' || c == '#'

/-- Whether a character separates segments: in web and file addresses a backslash does, too. -/
def separatesSegments (web : Bool) (c : Char) : Bool :=
  c == '/' || (web && c == '\\')

/-- The path, query and fragment of an address that has a host, web addresses excepted if they
have no path: theirs is then a slash. -/
def pathAndTail (web : Bool) (text : List Char) : List Char :=
  let path := text.takeWhile fun c => !endsPath c
  let segments := pathSegments false (separatesSegments web) path
  (if path.isEmpty && !web then [] else joinPath segments)
    ++ tail web (text.dropWhile fun c => !endsPath c)

/-! ### Authority -/

def splitUser? (authority : List Char) : Option (List Char × List Char) :=
  match (authority.reverse.dropWhile (· != '@')) with
  | [] => none
  | _ :: user => some (user.reverse, (authority.reverse.takeWhile (· != '@')).reverse)

/-- User information with its at sign. An empty password is dropped, and so is empty user
information. -/
def userText (user : List Char) : List Char :=
  let name := escape inUser (user.takeWhile (· != ':'))
  let password := escape inUser ((user.dropWhile (· != ':')).drop 1)
  let text := name ++ if password.isEmpty then [] else ':' :: password
  if text.isEmpty then [] else text ++ ['@']

/-- Splits a host from the colon of its socket number. Colons in brackets belong to the host. -/
def splitSocket (inBrackets : Bool) : List Char → List Char × List Char
  | [] => ([], [])
  | c :: rest =>
    if c == ':' && !inBrackets then
      ([], c :: rest)
    else
      let parts := splitSocket (c == '[' || (inBrackets && c != ']')) rest
      (c :: parts.1, parts.2)

/-- Reads a socket number after its colon. The number that need not be written is dropped. -/
def socketText (usual : Option Nat) (digits : List Char) : Except UriError (List Char) :=
  if digits.isEmpty then
    .ok []
  else
    match ofDigits? 10 digits with
    | none => .error .invalidSocket
    | some socket =>
      if 65535 < socket then .error .invalidSocket
      else if usual = some socket then .ok []
      else .ok (':' :: decimal socket)

/-- Splits user information, as it is written, from the rest of an authority. An at sign with
nothing before it counts for nothing, but a path may not follow it. -/
def authorityUser (authority rest : List Char) : Except UriError (List Char × List Char) :=
  match splitUser? authority with
  | none => .ok ([], authority)
  | some ([], name) =>
    if name.isEmpty && !rest.isEmpty then .error .emptyHost else .ok ([], name)
  | some (user, name) => .ok (userText user, name)

/-- Reads a host with its socket number, and returns what follows the number: in addresses that are
not of the web, a backslash ends it. -/
def hostText (scheme : Scheme) (text : List Char) : Except UriError (List Char × List Char) := do
  let (name, socket) := splitSocket false text
  let usual :=
    match scheme with
    | .web usual => some usual
    | _ => none
  if name.isEmpty && (usual.isSome || !socket.isEmpty) then
    .error .emptyHost
  else
    let host ← if usual.isSome then webHost name else plainHost name
    let digits := (socket.drop 1).takeWhile (· != '\\')
    let number ← socketText usual digits
    pure (host ++ number, (socket.drop 1).dropWhile (· != '\\'))

def withAuthority (scheme : Scheme) (text : List Char) : Except UriError (List Char) := do
  let web := scheme != .other
  let ends := fun c => separatesSegments web c || endsPath c
  let rest := text.dropWhile fun c => !ends c
  let (user, name) ← authorityUser (text.takeWhile fun c => !ends c) rest
  let (host, more) ← hostText scheme name
  if host.isEmpty && !user.isEmpty then
    .error .emptyHost
  else
    pure ('/' :: '/' :: user ++ host ++ pathAndTail web (more ++ rest))

/-! ### Kinds of addresses -/

def filePath (segments : List (List Char)) : List Char :=
  match segments.dropWhile List.isEmpty with
  | [] => ['/']
  | first :: rest => joinPath (first :: rest)

/-- A file address on a host, which may be empty. A file at a drive has no host. -/
def onHost (host text : List Char) : List Char :=
  let segments :=
    pathSegments true (separatesSegments true) (text.takeWhile fun c => !endsPath c)
  let atDrive := (segments.head?.map isDriveLetter).getD false
  '/' :: '/' :: (if atDrive then [] else host) ++ filePath segments
    ++ tail true (text.dropWhile fun c => !endsPath c)

/-- Reads a file address from after its colon. The local host is left out; the path behind a host
that is left out has an empty segment in front, so that no drive stands there. -/
def fileAddress (text : List Char) : Except UriError (List Char) := do
  match text with
  | first :: second :: rest =>
    if separatesSegments true first && separatesSegments true second then
      let ends := fun c => separatesSegments true c || endsPath c
      let name := rest.takeWhile fun c => !ends c
      let more := rest.dropWhile fun c => !ends c
      if isDriveLetter name then
        pure (onHost [] rest)
      else if name.isEmpty then
        pure (onHost [] ('/' :: more))
      else
        let host ← webHost name
        if host = "localhost".toList then pure (onHost [] ('/' :: more))
        else pure (onHost host more)
    else
      pure (onHost [] text)
  | _ => pure (onHost [] text)

/-- Reads an address of a kind that is neither web nor file from after its colon. A path that does
not start with a slash has no structure. -/
def otherAddress : List Char → Except UriError (List Char)
  | '/' :: '/' :: rest => withAuthority .other rest
  | '/' :: rest =>
    let path := joinPath
      (pathSegments false (separatesSegments false) ('/' :: rest.takeWhile fun c => !endsPath c))
    let guarded := if ['/', '/'].isPrefixOf path then '/' :: '.' :: path else path
    .ok (guarded ++ tail false (rest.dropWhile fun c => !endsPath c))
  | text =>
    .ok (escape nowhere (text.takeWhile fun c => !endsPath c)
      ++ tail false (text.dropWhile fun c => !endsPath c))

/-- The characters of an address that count: blanks and controls at its ends do not, and neither
do tabs and line breaks anywhere. -/
def significant (text : List Char) : List Char :=
  let isMargin := fun c : Char => c.toNat ≤ 0x20
  ((text.dropWhile isMargin).reverse.dropWhile isMargin).reverse.filter fun c =>
    c != '\t' && c != '\n' && c != '\r'

def ofText (text : String) : Except UriError Uri :=
  match splitScheme? (significant text.toList) with
  | none => .error .relative
  | some (name, rest) =>
    let address :=
      match Scheme.ofName (String.ofList name) with
      | .file => fileAddress rest
      | .web usual => withAuthority (.web usual) (rest.dropWhile (separatesSegments true))
      | .other => otherAddress rest
    address.map fun address => ⟨String.ofList (name ++ ':' :: address)⟩

end Uri

end TemplateServer
