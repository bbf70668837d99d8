import TemplateServer.Protocol.Encode

/-!
Command-line arguments.
-/

namespace TemplateServer.CommandLine

inductive NumberError where
  | empty
  | invalidDigit
  | tooLarge
deriving DecidableEq

def NumberError.message : NumberError → String
  | .empty => "cannot parse integer from empty string"
  | .invalidDigit => "invalid digit found in string"
  | .tooLarge => "number too large to fit in target type"

def appendDigits : List Char → Nat → Except NumberError UInt64
  | [], value => .ok (UInt64.ofNat value)
  | c :: rest, value =>
    if !c.isDigit then
      .error .invalidDigit
    else
      let next := value * 10 + (c.toNat - '0'.toNat)
      if next ≤ Json.largest then appendDigits rest next else .error .tooLarge

def number (text : String) : Except NumberError UInt64 :=
  match text.toList with
  | [] => .error .empty
  | ['+'] => .error .invalidDigit
  | '+' :: digits => appendDigits digits 0
  | digits => appendDigits digits 0

inductive Switch where
  | stdio
  | debounce
  | help
  | version
deriving DecidableEq

def Switch.text : Switch → String
  | .stdio => "--stdio"
  | .debounce => "--debounce-ms <DEBOUNCE_MS>"
  | .help => "--help"
  | .version => "--version"

inductive ArgumentError where
  | unexpected (argument : String)
  | repeated (option : Switch)
  | unneededValue (value : String) (option : Switch)
  | missingValue (option : Switch)
  | invalidValue (value : String) (option : Switch) (reason : NumberError)
deriving DecidableEq

def ArgumentError.message : ArgumentError → String
  | .unexpected argument => "unexpected argument '" ++ argument ++ "' found"
  | .repeated option => "the argument '" ++ option.text ++ "' cannot be used multiple times"
  | .unneededValue value option =>
    "unexpected value '" ++ value ++ "' for '" ++ option.text
      ++ "' found; no more were expected"
  | .missingValue option =>
    "a value is required for '" ++ option.text ++ "' but none was supplied"
  | .invalidValue value option reason =>
    "invalid value '" ++ value ++ "' for '" ++ option.text ++ "': " ++ reason.message

inductive Request where
  /-- Serve an editor, with these settings to start from. -/
  | serve (settings : Settings)
  | help
  | version
deriving DecidableEq

inductive Awaited where
  | nothing
  | value
  | given (text : String)
deriving DecidableEq

structure Progress where
  stdio : Bool := false
  debounce : Option UInt64 := none
  awaited : Awaited := .nothing
deriving DecidableEq

namespace Progress

def setDebounce (text : String) (progress : Progress) : Except ArgumentError Progress :=
  if progress.debounce.isSome then
    .error (.repeated .debounce)
  else
    match number text with
    | .ok value => .ok { progress with debounce := some value, awaited := .nothing }
    | .error reason => .error (.invalidValue text .debounce reason)

def conclude (progress : Progress) : Except ArgumentError Progress :=
  match progress.awaited with
  | .nothing => .ok progress
  | .value => .error (.missingValue .debounce)
  | .given text => progress.setDebounce text

def settings (progress : Progress) : Settings :=
  match progress.debounce with
  | some value => ⟨⟨value⟩⟩
  | none => {}

end Progress

def splitOption (text : List Char) : String × Option String :=
  (String.ofList (text.takeWhile (· != '=')),
    match text.dropWhile (· != '=') with
    | [] => none
    | _ :: value => some (String.ofList value))

def withoutValue (option : Switch) : Option String → Except ArgumentError Unit
  | none => .ok ()
  | some value => .error (.unneededValue value option)

inductive Reaction where
  | go (progress : Progress)
  | stop (request : Request)

def longOption (name : String) (value : Option String) (progress : Progress) :
    Except ArgumentError Reaction := do
  match name with
  | "stdio" =>
    withoutValue .stdio value
    let progress ← progress.conclude
    if progress.stdio then .error (.repeated .stdio)
    else pure (.go { progress with stdio := true })
  | "debounce-ms" =>
    let progress ← progress.conclude
    match value with
    | some text => return .go (← progress.setDebounce text)
    | none => pure (.go { progress with awaited := .value })
  | "help" =>
    withoutValue .help value
    let _ ← progress.conclude
    pure (.stop .help)
  | "version" =>
    withoutValue .version value
    let _ ← progress.conclude
    pure (.stop .version)
  | _ => .error (.unexpected ("--" ++ name))

def shortOption (letter : Char) (progress : Progress) : Except ArgumentError Reaction := do
  match letter with
  | 'h' =>
    let _ ← progress.conclude
    pure (.stop .help)
  | 'V' =>
    let _ ← progress.conclude
    pure (.stop .version)
  | _ => .error (.unexpected (String.ofList ['-', letter]))

def operand (argument : String) (progress : Progress) : Except ArgumentError Reaction :=
  if progress.awaited = .value then .ok (.go { progress with awaited := .given argument })
  else .error (.unexpected argument)

def react (argument : String) (progress : Progress) : Except ArgumentError Reaction :=
  match argument.toList with
  | '-' :: '-' :: rest =>
    let (name, value) := splitOption rest
    longOption name value progress
  | '-' :: letter :: _ => shortOption letter progress
  | _ => operand argument progress

/-- Reads arguments after some that were taken in already. Nothing may follow two dashes that
stand alone. -/
def readFrom (progress : Progress) : List String → Except ArgumentError Request
  | [] => progress.conclude.map fun progress => .serve progress.settings
  | "--" :: rest =>
    match rest with
    | [] => progress.conclude.map fun progress => .serve progress.settings
    | argument :: _ => .error (.unexpected argument)
  | argument :: rest => do
    match ← react argument progress with
    | .go progress => readFrom progress rest
    | .stop request => pure request

def read (arguments : List String) : Except ArgumentError Request :=
  readFrom {} arguments

def helpText : String :=
  "Language Server Protocol implementation for LG (Language Generation) template files\n\n"
    ++ "Usage: " ++ serverName ++ " [OPTIONS]\n\n"
    ++ "Options:\n"
    ++ "      --stdio                      "
    ++ "Communicate over stdin/stdout (the only supported transport)\n"
    ++ "      --debounce-ms <DEBOUNCE_MS>  "
    ++ "Quiet period in milliseconds before an edited document is re-validated [default: 500]\n"
    ++ "  -h, --help                       Print help\n"
    ++ "  -V, --version                    Print version\n"

def versionText : String :=
  serverName ++ " " ++ serverVersion ++ "\n"

def errorLine (error : ArgumentError) : String :=
  "error: " ++ error.message

end TemplateServer.CommandLine
