import TemplateServer.Json.Shape
import TemplateServer.Uri.Basic

/-!
The structures that the parameters of many messages are made of: places in documents, texts and
their changes, reports and commands.
-/

namespace TemplateServer.Protocol

def readUri : Json → Decoded Uri
  | .string value =>
    match Uri.ofText value with
    | .ok uri => .ok uri
    | .error error => .error (.obscure value error.message)
  | found => .error (.wrongKind found "a string representing an URL")

namespace Structure

open Shape

/-! ### Places -/

def uri : Shape :=
  ofReader readUri

def position : Shape :=
  record "Position" [needs "line" count, needs "character" count]

def range : Shape :=
  record "Range" [needs "start" position, needs "end" position]

def location : Shape :=
  record "Location" [needs "uri" uri, needs "range" range]

/-! ### Documents -/

def documentIdentifier : Shape :=
  record "TextDocumentIdentifier" [needs "uri" uri]

def versionedDocument : Shape :=
  record "VersionedTextDocumentIdentifier" [needs "uri" uri, needs "version" signed]

def documentItem : Shape :=
  record "TextDocumentItem"
    [needs "uri" uri, needs "languageId" text, needs "version" signed, needs "text" text]

def contentChange : Shape :=
  record "TextDocumentContentChangeEvent"
    [allows "range" range, allows "rangeLength" count, needs "text" text]

def placeParts : List Part :=
  [needs "textDocument" documentIdentifier, needs "position" position]

/-! ### Progress -/

def token : Shape :=
  oneOf "NumberOrString" [signed, text]

def progressParts : List Part :=
  [allows "workDoneToken" token]

def partialParts : List Part :=
  [allows "partialResultToken" token]

/-! ### Texts -/

def markupKind : Shape :=
  word ["plaintext", "markdown"]

def markup : Shape :=
  record "MarkupContent" [needs "kind" markupKind, needs "value" text]

def documentation : Shape :=
  oneOf "Documentation" [text, markup]

def command : Shape :=
  record "Command"
    [needs "title" text, needs "command" text, allows "arguments" (listOf anything)]

/-! ### Reports -/

def relatedInformation : Shape :=
  record "DiagnosticRelatedInformation" [needs "location" location, needs "message" text]

def codeDescription : Shape :=
  record "CodeDescription" [needs "href" uri]

def diagnostic : Shape :=
  record "Diagnostic"
    [needs "range" range, allows "severity" signed, allows "code" token,
      allows "codeDescription" codeDescription, allows "source" text, needs "message" text,
      allows "relatedInformation" (listOf relatedInformation), allows "tags" (listOf signed),
      allows "data" anything]

end Structure

end TemplateServer.Protocol
