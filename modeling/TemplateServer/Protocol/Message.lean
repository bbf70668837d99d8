import TemplateServer.Json.Shape
import TemplateServer.Json.Writer
import TemplateServer.Protocol.Encode
import TemplateServer.Session

/-!
Messages between the editor and the server.
-/

namespace TemplateServer.Protocol

open Validation

/-! ### Messages from the editor -/

inductive RequestId where
  | number (value : Int)
  | text (value : String)
  | null
deriving DecidableEq

def RequestId.toJson : RequestId → Json
  | .number value => .integer value
  | .text value => .string value
  | .null => .null

def RequestId.ofJson : Json → Decoded RequestId
  | .null => .ok .null
  | .string value => .ok (.text value)
  | value =>
    match Decode.wideSigned value with
    | .ok integer => .ok (.number integer)
    | .error _ => .error (.noAlternative "Id")

structure Message where
  method : String
  params : Option Json
  id : Option RequestId

namespace Message

def readVersion : Json → Decoded Unit
  | .string "2.0" => .ok ()
  | .string other => .error (.unknownWord other ["2.0"])
  | found => .error (.wrongKind found "a string")

def version : Shape :=
  Shape.ofReader readVersion

def shape : Shape :=
  Shape.record "Request"
    [Shape.needs "jsonrpc" version, Shape.defaults "method" Shape.text,
      Shape.defaults "params" Shape.anything,
      Shape.defaults "id" (Shape.ofReader RequestId.ofJson)]

def ofJson (value : Json) : Decoded Message := do
  let normal ← shape .alone value
  let method ← Decode.optional normal "method" Decode.text
  let id ← Decode.optional normal "id" RequestId.ofJson
  pure ⟨method.getD "", normal.member? "params", id⟩

def ofJson? (value : Json) : Option Message :=
  (ofJson value).toOption

def failure : Shape :=
  Shape.record "Error"
    [Shape.needs "code" (Shape.ofReader Decode.wideSigned), Shape.needs "message" Shape.text,
      Shape.allows "data" Shape.anything]

def answer (part : Shape.Part) : Shape :=
  Shape.composite "Response"
    [Shape.needs "jsonrpc" version, Shape.needs "id" (Shape.ofReader RequestId.ofJson)] [[part]]

def isAnswer (value : Json) : Bool :=
  (answer (Shape.needs "result" Shape.anything) .shared value).toBool
    || (answer (Shape.needs "error" failure) .shared value).toBool

end Message

inductive Incoming where
  /-- A request or notification. -/
  | message (message : Message)
  /-- An answer. The server asks nothing, so it has no use for one. -/
  | answer
  /-- Something else. -/
  | unreadable

def Incoming.ofJson (value : Json) : Incoming :=
  if Message.isAnswer value then .answer
  else
    match Message.ofJson? value with
    | some sent => .message sent
    | none => .unreadable

/-! ### Refusals -/

inductive Refusal where
  | malformed
  | notStarted
  | invalidRequest
  /-- The method is not offered, or not even known; then its name is sent back. -/
  | unknownMethod (name : Option String)
  | missingParams
  | unexpectedParams (params : Json)
  | invalidParams (reason : Misfit)

namespace Refusal

def code : Refusal → Int
  | .malformed => -32700
  | .notStarted => -32002
  | .invalidRequest => -32600
  | .unknownMethod _ => -32601
  | .missingParams => -32602
  | .unexpectedParams _ => -32602
  | .invalidParams _ => -32602

def message : Refusal → String
  | .malformed => "Parse error"
  | .notStarted => "Server not initialized"
  | .invalidRequest => "Invalid request"
  | .unknownMethod _ => "Method not found"
  | .missingParams => "Missing params field"
  | .unexpectedParams params => "Unexpected params: " ++ params.render
  | .invalidParams reason => reason.message

def data? : Refusal → Option String
  | .unknownMethod name => name
  | _ => none

def toJson (refusal : Refusal) : Json :=
  .ofMembers
    [("code", some (.integer refusal.code)), ("message", some (.string refusal.message)),
      ("data", refusal.data?.map .string)]

end Refusal

/-! ### Messages to the editor -/

def response (id : RequestId) : Except Refusal Json → Json
  | .ok result => .object [("jsonrpc", .string "2.0"), ("result", result), ("id", id.toJson)]
  | .error refusal =>
    .object [("jsonrpc", .string "2.0"), ("error", refusal.toJson), ("id", id.toJson)]

def notification (method : String) (params : Json) : Json :=
  .object [("jsonrpc", .string "2.0"), ("method", .string method), ("params", params)]

def logNotification (message : LogMessage) : Json :=
  notification "window/logMessage"
    (.object [("message", .string message.text), ("type", .ofNat 2)])

def publicationNotification (publication : Publication) : Json :=
  notification "textDocument/publishDiagnostics"
    (.ofMembers
      [("diagnostics", some (.array (publication.notice.reports.map Report.toJson))),
        ("uri", some (.string publication.uri.text)),
        ("version", publication.notice.version.map .integer)])

end TemplateServer.Protocol
