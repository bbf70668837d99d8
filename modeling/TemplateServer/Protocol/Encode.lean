import TemplateServer.Completion
import TemplateServer.Hover
import TemplateServer.Json.Basic
import TemplateServer.Settings

/-!
The JSON forms in which results are sent to an editor. The members of every object stand in the
order of their keys.
-/

namespace TemplateServer

open Text

def Json.ofNat (value : Nat) : Json :=
  .integer value

def Json.ofStrings (values : List String) : Json :=
  .array (values.map .string)

def Text.Position.toJson (position : Position) : Json :=
  .object
    [("character", .ofNat position.wrapped.character), ("line", .ofNat position.wrapped.line)]

def Text.Range.toJson (range : Range) : Json :=
  .object [("end", range.stop.toJson), ("start", range.start.toJson)]

def Report.toJson (report : Report) : Json :=
  .object
    [("message", .string report.diagnostic.message),
      ("range", report.diagnostic.range.toJson),
      ("severity", .ofNat report.diagnostic.severity.code),
      ("source", .string report.source)]

def Hover.toJson (hover : Hover) : Json :=
  .object [("contents", .ofStrings hover.contents), ("range", hover.range.toJson)]

def Completion.toJson (completion : Completion) : Json :=
  .object
    [("detail", .string completion.detail),
      ("documentation", .string completion.documentation),
      ("insertText", .string completion.insertion),
      ("kind", .ofNat completion.kind.code),
      ("label", .string completion.label)]

def Settings.toJson (settings : Settings) : Json :=
  .object
    [("validation",
      .object [("debounceMs", .ofNat settings.validation.debounceMs.toNat)])]

/-- What the server can do: whole documents are sent on change, and hovering and completion are
offered, the latter also after a dot. -/
def capabilities : Json :=
  .object
    [("completionProvider",
        .object [("resolveProvider", .bool true), ("triggerCharacters", .ofStrings ["."])]),
      ("hoverProvider", .bool true),
      ("textDocumentSync", .object [("change", .ofNat 1), ("openClose", .bool true)])]

def serverName : String :=
  "lg-language-server"

def serverVersion : String :=
  "0.1.0"

def introduction : Json :=
  .object
    [("capabilities", capabilities),
      ("serverInfo",
        .object [("name", .string serverName), ("version", .string serverVersion)])]

end TemplateServer
