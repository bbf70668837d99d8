import TemplateServer.Document.Store
import TemplateServer.Protocol.Structure.Capability
import TemplateServer.Protocol.Structure.Request
import TemplateServer.Text.Position

/-!
What the parameters of messages say. They are brought into normal form first, so that a part that
must be there is there when it is picked.
-/

namespace TemplateServer.Protocol

open Text Decode

/-! ### Places -/

def pickPosition (normal : Json) : Decoded Position := do
  let line ← required normal "line" count
  let character ← required normal "character" count
  pure ⟨line, character⟩

def pickRange (normal : Json) : Decoded Range := do
  let start ← required normal "start" pickPosition
  let stop ← required normal "end" pickPosition
  pure ⟨start, stop⟩

def pickDocument (normal : Json) : Decoded Uri :=
  required normal "textDocument" fun document => required document "uri" readUri

def pickPlace (normal : Json) : Decoded (Uri × Position) := do
  let uri ← pickDocument normal
  let position ← required normal "position" pickPosition
  pure (uri, position)

def readRange (value : Json) : Decoded Range := do
  pickRange (← Structure.range .alone value)

def readHovering (value : Json) : Decoded (Uri × Position) := do
  pickPlace (← Structure.hovering .alone value)

def readCompleting (value : Json) : Decoded (Uri × Position) := do
  pickPlace (← Structure.completing .alone value)

/-- Reads a completion that an editor sends back; what is not exchanged is left out. -/
def readCompletion : Json → Decoded Json :=
  Structure.completionItem .alone

/-! ### Documents -/

def readOpening (value : Json) : Decoded Document := do
  let normal ← Structure.opening .alone value
  required normal "textDocument" fun item => do
    let uri ← required item "uri" readUri
    let version ← required item "version" signed
    let content ← required item "text" text
    pure ⟨uri, version, content⟩

def readChange (value : Json) : Decoded String := do
  let normal ← Structure.contentChange .alone value
  required normal "text" text

/-- Reads a document that was changed, its version and the texts after each change. -/
def readChanging (value : Json) : Decoded (Uri × Int × List String) := do
  let normal ← Structure.changing .alone value
  let uri ← pickDocument normal
  let version ← required normal "textDocument" fun document =>
    required document "version" signed
  let texts ← required normal "contentChanges" (listOf readChange)
  pure (uri, version, texts)

def readClosing (value : Json) : Decoded Uri := do
  pickDocument (← Structure.closing .alone value)

/-! ### Settings -/

def readConfiguring (value : Json) : Decoded Json := do
  let normal ← Structure.configuring .alone value
  required normal "settings" .ok

/-- Reads the settings that an editor sends when it starts the server, if it sends any. -/
def readInitialization (value : Json) : Decoded (Option Json) := do
  let normal ← Structure.initialization .alone value
  optional normal "initializationOptions" .ok

end TemplateServer.Protocol
