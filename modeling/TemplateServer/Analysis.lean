import TemplateServer.Check
import TemplateServer.Failure

/-!
Analysis of a text: the templates it defines and the diagnostics about it.
-/

namespace TemplateServer

open Text Grammar

structure Template where
  name : String
  parameters : List String
  body : String
  /-- The document that defines it. -/
  source : String
deriving DecidableEq

def Template.ofSection (source : String) (part : Section) : Template :=
  ⟨part.name, part.header.parameters.map Piece.text, part.body, source⟩

structure Reading where
  templates : List Template
  diagnostics : List Diagnostic
deriving DecidableEq

/-- Reads a text. A text that fails to read has one diagnostic and no templates. -/
def Reading.ofText (source text : String) : Reading :=
  match Outline.ofText text.toList with
  | .ok outline =>
    ⟨outline.sections.map (Template.ofSection source), Check.diagnostics text.toList outline⟩
  | .error fault => ⟨[], [(Failure.ofAttempts fault).toDiagnostic text.toList]⟩

structure Analysis where
  templates : List Template
  reports : List Report
deriving DecidableEq

/-- Analyses the text of a document. There is nothing to say about an empty text. -/
def Analysis.ofText (source text : String) : Analysis :=
  if text.isEmpty then
    ⟨[], []⟩
  else
    let reading := Reading.ofText source text
    ⟨reading.templates, reading.diagnostics.map fun diagnostic => ⟨diagnostic, source⟩⟩

end TemplateServer
