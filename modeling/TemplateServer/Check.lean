import TemplateServer.Builtin.Catalogue
import TemplateServer.Diagnostic
import TemplateServer.Expression.Call
import TemplateServer.Grammar.Outline

/-!
Checks of an outline. Each check yields findings, a problem and the bytes it is about; the
diagnostics of a text are its findings in text order.
-/

namespace TemplateServer

open Text Grammar Expression

inductive Problem where
  | strayContent
  | repeatedImport (path label : String)
  | repeatedTemplate (name : String)
  | repeatedParameter (parameter template : String)
  | emptyTemplate (name : String)
  | unclosedExpression (text : String)
  | unknownFunction (name : String)
deriving DecidableEq

namespace Problem

/-- Content that is merely ignored or missing is a warning; all else is an error. -/
def severity : Problem → Severity
  | .strayContent => .warning
  | .repeatedImport _ _ => .warning
  | .repeatedTemplate _ => .error
  | .repeatedParameter _ _ => .error
  | .emptyTemplate _ => .warning
  | .unclosedExpression _ => .error
  | .unknownFunction _ => .error

def message : Problem → String
  | .strayContent => "Content outside of a template definition is ignored"
  | .repeatedImport path label => "Duplicated import of '" ++ path ++ "' as '" ++ label ++ "'"
  | .repeatedTemplate name => "Duplicated definitions found for template: '" ++ name ++ "'"
  | .repeatedParameter parameter template =>
    "Duplicated parameter '" ++ parameter ++ "' in template '" ++ template ++ "'"
  | .emptyTemplate name => "There is no template body in template '" ++ name ++ "'"
  | .unclosedExpression text => "Close \x7d is missing in expression '" ++ text ++ "'"
  | .unknownFunction name => "'" ++ name ++ "' is neither a template nor a builtin function"

end Problem

/-- A problem and the bytes of the text it is about. -/
structure Finding where
  problem : Problem
  start : Nat
  stop : Nat
deriving DecidableEq

namespace Finding

def about (problem : Problem) (piece : Piece) : Finding :=
  ⟨problem, piece.start, piece.stop⟩

def toDiagnostic (text : List Char) (finding : Finding) : Diagnostic :=
  ⟨finding.problem.severity, rangeOf text finding.start finding.stop, finding.problem.message⟩

end Finding

namespace Check

/-- The items of a list whose key some item before them has. -/
def repeats {α β : Type} [DecidableEq β] (key : α → β) (seen : List β) : List α → List α
  | [] => []
  | item :: rest =>
    let others := repeats key (key item :: seen) rest
    if key item ∈ seen then item :: others else others

/-- A line before the first header, up to its last character that shows. -/
def strayFinding (line : Piece) : Finding :=
  .about .strayContent ⟨line.start, trimEnd line.chars⟩

def importFinding (declaration : Import) : Finding :=
  .about
    (.repeatedImport (String.ofList declaration.path) (String.ofList declaration.label))
    declaration.line

/-- A parameter of a template that has another of the same name before it. -/
def parameterFinding (part : Section) (parameter : Piece) : Finding :=
  .about (.repeatedParameter parameter.text part.name) parameter

/-- Whether a called name is known: as it stands or without a qualifier it names a template, or
without a qualifier a builtin function. -/
def resolves (templates : List String) (name : String) : Bool :=
  let bare := Builtin.unqualified name
  templates.contains name || templates.contains bare || (Builtin.find? bare).isSome

def callFinding (call : Piece) : Finding :=
  .about (.unknownFunction call.text) call

def segmentFindings (templates : List String) : Nat × Segment → List Finding
  | (start, .closed content) =>
    ((calls (start + 2) content).filter fun call => !resolves templates call.text).map
      callFinding
  | (start, .unclosed rest) =>
    let expression : Piece := ⟨start, (Segment.unclosed rest).chars⟩
    [.about (.unclosedExpression expression.text) expression]
  | _ => []

def lineFindings (templates : List String) (line : Piece) : List Finding :=
  (locate line.start (segments line.chars)).flatMap (segmentFindings templates)

/-- The findings in one template, where `earlier` are the names of the templates before it and
`templates` those of all templates. -/
def sectionFindings (templates earlier : List String) (part : Section) : List Finding :=
  let repeated :=
    if part.name ∈ earlier then [.about (.repeatedTemplate part.name) part.header.name] else []
  let parameters :=
    (repeats Piece.chars [] part.header.parameters).map (parameterFinding part)
  let hollow :=
    if part.isHollow then [.about (.emptyTemplate part.name) part.header.name] else []
  repeated ++ parameters ++ hollow ++ part.lines.flatMap (lineFindings templates)

/-- The findings in a list of templates that come after those named in `earlier`. -/
def sectionsFindings (templates earlier : List String) : List Section → List Finding
  | [] => []
  | part :: rest =>
    sectionFindings templates earlier part ++
      sectionsFindings templates (part.name :: earlier) rest

def findings (outline : Outline) : List Finding :=
  outline.strays.map strayFinding ++
    (repeats Import.path [] outline.imports).map importFinding ++
      sectionsFindings (outline.sections.map Section.name) [] outline.sections

/-- The diagnostics of an outline, by where they start; those that start together stay in the
order in which they were found. -/
def diagnostics (text : List Char) (outline : Outline) : List Diagnostic :=
  ((findings outline).map (Finding.toDiagnostic text)).mergeSort Diagnostic.startsBefore

end Check

end TemplateServer
