import TemplateServer.Text.Position

/-!
Diagnostics: what an editor shows about a range of a document.
-/

namespace TemplateServer

open Text

inductive Severity where
  | error
  | warning
  | information
  | hint
deriving DecidableEq

def Severity.code : Severity → Nat
  | .error => 1
  | .warning => 2
  | .information => 3
  | .hint => 4

structure Diagnostic where
  severity : Severity
  range : Range
  message : String
deriving DecidableEq

def Diagnostic.startsBefore (first second : Diagnostic) : Bool :=
  first.range.start.le second.range.start

structure Report where
  diagnostic : Diagnostic
  source : String
deriving DecidableEq

end TemplateServer
