import TemplateServer.Diagnostic
import TemplateServer.Grammar.Attempt

/-!
Failures to read a text, and the diagnostics they give.
-/

namespace TemplateServer

open Text

structure Failure where
  offset : Nat
  reason : String
deriving DecidableEq

namespace Failure

def ofAttempts (fault : Grammar.Attempts) : Failure :=
  ⟨fault.offset, fault.reason⟩

def message (failure : Failure) : String :=
  "Syntax error: " ++ failure.reason

/-- The diagnostic of a failure reaches from its offset to the end of the line. -/
def toDiagnostic (text : List Char) (failure : Failure) : Diagnostic :=
  let start := positionOf text failure.offset
  let stop :=
    match lineEnd? text start.line with
    | some lineEnd => positionOf text (max lineEnd failure.offset)
    | none => start
  ⟨.error, ⟨start, stop⟩, failure.message⟩

end Failure

end TemplateServer
