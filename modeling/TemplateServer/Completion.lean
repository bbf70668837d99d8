import TemplateServer.Analysis

/-!
Completion: every template of a document and every builtin function, each with a call that can be
inserted.
-/

namespace TemplateServer

inductive CompletionKind where
  | template
  | builtin
deriving DecidableEq

def CompletionKind.code : CompletionKind → Nat
  | .template => 18
  | .builtin => 3

structure Completion where
  label : String
  kind : CompletionKind
  detail : String
  documentation : String
  insertion : String
deriving DecidableEq

namespace Completion

def call (name : String) (arguments : List String) : String :=
  name ++ "(" ++ ", ".intercalate arguments ++ ")"

/-- A template is inserted as a call, or as its bare name if it takes no parameters. -/
def ofTemplate (template : Template) : Completion where
  label := template.name
  kind := .template
  detail := "Template"
  documentation := template.body
  insertion :=
    if template.parameters.isEmpty then template.name else call template.name template.parameters

def ofBuiltin (builtin : Builtin) : Completion where
  label := builtin.name
  kind := .builtin
  detail := "Builtin function, returns " ++ builtin.returns.text
  documentation := builtin.description
  insertion := call builtin.name (builtin.parameters.map Parameter.name)

/-- The templates in their order, then the builtin functions in theirs. -/
def all (templates : List Template) : List Completion :=
  templates.map ofTemplate ++ Builtin.all.map ofBuiltin

end Completion

end TemplateServer
