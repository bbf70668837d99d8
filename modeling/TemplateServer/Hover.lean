import TemplateServer.Analysis

/-!
Hovering: what is shown about the word under the cursor.
-/

namespace TemplateServer

open Text

structure Hover where
  contents : List String
  range : Range
deriving DecidableEq

namespace Hover

/-- The template a word refers to: one of that very name, else one of its unqualified name. -/
def template? (templates : List Template) (word : String) : Option Template :=
  (templates.find? fun template => template.name == word).or
    (templates.find? fun template => template.name == Builtin.unqualified word)

def ofTemplate (template : Template) : List String :=
  [template.source, template.body]

/-- A builtin function shows its parameters, its description and what it returns. -/
def ofBuiltin (builtin : Builtin) : List String :=
  ["Parameters: " ++ ", ".intercalate (builtin.parameters.map Parameter.text),
    "Documentation: " ++ builtin.description,
    "ReturnType: " ++ builtin.returns.text]

/-- What a word shows. Templates come before builtin functions. -/
def contents? (templates : List Template) (word : String) : Option (List String) :=
  match template? templates word with
  | some template => some (ofTemplate template)
  | none => (Builtin.find? (Builtin.unqualified word)).map ofBuiltin

/-- The hover at a position of a text, given the templates that can be referred to. -/
def at? (text : String) (templates : List Template) (position : Position) : Option Hover :=
  match wordAt? text.toList position with
  | none => none
  | some word =>
    (contents? templates word.text).map fun contents => ⟨contents, word.range text.toList⟩

end Hover

end TemplateServer
