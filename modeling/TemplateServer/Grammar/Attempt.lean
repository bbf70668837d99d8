/-!
Rules of the grammar of template files, and the account that a failed reading gives of itself: the
furthest place where a rule was tried in vain, with the rules that were tried there. Rules that were
wanted there are expected, rules that were to be kept out are unexpected.
-/

namespace TemplateServer.Grammar

/-- The rules of the grammar in their order, after the one that stands for the end of the text. -/
inductive Rule where
  | finish
  | blank
  | lineEnd
  | rest
  | file
  | line
  | header
  | name
  | parameters
  | parameter
  | imported
  | label
  | path
  | comment
  | body
deriving DecidableEq

namespace Rule

def all : List Rule :=
  [.finish, .blank, .lineEnd, .rest, .file, .line, .header, .name, .parameters, .parameter,
    .imported, .label, .path, .comment, .body]

def description : Rule → String
  | .header => "a template definition"
  | .name => "a template name"
  | .parameters => "a parameter list"
  | .parameter => "a parameter name"
  | .imported => "an import"
  | .label => "an import label"
  | .path => "an import path"
  | .comment => "a comment"
  | .body => "a template body line"
  | .finish => "end of line"
  | .blank => "ws"
  | .lineEnd => "line_end"
  | .rest => "rest"
  | .file => "file"
  | .line => "line"

/-- The rules of a list in their order, each of them once. -/
def ordered (rules : List Rule) : List Rule :=
  all.filter (· ∈ rules)

theorem ordered_sublist (rules : List Rule) : (ordered rules).Sublist all :=
  List.filter_sublist

theorem mem_ordered {rule : Rule} {rules : List Rule} : rule ∈ ordered rules ↔ rule ∈ rules := by
  have listed : rule ∈ all := by
    cases rule <;> decide
  unfold ordered
  rw [List.mem_filter, decide_eq_true_iff]
  exact and_iff_right listed

def enumerate (rules : List Rule) : String :=
  match (ordered rules).map description with
  | [one] => one
  | [first, second] => first ++ " or " ++ second
  | several => ", ".intercalate several.dropLast ++ ", or " ++ several.getLastD ""

end Rule

/-- The rules tried in vain at the furthest place so far, as they were tried. -/
structure Attempts where
  offset : Nat
  expected : List Rule
  unexpected : List Rule
deriving DecidableEq

namespace Attempts

def none : Attempts :=
  ⟨0, [], []⟩

def reason (attempts : Attempts) : String :=
  match attempts.unexpected, attempts.expected with
  | [], [] => "unknown parsing error"
  | [], expected => "expected " ++ Rule.enumerate expected
  | unexpected, [] => "unexpected " ++ Rule.enumerate unexpected
  | unexpected, expected =>
    "unexpected " ++ Rule.enumerate unexpected ++ "; expected " ++ Rule.enumerate expected

end Attempts

end TemplateServer.Grammar
