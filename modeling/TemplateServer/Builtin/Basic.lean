/-!
Builtin functions that expressions may call.
-/

namespace TemplateServer

inductive ValueKind where
  | boolean
  | number
  | object
  | string
  | array
deriving DecidableEq

def ValueKind.text : ValueKind → String
  | .boolean => "boolean"
  | .number => "number"
  | .object => "object"
  | .string => "string"
  | .array => "array"

structure Parameter where
  name : String
  type : String
deriving DecidableEq

def Parameter.text (parameter : Parameter) : String :=
  parameter.name ++ ": " ++ parameter.type

structure Builtin where
  name : String
  parameters : List Parameter
  returns : ValueKind
  description : String
deriving DecidableEq

end TemplateServer
