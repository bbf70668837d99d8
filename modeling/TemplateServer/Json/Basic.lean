/-!
JSON values. Whole numbers within 64 bits and floating-point numbers are kept apart, because
settings are checked for which of the two was written.
-/

namespace TemplateServer

/-- A JSON value. The members of an object that was read are in the order of their keys. -/
inductive Json where
  | null
  | bool (value : Bool)
  | integer (value : Int)
  | float (value : Float)
  | string (value : String)
  | array (items : List Json)
  | object (members : List (String × Json))

namespace Json

instance : Inhabited Json := ⟨null⟩

def member? (key : String) : Json → Option Json
  | object members => members.lookup key
  | _ => none

/-- Adds a member to those of an object, which are in the order of their keys. A key that is there
already takes the new value. -/
def insert (key : String) (value : Json) : List (String × Json) → List (String × Json)
  | [] => [(key, value)]
  | (other, old) :: rest =>
    if key < other then (key, value) :: (other, old) :: rest
    else if key = other then (key, value) :: rest
    else (other, old) :: insert key value rest

def sorted (members : List (String × Json)) : List (String × Json) :=
  members.foldl (fun others member => insert member.1 member.2 others) []

def ofMembers (members : List (String × Option Json)) : Json :=
  object (members.filterMap fun pair => pair.2.map fun value => (pair.1, value))

end Json

end TemplateServer
