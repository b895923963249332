namespace IngressProxy

/-- A JSON number: an integer, or a number that is written in another way. -/
inductive Json.Number where
  | integer (n : Int)
  | other (text : String)
  deriving DecidableEq, Repr

/-- A JSON value. Objects keep their fields in the order in which the names were first written; of
equal names the last value counts. -/
inductive Json where
  | null
  | bool (b : Bool)
  | number (n : Json.Number)
  | text (s : String)
  | array (items : List Json)
  | object (fields : List (String × Json))
  deriving Repr, Inhabited

namespace Json

/-- Sets a field, in its place if the name is in use. -/
def setField (name : String) (v : Json) : List (String × Json) → List (String × Json)
  | [] => [(name, v)]
  | f :: rest => if f.1 = name then (name, v) :: rest else f :: setField name v rest

def field? (name : String) : Json → Option Json
  | .object fields => fields.lookup name
  | _ => none

end Json

end IngressProxy
