import IngressProxy.Json.Value

namespace IngressProxy.Resource

/-- Reads a JSON value, or answers nothing for one of the wrong shape. A field that is missing and
one that is null are the same; unknown fields are not looked at. -/
abbrev Reader (α : Type) := Json → Option α

namespace Reader

variable {α : Type}

def text : Reader String
  | .text s => some s
  | _ => none

/-- A truth value. -/
def flag : Reader Bool
  | .bool b => some b
  | _ => none

def int32 : Reader Int
  | .number (.integer n) =>
    if Int32.minValue.toInt ≤ n ∧ n ≤ Int32.maxValue.toInt then some n else none
  | _ => none

def object : Reader (List (String × Json))
  | .object fields => some fields
  | _ => none

/-- A list whose items are all readable. -/
def list (r : Reader α) : Reader (List α)
  | .array items => items.mapM r
  | _ => none

def map (r : Reader α) : Reader (List (String × α))
  | .object fields => fields.mapM fun f => (r f.2).map (f.1, ·)
  | _ => none

/-- A value that may be null. -/
def optional (r : Reader α) : Reader (Option α)
  | .null => some none
  | v => (r v).map some

/-- A value that is `d` if it is null. -/
def orElse (d : α) (r : Reader α) : Reader α
  | .null => some d
  | v => r v

end Reader

/-- Reads a field of an object, as null if it is missing. -/
def field {α : Type} (fields : List (String × Json)) (name : String) (r : Reader α) : Option α :=
  r ((fields.lookup name).getD .null)

/-- An object's kind: if it names an API version or a kind, they are the expected ones. -/
def checkKind (fields : List (String × Json)) (apiVersion kind : String) : Option Unit :=
  let isText (name expected : String) : Bool :=
    match fields.lookup name with
    | none => true
    | some (.text s) => s = expected
    | some _ => false
  if isText "apiVersion" apiVersion && isText "kind" kind then some () else none

end IngressProxy.Resource
