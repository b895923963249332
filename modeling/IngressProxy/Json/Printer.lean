import IngressProxy.Json.Value
import IngressProxy.Text.Hex

namespace IngressProxy.Json

/-- Four hexadecimal digits of a number below 65536. -/
def fourDigits (n : Nat) : String :=
  String.ofList [Hex.digit (n / 4096), Hex.digit (n / 256 % 16), Hex.digit (n / 16 % 16),
    Hex.digit (n % 16)]

def escapeChar (c : Char) : String :=
  if c = '"' then "\\\""
  else if c = '\\' then "\\\\"
  else if c < ' ' then "\\u" ++ fourDigits c.toNat
  else String.singleton c

def quote (s : String) : String :=
  s.toList.foldl (fun acc c => acc ++ escapeChar c) "\"" ++ "\""

def numberText : Number → String
  | .integer n => toString n
  | .other written => written

mutual

def renderTo (acc : String) : Json → String
  | .null => acc ++ "null"
  | .bool b => acc ++ if b then "true" else "false"
  | .number n => acc ++ numberText n
  | .text s => acc ++ quote s
  | .array items => renderItems (acc ++ "[") true items ++ "]"
  | .object fields => renderFields (acc ++ "\x7b") true fields ++ "\x7d"

def renderItems (acc : String) (first : Bool) : List Json → String
  | [] => acc
  | v :: rest => renderItems (renderTo (if first then acc else acc ++ ",") v) false rest

def renderFields (acc : String) (first : Bool) : List (String × Json) → String
  | [] => acc
  | (name, v) :: rest =>
    renderFields (renderTo ((if first then acc else acc ++ ",") ++ quote name ++ ":") v) false rest

end

def render (v : Json) : String := renderTo "" v

end IngressProxy.Json
