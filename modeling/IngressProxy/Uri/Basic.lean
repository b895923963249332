import IngressProxy.Uri.Authority
import IngressProxy.Uri.Target

namespace IngressProxy

/-- A URI in one of the four forms that a request may use: a target alone, a whole URI, an authority
alone, and the star. -/
structure Uri where
  scheme : Option String := none
  authority : Option Authority := none
  target : Target := Target.blank
  deriving DecidableEq, Repr, Inhabited

namespace Uri

def maxLength : Nat := 65534

def maxSchemeLength : Nat := 64

def isSchemeChar (c : Char) : Bool := c.isAlphanum || c = '+' || c = '-' || c = '.' || c = '~'

/-- Splits a scheme from the front of a text, if `://` follows it. The two schemes of the web are
written in lower case. -/
def splitScheme (cs : List Char) : Except UriError (Option (String × List Char)) :=
  let name := cs.takeWhile isSchemeChar
  match cs.dropWhile isSchemeChar with
  | ':' :: '/' :: '/' :: rest =>
    let lower := String.ofList (name.map Char.toLower)
    if lower = "http" ∨ lower = "https" then .ok (some (lower, rest))
    else if name.length > maxSchemeLength then .error .schemeTooLong
    else .ok (some (String.ofList name, rest))
  | _ => .ok none

/-- Reads a text that does not start with a slash. -/
def parseFull (cs : List Char) : Except UriError Uri := do
  match ← splitScheme cs with
  | none =>
    let (front, rest) ← Authority.split cs
    if rest.isEmpty then .ok { authority := some ⟨String.ofList front⟩ }
    else .error .invalidFormat
  | some (scheme, cs) =>
    if cs.isEmpty then .error .empty
    let (front, rest) ← Authority.split cs
    if front.isEmpty then .error .invalidFormat
    let target ← Target.read rest
    .ok { scheme := some scheme, authority := some ⟨String.ofList front⟩, target }

def parse (s : String) : Except UriError Uri :=
  if s.utf8ByteSize > maxLength then .error .tooLong
  else
    match s.toList with
    | [] => .error .empty
    | ['*'] => .ok { target := ⟨"*", none⟩ }
    | '/' :: cs => (Target.read ('/' :: cs)).map fun t => { target := t }
    | [c] => (Authority.parse (String.singleton c)).map fun a => { authority := some a }
    | cs => parseFull cs

/-- The path by which a request is routed. An authority alone has none. -/
def path (u : Uri) : String :=
  if u.target = Target.blank && u.scheme.isNone then "" else u.target.path

/-- Path and query of a request. An authority alone has none. -/
def target? (u : Uri) : Option Target :=
  if u.scheme.isSome || u.authority.isNone then some u.target else none

def render (u : Uri) : String :=
  (match u.scheme with
    | none => ""
    | some s => s ++ "://") ++
  (match u.authority with
    | none => ""
    | some a => a.text) ++
  u.path ++
  (match u.target.query with
    | none => ""
    | some q => "?" ++ q)

end Uri

end IngressProxy
