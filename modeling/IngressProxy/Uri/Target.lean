import IngressProxy.Uri.Error

namespace IngressProxy

/-- A path and what follows its question mark, as written. The path is empty where a text starts
with the question mark. -/
structure Target where
  pathText : String
  query : Option String := none
  deriving DecidableEq, Repr, Inhabited

namespace Target

/-- The target without path and query. -/
def blank : Target := ⟨"", none⟩

/-- The target of the root. -/
def root : Target := ⟨"/", none⟩

/-- Characters that a path may hold as they are, among them some that ought to be escaped. -/
def isPathChar (c : Char) : Bool :=
  let n := c.toNat
  n = 0x21 || n = 0x22 || (0x24 ≤ n && n ≤ 0x3B) || n = 0x3D || (0x40 ≤ n && n ≤ 0x5F) ||
    (0x61 ≤ n && n ≤ 0x7E) || 0x80 ≤ n

/-- Characters that a query may hold as they are. -/
def isQueryChar (c : Char) : Bool :=
  let n := c.toNat
  n = 0x21 || (0x24 ≤ n && n ≤ 0x3B) || n = 0x3D || (0x3F ≤ n && n ≤ 0x7E) || 0x80 ≤ n

/-- Reads a path and a query, which may be empty. -/
def read (cs : List Char) : Except UriError Target :=
  let cs := cs.takeWhile (· ≠ '#')
  let path := cs.takeWhile (· ≠ '?')
  if !path.all isPathChar then .error .invalidChar
  else
    match cs.dropWhile (· ≠ '?') with
    | [] => .ok ⟨String.ofList path, none⟩
    | _ :: query =>
      if query.all isQueryChar then .ok ⟨String.ofList path, some (String.ofList query)⟩
      else .error .invalidChar

/-- A target starts with a slash, or is a lone star, or has no path. -/
def startsWell : List Char → Bool
  | [] => false
  | ['*'] => true
  | c :: _ => c = '/' || c = '?' || c = '#'

/-- Reads a text that is a target and nothing else. A fragment is cut off. -/
def parse (s : String) : Except UriError Target :=
  if s.isEmpty then .error .empty
  else if startsWell s.toList then read s.toList
  else .error .noLeadingSlash

/-- The path, which is the root where none is written. -/
def path (t : Target) : String := if t.pathText.isEmpty then "/" else t.pathText

def render (t : Target) : String :=
  t.path ++ match t.query with
    | none => ""
    | some q => "?" ++ q

end Target

end IngressProxy
