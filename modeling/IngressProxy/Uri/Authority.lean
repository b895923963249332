import IngressProxy.Uri.Error

namespace IngressProxy

/-- The authority of a URI, as it was written: `host`, `host:port`, either with user information
before an `@`, where the host may be an address in brackets. Only the shape is checked: labels,
addresses and port digits are not. -/
structure Authority where
  text : String
  deriving DecidableEq, Repr, Inhabited

namespace Authority

def isEnd (c : Char) : Bool := c = '/' || c = '?' || c = '#'

/-- The characters of which a URI may be built, apart from `%`. -/
def isUriChar (c : Char) : Bool :=
  c.isAlphanum || "!#$&'()*+,-./:;=?@[]_~".toList.contains c

/-- What is known of an authority after some of its characters. Colons and percent signs of the user
information and of a bracketed address are forgotten when that part ends. -/
structure Scan where
  colons : Nat := 0
  opened : Bool := false
  closed : Bool := false
  percent : Bool := false
  endsInAt : Bool := false
  deriving DecidableEq, Repr

/-- The most colons in a row of parts: an address of eight groups, and a port. -/
def maxColons : Nat := 8

/-- Takes in one character that does not end the authority. -/
def Scan.step (s : Scan) (c : Char) : Except UriError Scan :=
  let s := { s with endsInAt := false }
  if c = ':' then
    if s.colons ≥ maxColons then .error .invalidAuthority
    else .ok { s with colons := s.colons + 1 }
  else if c = '[' then
    if s.percent || s.opened then .error .invalidAuthority else .ok { s with opened := true }
  else if c = ']' then
    if !s.opened || s.closed then .error .invalidAuthority
    else .ok { s with closed := true, colons := 0, percent := false }
  else if c = '@' then .ok { s with colons := 0, percent := false, endsInAt := true }
  else if c = '%' then .ok { s with percent := true }
  else if isUriChar c then .ok s
  else .error .invalidChar

/-- Takes in characters from the left; the first fault counts. -/
def Scan.run (s : Scan) : List Char → Except UriError Scan
  | [] => .ok s
  | c :: cs =>
    match s.step c with
    | .ok s' => s'.run cs
    | .error e => .error e

/-- At its end an authority has both brackets or none, at most one colon before a port, no percent
sign outside of user information and brackets, and a host after its `@`. -/
def Scan.complete (s : Scan) : Bool :=
  s.opened = s.closed && s.colons ≤ 1 && !s.endsInAt && !s.percent

/-- Splits the authority, possibly empty, from the front of a text. -/
def split (cs : List Char) : Except UriError (List Char × List Char) :=
  let front := cs.takeWhile (!isEnd ·)
  match Scan.run {} front with
  | .error e => .error e
  | .ok s => if s.complete then .ok (front, cs.dropWhile (!isEnd ·)) else .error .invalidAuthority

/-- Reads a whole text as an authority. -/
def parse (s : String) : Except UriError Authority :=
  if s.isEmpty then .error .empty
  else
    match split s.toList with
    | .error e => .error e
    | .ok (_, rest) => if rest.isEmpty then .ok ⟨s⟩ else .error .invalidChar

/-- What follows the last `@`, or everything. -/
def afterUser (cs : List Char) : List Char :=
  (cs.reverse.takeWhile (· ≠ '@')).reverse

/-- The host at the front of `host:port`, brackets included. -/
def hostChars : List Char → List Char
  | '[' :: cs => '[' :: cs.takeWhile (· ≠ ']') ++ (if ']' ∈ cs then [']'] else [])
  | cs => cs.takeWhile (· ≠ ':')

/-- The host of an authority, without user information and port. -/
def host (a : Authority) : String := String.ofList (hostChars (afterUser a.text.toList))

end Authority

/-- How a text is read as an authority, and which part of an authority is its host. -/
class AuthorityGrammar where
  parse : String → Except UriError Authority
  host : Authority → String

instance : AuthorityGrammar := ⟨Authority.parse, Authority.host⟩

end IngressProxy
