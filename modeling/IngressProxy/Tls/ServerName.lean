import IngressProxy.Net.Ip

namespace IngressProxy

inductive ServerName where
  | domain (name : String)
  | address (ip : IpAddress)
  deriving DecidableEq, Repr

namespace ServerName

def maxLength : Nat := 253

def maxLabelLength : Nat := 63

def isLabelChar (c : Char) : Bool := c.isAlphanum || c = '-' || c = '_'

/-- A label holds only its characters, and no hyphen at its ends. -/
def isLabel (cs : List Char) : Bool :=
  !cs.isEmpty && cs.length ≤ maxLabelLength && cs.all isLabelChar && cs.head? ≠ some '-' &&
    cs.getLast? ≠ some '-'

/-- The labels of a name that may end in a dot. -/
def labels (cs : List Char) : List (List Char) :=
  let parts := IpAddress.splitAt '.' cs
  if parts.length > 1 && parts.getLast? = some [] then parts.dropLast else parts

/-- Whether a text is a domain name. The last label of one is no number, so that no name looks like
an address. -/
def isDomain (s : String) : Bool :=
  let parts := labels s.toList
  s.utf8ByteSize ≤ maxLength && parts.all isLabel &&
    !(parts.getLast?.any fun label => label.all Char.isDigit)

def parse? (s : String) : Option ServerName :=
  if isDomain s then some (.domain s) else (IpAddress.parse? s).map .address

/-- What the server is told: a domain name in lower case, without a dot at its end. -/
def sent? : ServerName → Option String
  | .domain name =>
    let cs := name.toList.map Char.toLower
    some (String.ofList (if cs.getLast? = some '.' then cs.dropLast else cs))
  | .address _ => none

end ServerName

end IngressProxy
