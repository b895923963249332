namespace IngressProxy.Host

/-- A host without the port behind it. An address in brackets ends at its bracket; a text that
starts with a colon, or whose bracket is not closed, is left as it is. -/
def stripPortChars : List Char → List Char
  | [] => []
  | c :: cs =>
    if c = '[' then
      if ']' ∈ cs then '[' :: (cs.takeWhile (· ≠ ']') ++ [']']) else c :: cs
    else if c = ':' then c :: cs
    else c :: cs.takeWhile (· ≠ ':')

/-- A host without the port behind it. -/
def stripPort (host : String) : String := String.ofList (stripPortChars host.toList)

/-- What follows the first dot of a name. -/
def afterDot? : List Char → Option (List Char)
  | [] => none
  | c :: cs => if c = '.' then some cs else afterDot? cs

/-- Whether a certificate for a host covers a name. Each `*.` at the front stands for one label; what
is left has to be equal. -/
def coversChars (name : List Char) : List Char → Bool
  | '*' :: '.' :: rest =>
    match afterDot? name with
    | some tail => coversChars tail rest
    | none => false
  | certHost => name = certHost

/-- Whether a certificate for a host covers a name. -/
def covers (certHost name : String) : Bool := coversChars name.toList certHost.toList

end IngressProxy.Host
