namespace IngressProxy

/-- The first fault that is found in a URI. -/
inductive UriError where
  | invalidChar
  | invalidAuthority
  | invalidFormat
  | empty
  | noLeadingSlash
  | tooLong
  | schemeTooLong
  deriving DecidableEq, Repr

def UriError.message : UriError → String
  | .invalidChar => "invalid uri character"
  | .invalidAuthority => "invalid authority"
  | .invalidFormat => "invalid format"
  | .empty => "empty string"
  | .noLeadingSlash => "path does not start with slash"
  | .tooLong => "uri too long"
  | .schemeTooLong => "scheme too long"

end IngressProxy
