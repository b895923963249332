namespace IngressProxy.Http

/-- The code of a response, from 100 to 999. -/
abbrev Status := Nat

namespace Status

def switchingProtocols : Status := 101
def ok : Status := 200
def noContent : Status := 204
def notModified : Status := 304
def badRequest : Status := 400
def notFound : Status := 404
def methodNotAllowed : Status := 405
def uriTooLong : Status := 414
def headersTooLarge : Status := 431
def serverError : Status := 500
def badGateway : Status := 502

def isValid (s : Status) : Bool := 100 ≤ s && s ≤ 999

/-- Codes of interim responses. -/
def isInformational (s : Status) : Bool := 100 ≤ s && s < 200

def isSuccess (s : Status) : Bool := 200 ≤ s && s < 300

/-- The registered reason of a code that the proxy answers with by itself. -/
def reason : Status → String
  | 200 => "OK"
  | 400 => "Bad Request"
  | 404 => "Not Found"
  | 405 => "Method Not Allowed"
  | 414 => "URI Too Long"
  | 431 => "Request Header Fields Too Large"
  | 500 => "Internal Server Error"
  | 502 => "Bad Gateway"
  | _ => ""

end Status

end IngressProxy.Http
