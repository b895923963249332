import IngressProxy.Text.Utf8

namespace IngressProxy

namespace Http

/-- The bytes of a token, of which names and methods are made. -/
def isTokenByte (b : UInt8) : Bool :=
  (48 ≤ b && b ≤ 57) || (65 ≤ b && b ≤ 90) || (97 ≤ b && b ≤ 122) ||
    [33, 35, 36, 37, 38, 39, 42, 43, 45, 46, 94, 95, 96, 124, 126].contains b

def ascii (bs : Bytes) : String := String.ofList (bs.map fun b => Char.ofNat b.toNat)

end Http

/-- The name of a field, in lower case, since names are compared without regard to case. -/
structure HeaderName where
  text : String
  deriving DecidableEq, Repr

structure HeaderValue where
  bytes : Bytes
  deriving DecidableEq, Repr

namespace HeaderName

def maxLength : Nat := 65535

/-- A name in any case, if the bytes are a token. -/
def ofBytes? (bs : Bytes) : Option HeaderName :=
  if bs.isEmpty || bs.length > maxLength || !bs.all Http.isTokenByte then none
  else some ⟨String.ofList ((Http.ascii bs).toList.map Char.toLower)⟩

/-- A name in any case, if the text is a token. -/
def ofText? (s : String) : Option HeaderName := ofBytes? (Utf8.encode s)

def connection : HeaderName := ⟨"connection"⟩
def contentLength : HeaderName := ⟨"content-length"⟩
def contentType : HeaderName := ⟨"content-type"⟩
def date : HeaderName := ⟨"date"⟩
def expect : HeaderName := ⟨"expect"⟩
def host : HeaderName := ⟨"host"⟩
def keepAlive : HeaderName := ⟨"keep-alive"⟩
def proxyAuthenticate : HeaderName := ⟨"proxy-authenticate"⟩
def proxyAuthorization : HeaderName := ⟨"proxy-authorization"⟩
def proxyConnection : HeaderName := ⟨"proxy-connection"⟩
def te : HeaderName := ⟨"te"⟩
def trailer : HeaderName := ⟨"trailer"⟩
def transferEncoding : HeaderName := ⟨"transfer-encoding"⟩
def upgrade : HeaderName := ⟨"upgrade"⟩
def forwardedFor : HeaderName := ⟨"x-forwarded-for"⟩

end HeaderName

namespace HeaderValue

/-- The bytes that a value may hold: everything but control characters, which include the line
breaks; a tab is allowed. -/
def isValid (b : UInt8) : Bool := b = 9 || (32 ≤ b && b ≠ 127)

/-- The bytes of a readable value: printable ASCII and tabs. -/
def isVisible (b : UInt8) : Bool := b = 9 || (32 ≤ b && b < 127)

/-- A value, if the bytes are allowed. -/
def ofBytes? (bs : Bytes) : Option HeaderValue := if bs.all isValid then some ⟨bs⟩ else none

def ofText? (s : String) : Option HeaderValue := ofBytes? (Utf8.encode s)

/-- The value of a text that is known to be one. -/
def lit (s : String) : HeaderValue := ⟨Utf8.encode s⟩

def readable? (v : HeaderValue) : Option String :=
  if v.bytes.all isVisible then some (Http.ascii v.bytes) else none

end HeaderValue

def CommaList.split (cs : List Char) : List (List Char) :=
  cs.foldr (fun c acc =>
    if c = ',' then [] :: acc
    else
      match acc with
      | [] => [[c]]
      | item :: rest => (c :: item) :: rest) [[]]

def CommaList.trim (cs : List Char) : List Char :=
  let isBlank (c : Char) : Bool := c = ' ' || c = '\t'
  ((cs.dropWhile isBlank).reverse.dropWhile isBlank).reverse

/-- The items of a list, without blanks at their ends. -/
def CommaList.items (s : String) : List String :=
  (CommaList.split s.toList).map fun item => String.ofList (CommaList.trim item)

/-- Texts that differ at most in the case of ASCII letters. -/
def equalsIgnoringCase (a b : String) : Bool :=
  a.toList.map Char.toLower = b.toList.map Char.toLower

/-- The fields of a message, in order. A name may occur several times; its values then stay in their
order. -/
structure Headers where
  entries : List (HeaderName × HeaderValue) := []
  deriving DecidableEq, Repr, Inhabited

namespace Headers

def empty : Headers := {}

def values (h : Headers) (name : HeaderName) : List HeaderValue :=
  (h.entries.filter fun e => e.1 = name).map Prod.snd

def first? (h : Headers) (name : HeaderName) : Option HeaderValue := (h.values name).head?

def contains (h : Headers) (name : HeaderName) : Bool := (h.first? name).isSome

def readable (h : Headers) (name : HeaderName) : List String :=
  (h.values name).filterMap HeaderValue.readable?

def append (h : Headers) (name : HeaderName) (v : HeaderValue) : Headers :=
  ⟨h.entries ++ [(name, v)]⟩

def erase (h : Headers) (name : HeaderName) : Headers :=
  ⟨h.entries.filter fun e => e.1 ≠ name⟩

def eraseAll (h : Headers) (names : List HeaderName) : Headers := names.foldl erase h

/-- Gives a name one value, in place of all it had. -/
def set (h : Headers) (name : HeaderName) (v : HeaderValue) : Headers := (h.erase name).append name v

/-- The options that the sender lists for this connection only: the readable values are comma lists,
and empty items do not count. -/
def connectionTokens (h : Headers) : List String :=
  ((h.readable .connection).flatMap CommaList.items).filter (· ≠ "")

end Headers

end IngressProxy
