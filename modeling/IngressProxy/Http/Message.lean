import IngressProxy.Http.Header
import IngressProxy.Http.Status
import IngressProxy.Uri.Basic

namespace IngressProxy.Http

/-- The version of the protocol that a message is written in. -/
inductive Version where
  | http10
  | http11
  | http2
  deriving DecidableEq, Repr

/-- What the sender of a body says about its size: that there is none, how many bytes there are, or
nothing. -/
inductive BodySize where
  | absent
  | known (n : Nat)
  | unknown
  deriving DecidableEq, Repr

/-- How a body ends: as announced, too early, or not at all so far. -/
inductive BodyEnd where
  | complete
  | broken
  | pending
  deriving DecidableEq, Repr

structure Body where
  bytes : Bytes := []
  size : BodySize := .absent
  ending : BodyEnd := .complete
  deriving DecidableEq, Repr, Inhabited

def Body.ofBytes (bs : Bytes) : Body where
  bytes := bs
  size := if bs.isEmpty then .absent else .known bs.length

def Body.ofText (s : String) : Body := Body.ofBytes (Utf8.encode s)

def isMethod (s : String) : Bool :=
  let bs := Utf8.encode s
  !bs.isEmpty && bs.all isTokenByte

structure Request where
  method : String := "GET"
  uri : Uri
  version : Version := .http11
  headers : Headers := {}
  body : Body := {}
  deriving DecidableEq, Repr

/-- A response. The reason is that of a backend; the proxy's own responses carry the registered one. -/
structure Response where
  status : Status := 200
  reason : Option String := none
  version : Version := .http11
  headers : Headers := {}
  body : Body := {}
  deriving DecidableEq, Repr

end IngressProxy.Http
