import IngressProxy.Http.Chunked
import IngressProxy.Http.Head

namespace IngressProxy.Http

inductive Framing where
  | absent
  | sized (n : Nat)
  | chunked
  | untilClose
  deriving DecidableEq, Repr

namespace Framing

def ofSize (n : Nat) : Framing := if n = 0 then .absent else .sized n

def size : Framing → BodySize
  | .absent => .absent
  | .sized n => .known n
  | .chunked | .untilClose => .unknown

/-- Reads a body from the front of some bytes, and what follows it. `closed` tells whether no more
bytes can come: a body that needs more is then broken off. -/
def read (f : Framing) (closed : Bool) (bs : Bytes) : Body × Bytes :=
  let unfinished : BodyEnd := if closed then .broken else .pending
  match f with
  | .absent => ({}, bs)
  | .sized n =>
    if n ≤ bs.length then ({ bytes := bs.take n, size := .known n }, bs.drop n)
    else ({ bytes := bs, size := .known n, ending := unfinished }, [])
  | .chunked =>
    let r := Chunked.read bs
    let ending := if r.ending = .pending then unfinished else r.ending
    ({ bytes := r.data, size := .unknown, ending }, r.rest)
  | .untilClose =>
    ({ bytes := bs, size := .unknown, ending := if closed then .complete else .pending }, [])

end Framing

def maxBodySize : Nat := UInt64.size - 3

/-- A size in decimal digits, of 64 bits. -/
def readSize? (s : String) : Option Nat :=
  let cs := s.toList
  if cs.isEmpty || !cs.all Char.isDigit then none
  else
    let n := cs.foldl (fun n c => n * 10 + (c.toNat - '0'.toNat)) 0
    if n < UInt64.size then some n else none

def valueSize? (v : HeaderValue) : Option Nat := v.readable?.bind readSize?

/-- The one size that all values announce, each of which may be a list; nothing if there is none, or
if they do not agree. -/
def announcedSize? (h : Headers) : Option Nat :=
  let values := h.values .contentLength
  let items := (h.readable .contentLength).flatMap CommaList.items
  if values.all fun v => v.readable?.isSome then
    match items.mapM readSize? with
    | some (n :: rest) => if rest.all (· = n) then some n else none
    | _ => none
  else none

/-- Whether the last coding of a list is that of chunks. -/
def endsInChunked (v : HeaderValue) : Bool :=
  match v.readable? with
  | some s =>
    match (CommaList.items s).getLast? with
    | some item => equalsIgnoringCase item "chunked"
    | none => false
  | none => false

def hasToken (token : String) (v : HeaderValue) : Bool :=
  match v.readable? with
  | some s => (CommaList.items s).any (equalsIgnoringCase · token)
  | none => false

end IngressProxy.Http
