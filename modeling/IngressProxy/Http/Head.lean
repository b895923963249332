import IngressProxy.Http.Message

namespace IngressProxy.Http

inductive HeadFault where
  | malformed
  | tooManyFields
  | targetTooLong
  deriving DecidableEq, Repr

/-- What a reader finds at the front of some bytes. It needs more bytes only while what it has may
still become what is read. -/
inductive Reading (α : Type) where
  | more
  | fault (f : HeadFault)
  | done (x : α) (rest : Bytes)
  deriving DecidableEq

namespace Reading

variable {α β : Type}

def andThen (r : Reading α) (f : α → Bytes → Reading β) : Reading β :=
  match r with
  | .more => .more
  | .fault e => .fault e
  | .done x rest => f x rest

end Reading

def readNewline : Bytes → Reading Unit
  | [] => .more
  | [13] => .more
  | 13 :: 10 :: rest => .done () rest
  | 10 :: rest => .done () rest
  | _ => .fault .malformed

/-- The empty lines before a message, which do not count. -/
def skipEmptyLines : Bytes → Reading Unit
  | [] => .more
  | [13] => .more
  | 13 :: 10 :: rest => skipEmptyLines rest
  | 13 :: _ => .fault .malformed
  | 10 :: rest => skipEmptyLines rest
  | bs => .done () bs

/-- A word of some bytes, with the blank behind it. -/
def readWord (isPart : UInt8 → Bool) (bs : Bytes) : Reading Bytes :=
  let word := bs.takeWhile isPart
  match bs.dropWhile isPart with
  | [] => .more
  | 32 :: rest => if word.isEmpty then .fault .malformed else .done word rest
  | _ => .fault .malformed

def isTargetByte (b : UInt8) : Bool := 33 ≤ b && b ≠ 127

def readVersion (bs : Bytes) : Reading Version :=
  let front := Utf8.encode "HTTP/1."
  if bs.length ≤ front.length then
    if bs.isPrefixOf front then .more else .fault .malformed
  else if front.isPrefixOf bs then
    match bs.drop front.length with
    | 48 :: rest => .done .http10 rest
    | 49 :: rest => .done .http11 rest
    | _ => .fault .malformed
  else .fault .malformed

/-- Bytes without blanks at their end. -/
def trimEnd (bs : Bytes) : Bytes := (bs.reverse.dropWhile fun b => b = 32 || b = 9).reverse

/-- The value of a field, up to the end of its line. -/
def readValue (bs : Bytes) : Reading HeaderValue :=
  let bs := bs.dropWhile fun b => b = 32 || b = 9
  (readNewline (bs.dropWhile HeaderValue.isValid)).andThen fun _ rest =>
    .done ⟨trimEnd (bs.takeWhile HeaderValue.isValid)⟩ rest

/-- The name of a field, with the colon that follows at once. -/
def readName (bs : Bytes) : Reading HeaderName :=
  match bs.dropWhile isTokenByte with
  | [] => .more
  | 58 :: rest =>
    match HeaderName.ofBytes? (bs.takeWhile isTokenByte) with
    | some name => .done name rest
    | none => .fault .malformed
  | _ => .fault .malformed

def maxFields : Nat := 100

/-- The fields of a message, and the empty line behind them. -/
def readFields : Nat → Headers → Bytes → Reading Headers
  | _, _, [] => .more
  | _, _, [13] => .more
  | _, h, 13 :: 10 :: rest => .done h rest
  | _, _, 13 :: _ => .fault .malformed
  | _, h, 10 :: rest => .done h rest
  | 0, _, _ => .fault .tooManyFields
  | n + 1, h, bs =>
    (readName bs).andThen fun name rest =>
      (readValue rest).andThen fun value rest => readFields n (h.append name value) rest

/-- The head of a request, with its target as it was written. -/
structure RequestHead where
  method : String
  target : String
  version : Version
  headers : Headers
  deriving DecidableEq, Repr

def RequestHead.read (bs : Bytes) : Reading RequestHead :=
  (skipEmptyLines bs).andThen fun _ bs =>
    (readWord isTokenByte bs).andThen fun method bs =>
      (readWord isTargetByte bs).andThen fun target bs =>
        (readVersion bs).andThen fun version bs =>
          (readNewline bs).andThen fun _ bs =>
            (readFields maxFields {} bs).andThen fun headers bs =>
              .done { method := ascii method, target := Utf8.decode target, version, headers } bs

structure ResponseHead where
  status : Status
  reason : String
  version : Version
  headers : Headers
  deriving DecidableEq, Repr

/-- The code of a response: three digits. -/
def readStatus : Bytes → Reading Status
  | a :: b :: c :: rest =>
    let digits := [a, b, c]
    if digits.all fun d => 48 ≤ d && d ≤ 57 then
      .done (digits.foldl (fun n d => n * 10 + (d.toNat - 48)) 0) rest
    else .fault .malformed
  | bs => if bs.all fun d => 48 ≤ d && d ≤ 57 then .more else .fault .malformed

/-- The reason behind a code, which may be missing with the blank before it. One that is not ASCII is
read as empty. -/
def readReason : Bytes → Reading String
  | 32 :: bs =>
    let reason := bs.takeWhile HeaderValue.isValid
    (readNewline (bs.dropWhile HeaderValue.isValid)).andThen fun _ rest =>
      .done (if reason.all (· < 128) then ascii reason else "") rest
  | bs => (readNewline bs).andThen fun _ rest => .done "" rest

def readBlank : Bytes → Reading Unit
  | [] => .more
  | 32 :: rest => .done () rest
  | _ => .fault .malformed

def ResponseHead.read (bs : Bytes) : Reading ResponseHead :=
  (skipEmptyLines bs).andThen fun _ bs =>
    (readVersion bs).andThen fun version bs =>
      (readBlank bs).andThen fun _ bs =>
        (readStatus bs).andThen fun status bs =>
          (readReason bs).andThen fun reason bs =>
            (readFields maxFields {} bs).andThen fun headers bs =>
              .done { status, reason, version, headers } bs

end IngressProxy.Http
