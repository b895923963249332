import IngressProxy.Text.Base64

namespace IngressProxy.Pem

inductive Kind where
  | certificate
  | publicKey
  | rsaPrivateKey
  | privateKey
  | ecPrivateKey
  | revocationList
  | certificateRequest
  | helloConfig
  deriving DecidableEq, Repr

def labels : List (String × Kind) := [
  ("CERTIFICATE", .certificate),
  ("PUBLIC KEY", .publicKey),
  ("RSA PRIVATE KEY", .rsaPrivateKey),
  ("PRIVATE KEY", .privateKey),
  ("EC PRIVATE KEY", .ecPrivateKey),
  ("X509 CRL", .revocationList),
  ("CERTIFICATE REQUEST", .certificateRequest),
  ("ECHCONFIG", .helloConfig)]

/-- The kind of a section, if it is one of those that are read. -/
def kind? (label : Bytes) : Option Kind :=
  (labels.find? fun l => Utf8.encode l.1 = label).map Prod.snd

structure Section where
  kind : Kind
  contents : Bytes
  deriving DecidableEq, Repr

inductive Fault where
  | badBegin
  | badBase64
  | noEnd
  deriving DecidableEq, Repr

/-- The sections that were read, and why reading stopped before the end of the text. -/
structure Contents where
  sections : List Section
  fault : Option Fault
  deriving DecidableEq, Repr

/-- The lines of a text, each with its terminator. -/
def lines (acc : Bytes) : Bytes → List Bytes
  | [] => if acc.isEmpty then [] else [acc.reverse]
  | b :: bs =>
    if b = 10 ∨ b = 13 then (b :: acc).reverse :: lines [] bs else lines (b :: acc) bs

def after? (start : String) (line : Bytes) : Option Bytes :=
  let s := Utf8.encode start
  if s.isPrefixOf line then some (line.drop s.length) else none

/-- Counts the hyphens at the end of a line, which is given from its end on, blanks not counting;
and the line before them. -/
def trailer (hyphens : Nat) (label : Bytes) : Bytes → Nat × Bytes
  | [] => (hyphens, label)
  | b :: bs =>
    if b = 45 then trailer (hyphens + 1) bs bs
    else if b = 10 ∨ b = 13 ∨ b = 32 then trailer hyphens label bs
    else (hyphens, label)

inductive Line where
  | begins (label : Bytes)
  | badBegin
  | other

/-- A line that begins a section ends in five hyphens. -/
def classify (line : Bytes) : Line :=
  match after? "-----BEGIN " line with
  | none => .other
  | some rest =>
    let (hyphens, label) := trailer 0 [] rest.reverse
    if hyphens = 5 then .begins label.reverse else .badBegin

/-- Reads lines. `label` is that of the open section and `body` its lines, newest first. A line that
begins a section within another one replaces the label and keeps the body. -/
def scan (label : Option Bytes) (body : List Bytes) : List Bytes → Contents
  | [] => ⟨[], if label.isSome then some .noEnd else none⟩
  | line :: rest =>
    match classify line with
    | .badBegin => ⟨[], some .badBegin⟩
    | .begins l => scan (some l) body rest
    | .other =>
      match label with
      | none => scan none body rest
      | some l =>
        if (Utf8.encode "-----END " ++ l ++ Utf8.encode "-----").isPrefixOf line then
          match kind? l with
          | none => scan none [] rest
          | some kind =>
            match Base64.decodeRelaxed? body.reverse.flatten with
            | none => ⟨[], some .badBase64⟩
            | some contents =>
              let more := scan none [] rest
              { more with sections := ⟨kind, contents⟩ :: more.sections }
        else scan (some l) (line :: body) rest

/-- The sections of a text, up to the first fault. Text outside of sections is skipped, and so are
sections with an unknown label. -/
def read (text : Bytes) : Contents := scan none [] (lines [] text)

end IngressProxy.Pem
