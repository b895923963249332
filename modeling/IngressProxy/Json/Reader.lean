import IngressProxy.Json.Value
import IngressProxy.Text.Hex

namespace IngressProxy.Json

def skipBlank (cs : List Char) : List Char :=
  cs.dropWhile fun c => c = ' ' || c = '\n' || c = '\t' || c = '\r'

/-- The character of a one-letter escape. -/
def escape? : Char → Option Char
  | '"' => some '"'
  | '\\' => some '\\'
  | '/' => some '/'
  | 'b' => some '\x08'
  | 'f' => some '\x0c'
  | 'n' => some '\n'
  | 'r' => some '\r'
  | 't' => some '\t'
  | _ => none

/-- Reads the rest of a string after its opening quote. `half` is a high surrogate that waits for
its low one; no other character may follow it. -/
def readText (half : Option Nat) (acc : List Char) : List Char → Option (String × List Char)
  | [] => none
  | '"' :: rest => if half.isSome then none else some (String.ofList acc.reverse, rest)
  | '\\' :: 'u' :: a :: b :: c :: d :: rest =>
    match Hex.number? [a, b, c, d], half with
    | none, _ => none
    | some n, none =>
      if 0xD800 ≤ n ∧ n < 0xDC00 then readText (some n) acc rest
      else if 0xDC00 ≤ n ∧ n < 0xE000 then none
      else readText none (Char.ofNat n :: acc) rest
    | some n, some h =>
      if 0xDC00 ≤ n ∧ n < 0xE000 then
        readText none (Char.ofNat (0x10000 + (h - 0xD800) * 0x400 + (n - 0xDC00)) :: acc) rest
      else none
  | '\\' :: e :: rest =>
    match half, escape? e with
    | none, some c => readText none (c :: acc) rest
    | _, _ => none
  | c :: rest => if half.isSome || c < ' ' then none else readText none (c :: acc) rest

def digits (cs : List Char) : List Char × List Char :=
  (cs.takeWhile Char.isDigit, cs.dropWhile Char.isDigit)

def decimal (ds : List Char) : Nat := ds.foldl (fun n c => n * 10 + (c.toNat - '0'.toNat)) 0

/-- The fraction of a number: its text and what follows. -/
def readFraction? : List Char → Option (List Char × List Char)
  | '.' :: rest =>
    match digits rest with
    | ([], _) => none
    | (ds, rest') => some ('.' :: ds, rest')
  | cs => some ([], cs)

/-- The exponent of a number: its text and what follows. -/
def readExponent? : List Char → Option (List Char × List Char)
  | [] => some ([], [])
  | e :: rest =>
    if e = 'e' ∨ e = 'E' then
      let (sign, rest) := match rest with
        | '+' :: r => (['+'], r)
        | '-' :: r => (['-'], r)
        | r => ([], r)
      match digits rest with
      | ([], _) => none
      | (ds, rest') => some (e :: sign ++ ds, rest')
    else some ([], e :: rest)

/-- Reads a number. One without fraction and exponent that fits into 64 bits is an integer, except
`-0`, whose sign no integer can carry. -/
def readNumber? (cs : List Char) : Option (Number × List Char) := do
  let (minus, cs) := match cs with
    | '-' :: r => (true, r)
    | r => (false, r)
  let (whole, cs) := digits cs
  if whole.isEmpty ∨ (whole.length > 1 ∧ whole.head? = some '0') then none
  let (fraction, cs) ← readFraction? cs
  let (exponent, cs) ← readExponent? cs
  let n := decimal whole
  let fits := if minus then 0 < n ∧ n ≤ 1 <<< 63 else n < UInt64.size
  if fraction.isEmpty ∧ exponent.isEmpty ∧ fits then
    some (.integer (if minus then -(n : Int) else n), cs)
  else
    some (.other (String.ofList ((if minus then ['-'] else []) ++ whole ++ fraction ++ exponent)), cs)

mutual

/-- Reads one value; `fuel` bounds the number of tokens. -/
def readValue : Nat → List Char → Option (Json × List Char)
  | 0, _ => none
  | fuel + 1, cs =>
    match skipBlank cs with
    | 'n' :: 'u' :: 'l' :: 'l' :: rest => some (.null, rest)
    | 't' :: 'r' :: 'u' :: 'e' :: rest => some (.bool true, rest)
    | 'f' :: 'a' :: 'l' :: 's' :: 'e' :: rest => some (.bool false, rest)
    | '"' :: rest => (readText none [] rest).map fun (s, rest) => (.text s, rest)
    | '[' :: rest =>
      match skipBlank rest with
      | ']' :: rest => some (.array [], rest)
      | rest => readItems fuel [] rest
    | '{' :: rest =>
      match skipBlank rest with
      | '}' :: rest => some (.object [], rest)
      | rest => readFields fuel [] rest
    | rest => (readNumber? rest).map fun (n, rest) => (.number n, rest)

/-- Reads the items of an array, of which there is at least one more. -/
def readItems : Nat → List Json → List Char → Option (Json × List Char)
  | 0, _, _ => none
  | fuel + 1, acc, cs =>
    match readValue fuel cs with
    | none => none
    | some (v, rest) =>
      match skipBlank rest with
      | ',' :: rest => readItems fuel (v :: acc) rest
      | ']' :: rest => some (.array (v :: acc).reverse, rest)
      | _ => none

/-- Reads the fields of an object, of which there is at least one more. -/
def readFields : Nat → List (String × Json) → List Char → Option (Json × List Char)
  | 0, _, _ => none
  | fuel + 1, acc, cs =>
    match skipBlank cs with
    | '"' :: rest =>
      match readText none [] rest with
      | none => none
      | some (name, rest) =>
        match skipBlank rest with
        | ':' :: rest =>
          match readValue fuel rest with
          | none => none
          | some (v, rest) =>
            match skipBlank rest with
            | ',' :: rest => readFields fuel (setField name v acc) rest
            | '}' :: rest => some (.object (setField name v acc), rest)
            | _ => none
        | _ => none
    | _ => none

end

def parse? (s : String) : Option Json :=
  match readValue (2 * s.length + 2) s.toList with
  | some (v, rest) => if (skipBlank rest).isEmpty then some v else none
  | none => none

end IngressProxy.Json
