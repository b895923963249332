import IngressProxy.Http.Message

namespace IngressProxy.Http.Chunked

inductive State where
  | start
  | size (n : Nat)
  | blank (n : Nat)
  | extension (n : Nat)
  | sizeEnd (n : Nat)
  | data (left : Nat)
  | dataReturn
  | dataEnd
  | finish
  | trailer
  | trailerEnd
  | finishEnd
  | done
  deriving DecidableEq, Repr

/-- Sizes are numbers of 64 bits. -/
def maxSize : Nat := UInt64.size - 1

def digit? (b : UInt8) : Option Nat :=
  let n := b.toNat
  if 48 ≤ n ∧ n ≤ 57 then some (n - 48)
  else if 97 ≤ n ∧ n ≤ 102 then some (n - 87)
  else if 65 ≤ n ∧ n ≤ 70 then some (n - 55)
  else none

/-- What may follow a size on its line. -/
def afterSize (n : Nat) (b : UInt8) : Option State :=
  if b = 32 || b = 9 then some (.blank n)
  else if b = 59 then some (.extension n)
  else if b = 13 then some (.sizeEnd n)
  else none

/-- The state after a byte, which is data in state `data` only; nothing if the byte may not be there. -/
def next? (s : State) (b : UInt8) : Option State :=
  match s with
  | .start => (digit? b).map .size
  | .size n =>
    match digit? b with
    | some d => if n * 16 + d ≤ maxSize then some (.size (n * 16 + d)) else none
    | none => afterSize n b
  | .blank n => afterSize n b
  | .extension n => if b = 13 then some (.sizeEnd n) else if b = 10 then none else some (.extension n)
  | .sizeEnd n => if b = 10 then some (if n = 0 then .finish else .data n) else none
  | .data left => some (if left ≤ 1 then .dataReturn else .data (left - 1))
  | .dataReturn => if b = 13 then some .dataEnd else none
  | .dataEnd => if b = 10 then some .start else none
  | .finish => if b = 13 then some .finishEnd else some .trailer
  | .trailer => if b = 13 then some .trailerEnd else some .trailer
  | .trailerEnd => if b = 10 then some .finish else none
  | .finishEnd => if b = 10 then some .done else none
  | .done => none

/-- What was read: the data, how it ends, and what follows. -/
structure Result where
  data : Bytes
  ending : BodyEnd
  rest : Bytes

/-- Reads from a state. `acc` holds the data so far, newest first. -/
def readFrom (s : State) (acc : Bytes) : Bytes → Result
  | [] => ⟨acc.reverse, if s = .done then .complete else .pending, []⟩
  | b :: bs =>
    if s = .done then ⟨acc.reverse, .complete, b :: bs⟩
    else
      match next? s b with
      | none => ⟨acc.reverse, .broken, b :: bs⟩
      | some s' =>
        match s with
        | .data _ => readFrom s' (b :: acc) bs
        | _ => readFrom s' acc bs

/-- Reads a body in chunks from the front of some bytes. Each chunk has its size before it; one of
size zero is the last, and fields may follow it. -/
def read (bs : Bytes) : Result := readFrom .start [] bs

end IngressProxy.Http.Chunked
