import IngressProxy.Pattern.Expr

namespace IngressProxy.Pattern

def maxWeight : Nat := 10 <<< 20

def stepWeight : Nat := 32

/-- Joins ranges that overlap or touch; they are in the order of their lower ends. -/
def joined : CodeRanges → CodeRanges
  | a :: b :: rest =>
    if b.1 ≤ a.2 + 1 then joined ((a.1, max a.2 b.2) :: rest) else a :: joined (b :: rest)
  | rs => rs
termination_by rs => rs.length

/-- The ranges of what lies in one list or the other. -/
def merged (a b : CodeRanges) : CodeRanges := joined (a.merge b fun x y => x.1 ≤ y.1)

/-- The ranges of what lies at or above a code point and between the ranges of a list. -/
def gaps (start : Nat) : CodeRanges → CodeRanges
  | [] => if start ≤ 0x10FFFF then [(start, 0x10FFFF)] else []
  | (lo, hi) :: rest =>
    if start < lo then (start, lo - 1) :: gaps (hi + 1) rest else gaps (hi + 1) rest

/-- The ranges of a set, in which differences of case are left out. -/
def outline : CharSet → CodeRanges
  | .ranges rs => joined rs
  | .union a b => merged (outline a) (outline b)
  | .inter a b => gaps 0 (merged (gaps 0 (outline a)) (gaps 0 (outline b)))
  | .diff a b => gaps 0 (merged (gaps 0 (outline a)) (outline b))
  | .symmDiff a b =>
    let a := outline a
    let b := outline b
    merged (gaps 0 (merged (gaps 0 a) b)) (gaps 0 (merged (gaps 0 b) a))
  | .compl a => gaps 0 (outline a)
  | .folded a => outline a
  | .asciiFolded a => outline a

def encodedSize (n : Nat) : Nat :=
  if n < 0x80 then 1 else if n < 0x800 then 2 else if n < 0x10000 then 3 else 4

/-- The weight of a range. Within ASCII it is a step of its own; beyond, its bytes have to be told
apart, and more so if they differ in number. -/
def rangeWeight (r : Nat × Nat) : Nat :=
  if r.2 < 0x80 then 8 else if encodedSize r.1 = encodedSize r.2 then 60 else 1000

def setWeight (s : CharSet) : Nat := (outline s).foldl (fun n r => n + rangeWeight r) 0

namespace Expr

/-- Whether an expression can only match the empty text. -/
def isBlank : Expr → Bool
  | empty => true
  | chars _ => false
  | look _ => true
  | capture e => e.isBlank
  | concat a b => a.isBlank && b.isBlank
  | alternation a b => a.isBlank && b.isBlank
  | repetition e _ most => e.isBlank || most = some 0

/-- The weight of an expression: an estimate, in bytes, of how large it becomes when its repetitions
are written out. What matches nothing but the empty text is not written out more than once. -/
def weight : Expr → Nat
  | empty => stepWeight
  | chars s => stepWeight + setWeight s
  | look _ => stepWeight
  | capture e => 2 * stepWeight + e.weight
  | concat a b => a.weight + b.weight
  | alternation a b => stepWeight + a.weight + b.weight
  | repetition e least most =>
    let copies :=
      if e.isBlank then 1
      else
        match most with
        | some n => n
        | none => max least 1
    stepWeight + copies * e.weight +
      match most with
      | some n => if e.isBlank then 0 else (n - least) * stepWeight
      | none => stepWeight

end Expr

end IngressProxy.Pattern
