import IngressProxy.Text.Hex
import IngressProxy.Unicode.CaseTable

namespace IngressProxy

/-- Ranges of code points, both ends included, in ascending order. -/
abbrev CodeRanges := List (Nat × Nat)

namespace CodeRanges

/-- The words of a text, between blanks and line breaks. -/
def words (s : String) : List String :=
  ((s.splitOn "\n").flatMap (·.splitOn " ")).filter (· ≠ "")

/-- Reads ranges such as `41-5a 5f`. -/
def parse (s : String) : CodeRanges :=
  (words s).filterMap fun part => do
    match part.splitOn "-" with
    | [a] =>
      let n ← Hex.number? a.toList
      some (n, n)
    | [a, b] => some (← Hex.number? a.toList, ← Hex.number? b.toList)
    | _ => none

def contains : CodeRanges → Nat → Bool
  | [], _ => false
  | (lo, hi) :: rest, n => if n < lo then false else if n ≤ hi then true else contains rest n

end CodeRanges

namespace Unicode

def caseClasses : List (List Nat) :=
  (CodeRanges.words caseTable).map fun g => (g.splitOn ".").filterMap fun h => Hex.number? h.toList

/-- The characters that differ from this one in case only, itself included; nothing if it has no
case. -/
def caseClass (n : Nat) : List Nat :=
  match caseClasses.find? fun g => g.contains n with
  | some g => g
  | none => []

end Unicode

/-- A set of characters, built from ranges by the operations of sets. It is never listed. -/
inductive CharSet where
  | ranges (rs : CodeRanges)
  | union (a b : CharSet)
  | inter (a b : CharSet)
  | diff (a b : CharSet)
  | symmDiff (a b : CharSet)
  | compl (a : CharSet)
  /-- Everything that differs from a member in case only. -/
  | folded (a : CharSet)
  /-- The same, where only the letters of ASCII have case. -/
  | asciiFolded (a : CharSet)
  deriving Repr, Inhabited

namespace CharSet

def empty : CharSet := .ranges []

def singleton (c : Char) : CharSet := .ranges [(c.toNat, c.toNat)]

/-- The characters between two, both included. -/
def interval (a b : Char) : CharSet := .ranges [(a.toNat, b.toNat)]

def unions (sets : List CharSet) : CharSet := sets.foldr .union empty

def all : CharSet := .ranges [(0, 0x10FFFF)]

def otherCase? (n : Nat) : Option Nat :=
  if 65 ≤ n ∧ n ≤ 90 then some (n + 32)
  else if 97 ≤ n ∧ n ≤ 122 then some (n - 32)
  else none

def containsCode : CharSet → Nat → Bool
  | ranges rs, n => rs.contains n
  | union a b, n => a.containsCode n || b.containsCode n
  | inter a b, n => a.containsCode n && b.containsCode n
  | diff a b, n => a.containsCode n && !b.containsCode n
  | symmDiff a b, n => a.containsCode n != b.containsCode n
  | compl a, n => !a.containsCode n
  | folded a, n => a.containsCode n || (Unicode.caseClass n).any a.containsCode
  | asciiFolded a, n => a.containsCode n || (otherCase? n).any a.containsCode

def contains (s : CharSet) (c : Char) : Bool := s.containsCode c.toNat

end CharSet

end IngressProxy
