namespace IngressProxy.Pattern

inductive Flag where
  | caseInsensitive
  | multiLine
  | dotMatchesNewline
  | swapGreed
  | unicode
  | crlf
  | extended
  deriving DecidableEq, Repr

/-- Switches in the order in which they are written, each with its new position. -/
abbrev FlagList := List (Flag × Bool)

/-- A character of a pattern. `byteEscape` marks one that is written as two hexadecimal digits. -/
structure Literal where
  char : Char
  byteEscape : Bool := false
  deriving DecidableEq, Repr

/-- Conditions on a place in the text. -/
inductive Assertion where
  | lineStart
  | lineEnd
  | textStart
  | textEnd
  | wordBoundary
  | notWordBoundary
  | wordStart
  | wordEnd
  | wordStartHalf
  | wordEndHalf
  deriving DecidableEq, Repr

/-- Classes with a letter of their own. -/
inductive LetterClass where
  | digit
  | blank
  | word
  deriving DecidableEq, Repr

inductive PropertyQuery where
  | named (name : String)
  | valued (unequal : Bool) (property value : String)
  deriving DecidableEq, Repr

inductive SetOp where
  | inter
  | diff
  | symmDiff
  deriving DecidableEq, Repr

/-- The contents of brackets. -/
inductive ClassTerm where
  | empty
  | literal (l : Literal)
  | interval (a b : Literal)
  | ascii (name : String) (negated : Bool)
  | property (q : PropertyQuery) (negated : Bool)
  | letter (c : LetterClass) (negated : Bool)
  | bracketed (negated : Bool) (t : ClassTerm)
  | union (items : List ClassTerm)
  | op (o : SetOp) (a b : ClassTerm)
  deriving Repr, Inhabited

inductive Term where
  | empty
  | flags (fs : FlagList)
  | literal (l : Literal)
  | dot
  | assertion (a : Assertion)
  | property (q : PropertyQuery) (negated : Bool)
  | letter (c : LetterClass) (negated : Bool)
  | bracketed (negated : Bool) (t : ClassTerm)
  | repetition (t : Term) (min : Nat) (max : Option Nat)
  | group (fs : FlagList) (captures : Bool) (t : Term)
  | alternation (ts : List Term)
  | concat (ts : List Term)
  deriving Repr, Inhabited

mutual

/-- How deeply brackets, unions and operations are nested. -/
def ClassTerm.depth : ClassTerm → Nat
  | .bracketed _ t => t.depth + 1
  | .union items => ClassTerm.depthList items + 1
  | .op _ a b => max a.depth b.depth + 1
  | _ => 0

def ClassTerm.depthList : List ClassTerm → Nat
  | [] => 0
  | t :: ts => max t.depth (ClassTerm.depthList ts)

end

mutual

/-- How deeply the parts of a pattern are nested. -/
def Term.depth : Term → Nat
  | .bracketed _ t => t.depth + 1
  | .repetition t _ _ => t.depth + 1
  | .group _ _ t => t.depth + 1
  | .alternation ts => Term.depthList ts + 1
  | .concat ts => Term.depthList ts + 1
  | _ => 0

def Term.depthList : List Term → Nat
  | [] => 0
  | t :: ts => max t.depth (Term.depthList ts)

end

def maxDepth : Nat := 250

/-- Parts in a row; one part stands for itself. -/
def Term.sequence : List Term → Term
  | [] => .empty
  | [t] => t
  | ts => .concat ts

/-- Parts to choose from; one part stands for itself. -/
def Term.choice : List Term → Term
  | [] => .empty
  | [t] => t
  | ts => .alternation ts

/-- The items of a class; one item stands for itself. -/
def ClassTerm.gather : List ClassTerm → ClassTerm
  | [] => .empty
  | [t] => t
  | ts => .union ts

end IngressProxy.Pattern
