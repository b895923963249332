import IngressProxy.Pattern.Term
import IngressProxy.Unicode.Property

namespace IngressProxy.Pattern

/-- Which side of a place has to belong to a word. -/
inductive WordEdge where
  | either
  | neither
  | starts
  | ends
  | startsHalf
  | endsHalf
  deriving DecidableEq, Repr

/-- Conditions on a place in the text. A line ends before a newline, or at a carriage return,
newline, or both. -/
inductive Look where
  | textStart
  | textEnd
  | lineStart
  | lineEnd
  | crlfStart
  | crlfEnd
  | word (ascii : Bool) (edge : WordEdge)
  deriving DecidableEq, Repr

/-- The meaning of a pattern, with its switches and names resolved. A pattern whose classes could
match half a character has none. -/
inductive Expr where
  | empty
  | chars (s : CharSet)
  | look (l : Look)
  | capture (e : Expr)
  | concat (a b : Expr)
  | alternation (a b : Expr)
  | repetition (e : Expr) (min : Nat) (max : Option Nat)
  deriving Repr, Inhabited

structure Switches where
  caseInsensitive : Bool := false
  multiLine : Bool := false
  dotMatchesNewline : Bool := false
  unicode : Bool := true
  crlf : Bool := false
  deriving DecidableEq, Repr

/-- Moves the switches of a list. Greed and extended mode do not change what is matched. -/
def Switches.set (s : Switches) (fs : FlagList) : Switches :=
  fs.foldl
    (fun s f =>
      match f.1 with
      | .caseInsensitive => { s with caseInsensitive := f.2 }
      | .multiLine => { s with multiLine := f.2 }
      | .dotMatchesNewline => { s with dotMatchesNewline := f.2 }
      | .unicode => { s with unicode := f.2 }
      | .crlf => { s with crlf := f.2 }
      | .swapGreed => s
      | .extended => s)
    s

/-- Closes a set under case, if the switches ask for it. -/
def Switches.fold (s : Switches) (c : CharSet) : CharSet :=
  if s.caseInsensitive then (if s.unicode then .folded c else .asciiFolded c) else c

/-- Closes a set under case and then negates it. Without Unicode the negation of a class holds bytes
that are no characters, so there is none. -/
def Switches.foldNegate (s : Switches) (negated : Bool) (c : CharSet) : Option CharSet :=
  if negated then (if s.unicode then some (.compl (s.fold c)) else none) else some (s.fold c)

def asciiClass (name : String) : CodeRanges :=
  match name with
  | "alnum" => [(48, 57), (65, 90), (97, 122)]
  | "alpha" => [(65, 90), (97, 122)]
  | "ascii" => [(0, 127)]
  | "blank" => [(9, 9), (32, 32)]
  | "cntrl" => [(0, 31), (127, 127)]
  | "digit" => [(48, 57)]
  | "graph" => [(33, 126)]
  | "lower" => [(97, 122)]
  | "print" => [(32, 126)]
  | "punct" => [(33, 47), (58, 64), (91, 96), (123, 126)]
  | "space" => [(9, 13), (32, 32)]
  | "upper" => [(65, 90)]
  | "word" => [(48, 57), (65, 90), (95, 95), (97, 122)]
  | "xdigit" => [(48, 57), (65, 70), (97, 102)]
  | _ => []

def LetterClass.set (ascii : Bool) : LetterClass → CharSet
  | .digit => if ascii then .ranges (asciiClass "digit") else Unicode.digit
  | .blank => if ascii then .ranges (asciiClass "space") else Unicode.blank
  | .word => if ascii then .ranges (asciiClass "word") else Unicode.word

/-- A class of a letter; without Unicode there is no negated one. -/
def letterSet (s : Switches) (c : LetterClass) (negated : Bool) : Option CharSet :=
  if negated then (if s.unicode then some (.compl (c.set false)) else none)
  else some (c.set (!s.unicode))

/-- A property of characters, which needs Unicode. -/
def propertySet (s : Switches) (q : PropertyQuery) (negated : Bool) : Option CharSet :=
  if s.unicode then
    match q with
    | .named name => (Unicode.named? name).bind (s.foldNegate negated)
    | .valued unequal property value =>
      (Unicode.valued? property value).bind (s.foldNegate (negated != unequal))
  else none

/-- A character of a class; without Unicode it is of ASCII. -/
def classLiteral (s : Switches) (l : Literal) : Option Char :=
  if s.unicode || l.char.toNat < 0x80 then some l.char else none

mutual

def ClassTerm.toSet (s : Switches) : ClassTerm → Option CharSet
  | .empty => some .empty
  | .literal l => (classLiteral s l).map .singleton
  | .interval a b => do some (.interval (← classLiteral s a) (← classLiteral s b))
  | .ascii name negated => s.foldNegate negated (.ranges (asciiClass name))
  | .property q negated => propertySet s q negated
  | .letter c negated => letterSet s c negated
  | .bracketed negated t => do s.foldNegate negated (← t.toSet s)
  | .union items => ClassTerm.toUnion s items
  | .op o a b => do
    let a := s.fold (← a.toSet s)
    let b := s.fold (← b.toSet s)
    match o with
    | .inter => some (.inter a b)
    | .diff => some (.diff a b)
    | .symmDiff => some (.symmDiff a b)

def ClassTerm.toUnion (s : Switches) : List ClassTerm → Option CharSet
  | [] => some .empty
  | t :: ts => do some (.union (← t.toSet s) (← ClassTerm.toUnion s ts))

end

/-- A character by itself. Without Unicode, two hexadecimal digits stand for a byte, which must be
of ASCII. -/
def literalSet (s : Switches) (l : Literal) : Option CharSet :=
  if !s.unicode && l.byteEscape && 0x80 ≤ l.char.toNat then none
  else some (s.fold (.singleton l.char))

/-- The characters for which the dot stands; it needs Unicode. -/
def dotSet (s : Switches) : Option CharSet :=
  if !s.unicode then none
  else if s.dotMatchesNewline then some .all
  else if s.crlf then some (.compl (.ranges [(10, 10), (13, 13)]))
  else some (.compl (.ranges [(10, 10)]))

def Assertion.toLook (s : Switches) : Assertion → Look
  | .lineStart => if s.multiLine then (if s.crlf then .crlfStart else .lineStart) else .textStart
  | .lineEnd => if s.multiLine then (if s.crlf then .crlfEnd else .lineEnd) else .textEnd
  | .textStart => .textStart
  | .textEnd => .textEnd
  | .wordBoundary => .word (!s.unicode) .either
  | .notWordBoundary => .word (!s.unicode) .neither
  | .wordStart => .word (!s.unicode) .starts
  | .wordEnd => .word (!s.unicode) .ends
  | .wordStartHalf => .word (!s.unicode) .startsHalf
  | .wordEndHalf => .word (!s.unicode) .endsHalf

mutual

/-- The meaning of a pattern under the switches, and the switches behind it. Switches that are moved
inside of a group are moved back at its end. -/
def Term.toExpr (s : Switches) : Term → Option (Expr × Switches)
  | .empty => some (.empty, s)
  | .flags fs => some (.empty, s.set fs)
  | .literal l => (literalSet s l).map fun c => (.chars c, s)
  | .dot => (dotSet s).map fun c => (.chars c, s)
  | .assertion a => some (.look (a.toLook s), s)
  | .property q negated => (propertySet s q negated).map fun c => (.chars c, s)
  | .letter c negated => (letterSet s c negated).map fun c => (.chars c, s)
  | .bracketed negated t =>
    ((t.toSet s).bind (s.foldNegate negated)).map fun c => (.chars c, s)
  | .repetition t least most =>
    (t.toExpr s).map fun (e, s') => (.repetition e least most, s')
  | .group fs captures t =>
    (t.toExpr (s.set fs)).map fun (e, _) => (if captures then .capture e else e, s)
  | .alternation ts => Term.toAlternation s ts
  | .concat ts => Term.toConcat s ts

def Term.toConcat (s : Switches) : List Term → Option (Expr × Switches)
  | [] => some (.empty, s)
  | [t] => t.toExpr s
  | t :: ts => do
    let (a, s) ← t.toExpr s
    let (b, s) ← Term.toConcat s ts
    some (.concat a b, s)

def Term.toAlternation (s : Switches) : List Term → Option (Expr × Switches)
  | [] => some (.empty, s)
  | [t] => t.toExpr s
  | t :: ts => do
    let (a, s) ← t.toExpr s
    let (b, s) ← Term.toAlternation s ts
    some (.alternation a b, s)

end

end IngressProxy.Pattern
