import IngressProxy.Pattern.Expr

namespace IngressProxy.Pattern

/-- A place in a text: the characters before and after it. -/
structure Place where
  before : Option Char
  after : Option Char
  deriving DecidableEq, Repr

/-- The places of a text, of which there is one more than there are characters. -/
def places (before : Option Char) : List Char → List Place
  | [] => [⟨before, none⟩]
  | c :: cs => ⟨before, some c⟩ :: places (some c) cs

/-- Whether a character belongs to a word. -/
def isWord (ascii : Bool) (c : Option Char) : Bool :=
  match c with
  | none => false
  | some c => (LetterClass.word.set ascii).contains c

def Look.holds (p : Place) : Look → Bool
  | textStart => p.before.isNone
  | textEnd => p.after.isNone
  | lineStart => p.before.isNone || p.before = some '\n'
  | lineEnd => p.after.isNone || p.after = some '\n'
  | crlfStart =>
    p.before.isNone || p.before = some '\n' || (p.before = some '\r' && p.after ≠ some '\n')
  | crlfEnd =>
    p.after.isNone || p.after = some '\r' || (p.after = some '\n' && p.before ≠ some '\r')
  | word ascii edge =>
    let before := isWord ascii p.before
    let after := isWord ascii p.after
    match edge with
    | .either => before != after
    | .neither => before == after
    | .starts => !before && after
    | .ends => before && !after
    | .startsHalf => !before
    | .endsHalf => !after

def placesWhere (holds : Place → Bool) (ps : List Place) : Nat :=
  ps.foldr (fun p n => 2 * n + if holds p then 1 else 0) 0

/-- Where the matches of an expression end that begin at given places. It is worked out once for a
text. A set of places is a number in which bit `k` is set if the place after the first `k`
characters is a member. -/
structure Ends where
  after : Nat → Nat

namespace Ends

/-- The places after `n` matches in a row. Once another match leads nowhere else, no further one
does. -/
def times (e : Ends) : Nat → Nat → Nat
  | 0, places => places
  | n + 1, places =>
    let next := e.after places
    if next = places then places else e.times n next

/-- The places after at most `n` matches in a row. -/
def upTo (e : Ends) : Nat → Nat → Nat
  | 0, places => places
  | n + 1, places =>
    let next := places ||| e.after places
    if next = places then places else e.upTo n next

end Ends

/-- Where the matches of an expression end in a text that has these places. As each further match of
an unbounded repetition either reaches a new place or adds nothing, as many matches as there are
places are enough. -/
def Expr.ends (ps : List Place) : Expr → Ends
  | empty => ⟨fun places => places⟩
  | chars s =>
    let begins := placesWhere (fun p => p.after.any s.contains) ps
    ⟨fun places => (places &&& begins) <<< 1⟩
  | look l =>
    let holds := placesWhere (fun p => l.holds p) ps
    ⟨fun places => places &&& holds⟩
  | capture e => e.ends ps
  | concat a b =>
    let first := a.ends ps
    let second := b.ends ps
    ⟨fun places => second.after (first.after places)⟩
  | alternation a b =>
    let left := a.ends ps
    let right := b.ends ps
    ⟨fun places => left.after places ||| right.after places⟩
  | repetition e least most =>
    let one := e.ends ps
    let further := match most with
      | none => ps.length
      | some n => n - least
    ⟨fun places => one.upTo further (one.times least places)⟩

/-- Whether an expression matches some part of a text. -/
def Expr.isMatch (e : Expr) (text : String) : Bool :=
  let ps := places none text.toList
  (e.ends ps).after ((1 <<< ps.length) - 1) ≠ 0

end IngressProxy.Pattern
