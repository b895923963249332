import IngressProxy.Pattern.Match
import IngressProxy.Pattern.Parser
import IngressProxy.Pattern.Weight

namespace IngressProxy

/-- A pattern that was accepted, with the text it was read from: a regular expression without
back-references and without assertions that look around, searched anywhere in a path. -/
structure Pattern where
  text : String
  expr : Pattern.Expr

namespace Pattern

/-- Reads a pattern; texts that are none, and patterns that are too large, are refused. -/
def compile? (text : String) : Option Pattern := do
  let t ← Term.parse? text
  let (expr, _) ← t.toExpr {}
  if expr.weight ≤ maxWeight then some { text, expr } else none

/-- Whether a path matches somewhere. -/
def isMatch (p : Pattern) (path : String) : Bool := p.expr.isMatch path

end Pattern

/-- How the path of a rule is read as a pattern, and which paths of requests a pattern matches. -/
class PatternLanguage where
  compile? : String → Option Pattern
  isMatch : Pattern → String → Bool

instance : PatternLanguage := ⟨Pattern.compile?, Pattern.isMatch⟩

end IngressProxy
