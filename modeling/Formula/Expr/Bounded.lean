import Formula.Expr.Measure
import Formula.Expr.Parsing
import Formula.Host
import Formula.Limits

/-!
Parsing sources within bounds. The length is checked before anything is read, the nesting while
parsing, and the depth and size of the tree afterwards.
-/

namespace Formula

/-- A nesting that the host cannot follow is its own bound, not that of the limits. -/
def ParseError.describe (host : Host) (maxNesting : Int) : ParseError → FormulaError
  | .grammar cause position => .grammar cause position
  | .nesting position =>
      if maxNesting ≤ host.nesting then .limit (.nesting maxNesting) (some position)
      else .limit .host none

namespace Expr

def parse (host : Host) (source : String) (maxNesting : Int) : Except FormulaError Expr := do
  let (tokens, stop) ← (Token.tokens source).mapError .scan
  let levels := min maxNesting.toNat host.nesting
  (ofTokens tokens stop levels).mapError (ParseError.describe host maxNesting)

/-- A tree with its size and depth. -/
structure Measured where
  expr : Expr
  nodes : Nat
  depth : Nat

def parseWithin (host : Host) (limits : Limits) (source : String) :
    Except FormulaError Measured := do
  if limits.maxLength < source.length then
    .error (.limit (.length limits.maxLength) (some limits.maxLength))
  else
    let expr ← parse host source limits.maxNesting
    let (nodes, depth) := expr.measure
    if limits.maxDepth < depth then .error (.limit (.depth limits.maxDepth) (some 0))
    else if limits.maxNodes < nodes then .error (.limit (.nodes limits.maxNodes) (some 0))
    else return ⟨expr, nodes, depth⟩

end Expr

end Formula
