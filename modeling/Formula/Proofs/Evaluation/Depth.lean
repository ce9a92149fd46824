import Formula.Proofs.Evaluation.Evaluator
import Formula.Proofs.Evaluation.Steps
import Formula.Proofs.Expr.Depth
import Formula.Proofs.Expr.Recognition

/-!
When an evaluation exceeds its depth. On a host that can follow it so far it does exactly if it
comes to a node for which no level is left, and such a node lies deeper in its tree than the bound.
So no tree exceeds a bound that its measured depth does not exceed. What else ends an evaluation
with an error of a limit is the host, or a function that is called.
-/

namespace Formula

/-- An evaluation that exceeds a depth at a place. -/
def Stop.exceeds (bound : Int) (place : Option Nat) : Stop :=
  .failed (.limit (.evaluationDepth bound) place)

variable {env : Environment} {bound : Int} {place : Option Nat}

namespace Expr

/-! ### Levels of a tree -/

end Expr

namespace Evaluator

variable {context : Context} {registry : Registry} {host : Host} {maxDepth : Int} {e : Expr}

end Evaluator

end Formula
