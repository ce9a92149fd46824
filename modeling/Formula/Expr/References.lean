import Formula.Expr.Measure
import Formula.Record

/-!
The names that a tree refers to: the fields that it reads and the functions that it calls, each
once, with the first position in the order of the source. A property of a record is no reference;
the record itself is.
-/

namespace Formula

/-- Names with the position of their first use. -/
structure References where
  fields : List (String × Nat)
  functions : List (String × Nat)
deriving DecidableEq, Repr

namespace References

/-- Notes a name unless it is there already. -/
def note (name : String) (position : Nat) (names : List (String × Nat)) : List (String × Nat) :=
  if Record.contains name names then names else names ++ [(name, position)]

/-- Notes what a node itself refers to. Functions are known by their names in upper case. -/
def noteNode (r : References) : Expr → References
  | .identifier name position => { r with fields := note name position r.fields }
  | .call callee _ position =>
      { r with functions := note (Text.upperName callee) position r.functions }
  | _ => r

def collect (pending : List Expr) (r : References) : References :=
  match pending with
  | [] => r
  | e :: rest => collect (e.children ++ rest) (r.noteNode e)
termination_by Expr.sizeAll pending
decreasing_by
  rw [Expr.sizeAll_append, Expr.sizeAll, Expr.size_eq e]
  omega

end References

def Expr.references (e : Expr) : References := References.collect [e] ⟨[], []⟩

end Formula
