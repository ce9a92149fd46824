import Formula.Function.Library.Arrays
import Formula.Function.Library.Dates
import Formula.Function.Library.Logic
import Formula.Function.Library.Lookups
import Formula.Function.Library.Math
import Formula.Function.Library.Texts
import Formula.Function.Registry

/-!
The registry of all built-in functions.
-/

namespace Formula

def builtinFunctions : List Definition :=
  Math.functions ++ Texts.functions ++ Logic.functions ++ Dates.functions ++ Arrays.functions ++
    Lookups.functions

/-- The built-in functions; nothing can be added to them. -/
def Registry.builtin : Registry := (Registry.ofDefinitions builtinFunctions).freeze

end Formula
