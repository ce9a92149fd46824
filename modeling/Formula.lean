import Formula.Api.Route
import Formula.Recalculation
import Formula.Evaluation.Evaluator
import Formula.Proofs.Evaluation.Evaluator
import Formula.Proofs.Evaluation.Blame
import Formula.Proofs.Number.Order
import Formula.Proofs.Text.Order
import Formula.Proofs.Calendar.Order
import Formula.Proofs.Value.Equality
import Formula.Proofs.Value.Order
import Formula.Proofs.Expr.References
import Formula.Proofs.Dependency.Graph
import Formula.Proofs.Evaluation.Noninterference
import Formula.Proofs.Recalculation
import Formula.Proofs.Except
import Formula.Proofs.Token.Numeral
import Formula.Proofs.Sorting
import Formula.Proofs.Evaluation.Reach
import Formula.Proofs.Number.Binary
import Formula.Proofs.Evaluation.Defects
import Formula.Proofs.Engine
import Formula.Proofs.Scope
import Formula.Proofs.Sorting.Permutation
import Formula.Proofs.Value.Range
import Formula.Proofs.Function.Range
import Formula.Proofs.Evaluation.Range
import Formula.Proofs.Expr.Grammar
import Formula.Proofs.Expr.Running
import Formula.Proofs.Expr.Tracking
import Formula.Proofs.Expr.Levels
import Formula.Proofs.Expr.Soundness
import Formula.Proofs.Expr.Completeness
import Formula.Proofs.Expr.Recognition
import Formula.Proofs.Expr.Refusal
import Formula.Proofs.Evaluation.Levels
import Formula.Proofs.Limits
import Formula.Proofs.Expr.Depth
import Formula.Proofs.Expr.Stretch
import Formula.Proofs.Highlight
import Formula.Proofs.Expr.Calls
import Formula.Proofs.Highlight.Calls
import Formula.Proofs.Function.Registry
import Formula.Proofs.Evaluation.Alarms
import Formula.Proofs.Validation
import Formula.Proofs.Token.Scanning
import Formula.Proofs.Token.Coordinates
import Formula.Proofs.Token.Lexeme
import Formula.Proofs.Token.Spacing
import Formula.Proofs.Expr.Unplaced
import Formula.Proofs.Expr.Spacing
import Formula.Proofs.Quoting
import Formula.Proofs.Expr.Layout
import Formula.Proofs.Expr.Places
import Formula.Proofs.Recalculation.Stability
import Formula.Proofs.Function.Runs
import Formula.Proofs.Function.Returns
import Formula.Proofs.Number.Nearest
import Formula.Proofs.Number.Digits
import Formula.Proofs.Number.Shortest
import Formula.Proofs.Number.Layout
import Formula.Proofs.Json.Strings
import Formula.Proofs.Json.Numbers
import Formula.Proofs.Json.RoundTrip
import Formula.Proofs.Batch
import Formula.Proofs.Dependency.Repeats
import Formula.Proofs.Evaluation.Substitution
import Formula.Proofs.Sorting.Weaving
import Formula.Proofs.Sorting.Order
import Formula.Proofs.Function.Sorting
import Formula.Proofs.Calendar.Ordinal
import Formula.Proofs.Calendar.Shift
import Formula.Proofs.Calendar.Months
import Formula.Proofs.Calendar.Units
import Formula.Proofs.Number.Division
import Formula.Proofs.Number.Rounding
import Formula.Proofs.Calendar.Counting
import Formula.Proofs.Calendar.Written
import Formula.Proofs.Function.Dates
import Formula.Proofs.Number.Quantize
import Formula.Proofs.Number.Denoted
import Formula.Proofs.Number.Power
import Formula.Proofs.Number.Integer
import Formula.Proofs.Number.Fixed
import Formula.Proofs.Function.Texts
import Formula.Proofs.Function.Math
import Formula.Proofs.Number.Product
import Formula.Proofs.Evaluation.Arithmetic
import Formula.Proofs.Function.Arguments
import Formula.Proofs.Evaluation.Forms
import Formula.Proofs.Text.Search
import Formula.Proofs.Function.Pieces
import Formula.Proofs.Function.Calls
import Formula.Proofs.Function.Positions
import Formula.Proofs.Function.Lookups
import Formula.Proofs.Function.Unique
import Formula.Proofs.Suggestion
import Formula.Proofs.Expr.FirstUse
import Formula.Proofs.Validation.Issues
import Formula.Proofs.Evaluation.Steps
import Formula.Proofs.Evaluation.Depth
import Formula.Proofs.Expr.Nesting
import Formula.Proofs.Expr.Size
import Formula.Proofs.Expr.Numerals
import Formula.Proofs.Api.Address
import Formula.Proofs.Api.Answers
