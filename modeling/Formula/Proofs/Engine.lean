import Formula.Engine
import Formula.Proofs.Evaluation.Defects
import Formula.Proofs.Expr.Layout
import Formula.Proofs.Expr.Recognition
import Formula.Proofs.Token.Numeral

/-!
What evaluating a formula comes to: a value, an error of the formula, or a defect, and exactly when.
-/

namespace Formula

namespace Expr

/-- Every literal of a parsed tree can be read, if no integer of the source has too many digits. -/
theorem literalValue_of_parseWithin {host : Host} {limits : Limits} {source : String}
    {parsed : Measured} (fit : Token.IntegersFit source)
    (parses : parseWithin host limits source = .ok parsed) {kind : LiteralKind} {raw : String}
    {position : Nat}
    (within : Within (.literal kind raw position) parsed.expr) :
    ∃ v, literalValue kind raw = .ok v := by
  obtain ⟨tokens, stop, lexes, derives⟩ := derives_of_parse (parse_of_parseWithin parses).1
  obtain ⟨-, rfl, -⟩ := Token.tokens_eq_ok_iff.mp lexes
  have placed := derives.lies.within List.mem_cons_self within
  obtain ⟨token, member, rfl, number⟩ := placed.literal
  cases kind with
  | number => exact Token.literalValue_token fit member (number rfl)
  | string => exact ⟨_, rfl⟩
  | boolean => exact ⟨_, rfl⟩
  | null => exact ⟨_, rfl⟩

end Expr

namespace Engine

/-- The kinds of the errors of formulas. -/
def errorKinds : List String := ["lex", "syntax", "limit", "runtime"]

theorem kind_info_mem (e : FormulaError) : e.info.kind ∈ errorKinds := by
  cases e <;> simp [FormulaError.info, errorKinds]

/-- Evaluating a formula comes to a node that breaks down. -/
def BreaksDown (limits : Limits) (host : Host) (formula : String) (context : Context)
    (d : Defect) : Prop :=
  let env : Environment := ⟨context, .builtin, limits.maxDepth, host⟩
  ∃ parsed, parse { limits, host } formula = .ok parsed ∧ ∃ node left,
    Expr.Reaches env node left parsed.expr (min limits.maxDepth host.depth) ∧
      node.BreaksDown env left d

theorem kind_of_evaluate {limits : Limits} {host : Host} {formula : String} {context : Context}
    {e : ErrorInfo} (failed : evaluate { limits, host } formula context = .ok (.error e)) :
    e.kind ∈ errorKinds := by
  unfold evaluate at failed
  cases parses : parse { limits, host } formula with
  | error info =>
      rw [parses] at failed
      cases failed
      obtain ⟨error, -, rfl⟩ := mapError_eq_error.mp parses
      exact kind_info_mem error
  | ok parsed =>
      rw [parses] at failed
      simp only [evaluateTree] at failed
      split at failed
      · cases failed
      · rename_i error _
        cases failed
        exact kind_info_mem error
      · cases failed

theorem evaluateTree_eq_error_iff {engine : Engine} {tree : Expr} {context : Context} {d : Defect} :
    engine.evaluateTree tree context = .error d ↔
      tree.value context engine.registry engine.limits.maxDepth engine.host =
        .error (.broken d) := by
  unfold evaluateTree
  split
  · rename_i value
    simp [value]
  · rename_i failed
    simp [failed]
  · rename_i broken
    simp [broken]

theorem evaluate_eq_error_iff {limits : Limits} {host : Host} {formula : String} {context : Context}
    (fit : Token.IntegersFit formula) {d : Defect} :
    evaluate { limits, host } formula context = .error d ↔
      BreaksDown limits host formula context d := by
  unfold evaluate BreaksDown
  cases parses : parse { limits, host } formula with
  | error info => simp
  | ok parsed =>
      have within := mapError_eq_ok.mp parses
      let env : Environment := ⟨context, .builtin, limits.maxDepth, host⟩
      have sturdy : ∀ name f, env.registry.find? name = some f → f.Sturdy := fun name f found =>
        Definition.sturdy_builtin f (Registry.mem_of_find?_builtin found)
      have broken := Expr.evaluate_eq_broken_iff (d := d) sturdy parsed.expr
        (fun kind raw position => Expr.literalValue_of_parseWithin fit within)
        (min limits.maxDepth host.depth)
      simp only [Except.ok.injEq, exists_eq_left']
      exact evaluateTree_eq_error_iff.trans broken

/-- Evaluating a formula whose integers can be read gives a value or an error of the formula, unless
it comes to a node that asks for the truth of an integer beyond the floats, or for the system record
of a context whose zone cannot be told; then, and only then, a defect escapes. -/
theorem evaluate_returns_iff (limits : Limits) (host : Host) (formula : String) (context : Context)
    (fit : Token.IntegersFit formula) :
    ((∃ outcome, evaluate { limits, host } formula context = .ok outcome ∧
        ∀ e, outcome = .error e → e.kind ∈ ["lex", "syntax", "limit", "runtime"]) ↔
      ∀ d, ¬ BreaksDown limits host formula context d) ∧
    ∀ d, evaluate { limits, host } formula context = .error d ↔
      BreaksDown limits host formula context d := by
  refine ⟨?_, fun d => evaluate_eq_error_iff fit⟩
  constructor
  · rintro ⟨outcome, returned, -⟩ d breaks
    rw [← evaluate_eq_error_iff fit, returned] at breaks
    cases breaks
  · intro whole
    cases returned : evaluate { limits, host } formula context with
    | error d => exact absurd (evaluate_eq_error_iff fit |>.mp returned) (whole d)
    | ok outcome =>
        refine ⟨outcome, rfl, ?_⟩
        rintro e rfl
        exact kind_of_evaluate returned

theorem evaluate_returns_iff_power :
    let context : Context := {
      clock := .ofMoment .universal (.atMidnight ⟨2024, 1, 15, by decide⟩ none) }
    Token.IntegersFit "!(10 ** 400)" ∧
      BreaksDown .default .universal "!(10 ** 400)" context (.fault .integerTooLargeForFloat) := by
  intro context
  have fit : Token.IntegersFit "!(10 ** 400)" := by
    unfold Token.IntegersFit
    decide +kernel
  refine ⟨fit, ?_⟩
  apply ((evaluate_returns_iff .default .universal "!(10 ** 400)" context fit).2 _).mp
  have broken : (match evaluate { host := .universal } "!(10 ** 400)" context with
      | .error (.fault .integerTooLargeForFloat) => true
      | _ => false) = true := by
    decide +kernel
  split at broken
  · assumption
  · cases broken

/-- A formula of nothing but short numbers can break down. -/
theorem evaluate_not_total :
    let context : Context := {
      clock := .ofMoment .universal (.atMidnight ⟨2024, 1, 15, by decide⟩ none) }
    Token.IntegersFit "!(10 ** 400)" ∧
      ¬ ∃ outcome,
        evaluate { host := .universal } "!(10 ** 400)" context = .ok outcome := by
  intro context
  have broken : (evaluate { host := .universal } "!(10 ** 400)" context).toBool =
      false := by
    decide +kernel
  constructor
  · unfold Token.IntegersFit
    decide +kernel
  · rintro ⟨outcome, returned⟩
    rw [returned] at broken
    cases broken

end Engine

end Formula
