import Formula.Engine
import Formula.Proofs.Evaluation.Levels
import Formula.Proofs.Expr.Recognition
import Mathlib.Data.Nat.Find

/-!
Limits are gates: with wider ones the same comes out of a formula, unless it exceeded those that it
had. How deeply a source nests is one number, from which on it is parsed as it would be with any
nesting.
-/

namespace Formula

structure Limits.AtMost (limits limits' : Limits) : Prop where
  length : limits.maxLength ≤ limits'.maxLength
  nesting : limits.maxNesting ≤ limits'.maxNesting
  depth : limits.maxDepth ≤ limits'.maxDepth
  nodes : limits.maxNodes ≤ limits'.maxNodes

def FormulaError.IsLimit (e : FormulaError) : Prop := ∃ cause position, e = .limit cause position

theorem FormulaError.IsLimit.kind {e : FormulaError} (limit : e.IsLimit) : e.info.kind = "limit" := by
  obtain ⟨cause, position, rfl⟩ := limit
  rfl

theorem ParseError.isLimit_describe (host : Host) (maxNesting : Int) (position : Nat) :
    (ParseError.describe host maxNesting (.nesting position)).IsLimit := by
  rw [describe]
  split <;> exact ⟨_, _, rfl⟩

namespace Expr

/-! ### Parsing -/

section

variable {host : Host} {tokens : List Token} {stop : Nat}

theorem exists_threshold {P : Nat → Prop} {bound : Nat} (ends : ¬ P bound)
    (stays : ∀ d d', d ≤ d' → ¬ P d → ¬ P d') : ∃ n ≤ bound, ∀ d, P d ↔ d < n := by
  classical
  have some : ∃ d, ¬ P d := ⟨bound, ends⟩
  refine ⟨Nat.find some, Nat.find_min' some ends, fun d => ⟨fun holds => ?_, fun below => ?_⟩⟩
  · rw [← Nat.not_le]
    exact fun reached => stays _ d reached (Nat.find_spec some) holds
  · exact not_not.mp (Nat.find_min some below)

theorem exists_nesting (tokens : List Token) (stop : Nat) :
    ∃ n ≤ tokens.length + 1, ∀ d,
      (∃ position, ofTokens tokens stop d = .error (.nesting position)) ↔ d < n := by
  refine exists_threshold ?_ fun d d' less settled exceeded => ?_
  · rintro ⟨position, failed⟩
    exact absurd (ofTokens_nesting failed) (Nat.not_succ_le_self _)
  · obtain ⟨position, failed⟩ := exceeded
    rw [ofTokens_more less fun position failed => settled ⟨position, failed⟩] at failed
    exact settled ⟨position, failed⟩

theorem mapError_describe_congr {x : Except ParseError Expr}
    (settled : ∀ position, x ≠ .error (.nesting position)) (maxNesting maxNesting' : Int) :
    x.mapError (ParseError.describe host maxNesting) =
      x.mapError (ParseError.describe host maxNesting') := by
  cases x with
  | ok e => rfl
  | error e =>
      cases e with
      | grammar cause position => rfl
      | nesting position => exact absurd rfl (settled position)

theorem mapError_describe_eq_limit_iff {x : Except ParseError Expr} {maxNesting : Int} :
    (∃ cause position, x.mapError (ParseError.describe host maxNesting) =
        .error (.limit cause position)) ↔
      ∃ position, x = .error (.nesting position) := by
  constructor
  · rintro ⟨cause, place, failed⟩
    obtain ⟨e, rfl, described⟩ := mapError_eq_error.mp failed
    cases e with
    | grammar cause position => cases described
    | nesting position => exact ⟨position, rfl⟩
  · rintro ⟨position, rfl⟩
    obtain ⟨cause, place, described⟩ := ParseError.isLimit_describe host maxNesting position
    exact ⟨cause, place, congrArg Except.error described⟩

theorem parse_more (source : String) {maxNesting maxNesting' : Int}
    (less : maxNesting ≤ maxNesting') :
    FailsOr FormulaError.IsLimit (parse host source maxNesting)
      (parse host source maxNesting') := by
  cases lexes : Token.tokens source with
  | error e =>
      rw [parse_of_scanError lexes, parse_of_scanError lexes]
      exact failsOr_self _
  | ok lexed =>
      obtain ⟨tokens, stop⟩ := lexed
      rw [parse_of_tokens lexes, parse_of_tokens lexes]
      by_cases exceeded : ∃ position,
          ofTokens tokens stop (min maxNesting.toNat host.nesting) = .error (.nesting position)
      · obtain ⟨position, failed⟩ := exceeded
        rw [failed]
        exact failsOr_error (ParseError.isLimit_describe host maxNesting position) _
      · have settled : ∀ position, ofTokens tokens stop (min maxNesting.toNat host.nesting) ≠
            .error (.nesting position) := fun position failed => exceeded ⟨position, failed⟩
        have wider : min maxNesting.toNat host.nesting ≤ min maxNesting'.toNat host.nesting := by
          omega
        rw [ofTokens_more wider settled, mapError_describe_congr settled maxNesting maxNesting']
        exact failsOr_self _

theorem parseWithin_more {limits limits' : Limits} (less : limits.AtMost limits') (source : String) :
    FailsOr FormulaError.IsLimit (parseWithin host limits source)
      (parseWithin host limits' source) := by
  unfold parseWithin
  by_cases long : limits.maxLength < source.length
  · rw [if_pos long]
    exact failsOr_error ⟨_, _, rfl⟩ _
  · have short : ¬ limits'.maxLength < source.length := fun long' =>
      long (Nat.lt_of_le_of_lt less.length long')
    rw [if_neg long, if_neg short]
    refine (parse_more source (Int.ofNat_le.mpr less.nesting)).bind fun e => ?_
    dsimp only
    by_cases deep : limits.maxDepth < e.measure.2
    · rw [if_pos deep]
      exact failsOr_error ⟨_, _, rfl⟩ _
    by_cases large : limits.maxNodes < e.measure.1
    · rw [if_neg deep, if_pos large]
      exact failsOr_error ⟨_, _, rfl⟩ _
    have depth := less.depth
    have nodes := less.nodes
    rw [if_neg deep, if_neg large, if_neg (by omega), if_neg (by omega)]
    exact failsOr_self _

/-- A source exceeds a nesting exactly below a threshold, but for the host, which may not follow what
is nested more deeply than `host.nesting`. -/
theorem exists_nesting_source (host : Host) (source : String) :
    ∃ n,
      (∀ tokens stop, Token.tokens source = .ok (tokens, stop) → n ≤ tokens.length + 1 ∧ ∀ d,
        (∃ position, ofTokens tokens stop d = .error (.nesting position)) ↔ d < n) ∧
      ∀ d : Int, parse host source d ≠ .error (.limit .host none) →
        ((∃ cause position, parse host source d = .error (.limit cause position)) ↔
          d.toNat < n) := by
  cases lexes : Token.tokens source with
  | error e =>
      refine ⟨0, fun tokens stop returned => (nomatch returned), fun d _ => ?_⟩
      rw [parse_of_scanError lexes]
      exact iff_of_false (fun ⟨_, _, failed⟩ => nomatch failed) (Nat.not_lt_zero _)
  | ok lexed =>
      obtain ⟨tokens, stop⟩ := lexed
      obtain ⟨n, few, exceeds⟩ := exists_nesting tokens stop
      refine ⟨n, ?_, fun d followed => ?_⟩
      · rintro _ _ ⟨⟩
        exact ⟨few, exceeds⟩
      · rw [parse_of_tokens lexes] at followed ⊢
        rw [mapError_describe_eq_limit_iff, exceeds]
        rcases Nat.lt_or_ge host.nesting d.toNat with beyond | within
        · -- what the host could follow that far is parsed with any nesting beyond
          rw [Nat.min_eq_right (Nat.le_of_lt beyond)] at followed ⊢
          have reached : n ≤ host.nesting := by
            by_contra above
            obtain ⟨position, failed⟩ := (exceeds host.nesting).mpr (Nat.not_le.mp above)
            have further : ¬ d ≤ host.nesting := by omega
            have host : ParseError.describe host d (.nesting position) = .limit .host none :=
              if_neg further
            exact followed (mapError_eq_error.mpr ⟨_, failed, host⟩)
          exact iff_of_false (Nat.not_lt.mpr reached) (by omega)
        · rw [Nat.min_eq_left within]

end

end Expr

namespace Engine

/-! ### Evaluating -/

theorem parse_more (registry : Registry) (host : Host) {limits limits' : Limits}
    (less : limits.AtMost limits') (formula : String) :
    FailsOr (fun e => e.kind = "limit") (parse ⟨registry, limits, host⟩ formula)
      (parse ⟨registry, limits', host⟩ formula) :=
  (Expr.parseWithin_more less formula).mapError fun _ limit => limit.kind

theorem evaluateTree_more (registry : Registry) (host : Host) {limits limits' : Limits}
    (less : limits.AtMost limits') (tree : Expr) (context : Context) :
    (∃ e, evaluateTree ⟨registry, limits, host⟩ tree context = .ok (.error e) ∧ e.kind = "limit") ∨
      evaluateTree ⟨registry, limits, host⟩ tree context =
        evaluateTree ⟨registry, limits', host⟩ tree context := by
  have levels : min (limits.maxDepth : Int).toNat host.depth ≤
      min (limits'.maxDepth : Int).toNat host.depth := by
    have := less.depth
    omega
  have value : FailsOr Stop.IsLimit (tree.value context registry limits.maxDepth host)
      (tree.value context registry limits'.maxDepth host) := by
    unfold Expr.value
    exact tree.evaluate_more context registry host _ _ levels
  unfold evaluateTree
  rcases value with ⟨stop, failed, cause, position, rfl⟩ | same
  · exact .inl ⟨_, by rw [failed], rfl⟩
  · exact .inr (by rw [same])

theorem evaluate_more (registry : Registry) (host : Host) {limits limits' : Limits}
    (less : limits.AtMost limits') (formula : String) (context : Context) :
    (∃ e, evaluate ⟨registry, limits, host⟩ formula context = .ok (.error e) ∧ e.kind = "limit") ∨
      evaluate ⟨registry, limits, host⟩ formula context =
        evaluate ⟨registry, limits', host⟩ formula context := by
  unfold evaluate
  rcases parse_more registry host less formula with ⟨e, failed, limit⟩ | same
  · exact .inl ⟨e, by rw [failed], limit⟩
  · rw [← same]
    cases parse ⟨registry, limits, host⟩ formula with
    | error e => exact .inr rfl
    | ok parsed => exact evaluateTree_more registry host less parsed.expr context

/-- Under tighter limits a formula or a tree exceeds one of them, or exactly the same comes out of it:
the same tree and counts, value, error or defect. A source exceeds a nesting exactly below a
threshold, but for the host, which may not follow what is nested more deeply than `host.nesting`. -/
theorem limit_or_same {limits limits' : Limits} (less : limits.AtMost limits') (registry : Registry)
    (host : Host) (formula : String) (context : Context) :
    ((∃ e, parse ⟨registry, limits, host⟩ formula = .error e ∧ e.kind = "limit") ∨
        parse ⟨registry, limits, host⟩ formula = parse ⟨registry, limits', host⟩ formula) ∧
      ((∃ e, evaluate ⟨registry, limits, host⟩ formula context = .ok (.error e) ∧
          e.kind = "limit") ∨
        evaluate ⟨registry, limits, host⟩ formula context =
          evaluate ⟨registry, limits', host⟩ formula context) ∧
      (∀ tree,
        (∃ e, evaluateTree ⟨registry, limits, host⟩ tree context = .ok (.error e) ∧
            e.kind = "limit") ∨
          evaluateTree ⟨registry, limits, host⟩ tree context =
            evaluateTree ⟨registry, limits', host⟩ tree context) ∧
      ∃ n,
        (∀ tokens stop, Token.tokens formula = .ok (tokens, stop) → n ≤ tokens.length + 1 ∧ ∀ d,
          (∃ position, Expr.ofTokens tokens stop d = .error (.nesting position)) ↔ d < n) ∧
        ∀ d : Int, Expr.parse host formula d ≠ .error (.limit .host none) →
          ((∃ cause position, Expr.parse host formula d = .error (.limit cause position)) ↔
            d.toNat < n) :=
  ⟨parse_more registry host less formula, evaluate_more registry host less formula context,
    fun tree => evaluateTree_more registry host less tree context,
    Expr.exists_nesting_source host formula⟩

theorem limit_or_same_negation :
    let limits : Limits := { maxLength := 4, maxNesting := 3, maxDepth := 2, maxNodes := 2 }
    let context : Context := {
      clock := .ofMoment .universal (.atMidnight ⟨2024, 1, 15, by decide⟩ none) }
    limits.AtMost .default ∧
      evaluate ⟨.builtin, limits, .universal⟩ "-(2)" context =
        evaluate ⟨.builtin, .default, .universal⟩ "-(2)" context := by
  intro limits context
  have less : limits.AtMost .default := ⟨by decide, by decide, by decide, by decide⟩
  refine ⟨less, ?_⟩
  have valued : (match evaluate ⟨.builtin, limits, .universal⟩ "-(2)" context with
      | .ok (.value _) => true
      | _ => false) = true := by
    decide +kernel
  rcases (limit_or_same less .builtin .universal "-(2)" context).2.1 with ⟨e, failed, -⟩ | same
  · rw [failed] at valued
    cases valued
  · exact same

end Engine

end Formula
