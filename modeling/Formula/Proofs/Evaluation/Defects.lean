import Formula.Proofs.Evaluation.Steps

/-!
When an evaluation breaks down instead of failing with an error of the formula: when it comes to a
node that asks for the truth of an integer beyond the floats, or for a system record without a zone.
-/

namespace Formula

namespace Expr

/-- A node breaks down itself: it asks for the truth of an integer beyond the floats, or for the
system record of a context whose zone cannot be told. -/
def BreaksDown (env : Environment) (levels : Nat) (d : Defect) (e : Expr) : Prop :=
  (d = .fault .integerTooLargeForFloat ∧ ∃ operand ∈ e.tested env levels,
    ∃ n, operand.evaluate env levels = .ok (.int n) ∧ Binary.BeyondFloats n) ∨
  ∃ f, d = .fault f ∧ ∃ name position, e = .identifier name position ∧
    env.context.NamesSystem name ∧ env.context.ZoneUnknown f

variable {env : Environment} {d : Defect}

theorem isAbrupt_broken (d : Defect) : (Stop.broken d).IsAbrupt := fun _ same => nomatch same

theorem decide_eq_broken_iff {v : Value} :
    v.decide = .error (.broken d) ↔
      d = .fault .integerTooLargeForFloat ∧ ∃ n, v = .int n ∧ Binary.BeyondFloats n := by
  rw [Value.decide_eq_error_iff, Stop.broken.injEq]

/-- A node that is no name breaks down itself as its tested parts do. -/
theorem breaksDown_iff {e : Expr} {levels : Nat}
    (unnamed : ∀ name position, e ≠ .identifier name position) :
    e.BreaksDown env levels d ↔ ∃ operand ∈ e.tested env levels, ∃ v,
      operand.evaluate env levels = .ok v ∧ v.decide = .error (.broken d) := by
  simp only [decide_eq_broken_iff]
  constructor
  · rintro (⟨same, operand, member, n, value, large⟩ | ⟨f, -, name, position, same, -⟩)
    · exact ⟨operand, member, _, value, same, n, rfl, large⟩
    · exact absurd same (unnamed name position)
  · rintro ⟨operand, member, _, value, same, n, rfl, large⟩
    exact .inl ⟨same, operand, member, n, value, large⟩

/-- Where literals can be read and functions never break down, a node breaks down by itself as it is
described above. -/
theorem stopsItself_broken_iff
    (sturdy : ∀ name f, env.registry.find? name = some f → f.Sturdy) {e : Expr} {levels : Nat}
    (readable : ∀ kind raw position, e = .literal kind raw position →
      ∃ v, literalValue kind raw = .ok v) :
    e.StopsItself env levels (.broken d) ↔ e.BreaksDown env levels d := by
  cases e with
  | literal kind raw position =>
      obtain ⟨v, read⟩ := readable kind raw position rfl
      simp [StopsItself, BreaksDown, tested, read]
  | identifier name position =>
      simp only [StopsItself, Context.resolve_eq_error_iff, Stop.broken.injEq]
      constructor
      · rintro ⟨f, found, same⟩
        exact .inr ⟨f, same, name, position, rfl, found⟩
      · rintro (⟨-, operand, none, -⟩ | ⟨f, rfl, _, _, same, found⟩)
        · cases none
        · cases same
          exact ⟨f, found, rfl⟩
  | call callee arguments position =>
      refine iff_of_false ?_ ?_
      · rintro ⟨f, args, found, -, called, -⟩
        exact Definition.call_fails (sturdy callee f found) _ args _ called d rfl
      · simp [BreaksDown, tested]
  | _ => exact (breaksDown_iff (by intro _ _ same; cases same)).symm

theorem tooDeep_ne_broken (env : Environment) (position : Nat) :
    env.tooDeep position ≠ .broken d := by
  unfold Environment.tooDeep
  split <;> exact fun same => nomatch same

/-- An evaluation breaks down exactly if it comes to a node that does. -/
theorem evaluate_eq_broken_iff
    (sturdy : ∀ name f, env.registry.find? name = some f → f.Sturdy) (e : Expr)
    (readable : ∀ kind raw position, Within (.literal kind raw position) e →
      ∃ v, literalValue kind raw = .ok v) (levels : Nat) :
    e.evaluate env levels = .error (.broken d) ↔
      ∃ node left, Reaches env node left e levels ∧ node.BreaksDown env left d := by
  rw [evaluate_eq_abrupt_iff (isAbrupt_broken d), or_iff_left]
  · refine exists_congr fun node => exists_congr fun left => and_congr_right fun reaches => ?_
    exact stopsItself_broken_iff sturdy fun kind raw position same =>
      readable kind raw position (same ▸ reaches.within)
  · rintro ⟨node, -, same⟩
    exact tooDeep_ne_broken env node.position same

end Expr

end Formula
