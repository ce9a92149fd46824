import Formula.Proofs.Expr.Depth
import Formula.Proofs.Expr.Layout
import Formula.Proofs.Expr.Recognition
import Formula.Proofs.Token.Tiling

/-!
How large a tree can be: no larger than the number of tokens that it was parsed from, since every node
owns one of them, and these are no more than the characters of the source.
-/

namespace Formula

namespace Token

theorem Tiles.length_le {position : Nat} {cs rest : List Char} {tokens : List Token}
    (tiles : Tiles position cs tokens rest) : tokens.length + rest.length ≤ cs.length := by
  induction tiles with
  | behind blank =>
      rw [List.length_append]
      exact Nat.add_le_add_right (Nat.zero_le _) _
  | token blank there read after ih =>
      have letters := List.length_pos_iff.mpr (lexemeAt?_isPrefix read).1
      simp only [List.length_append, List.length_cons]
      omega

/-- A source has no more tokens than characters. -/
theorem length_tokens_le {source : String} {tokens : List Token} {stop : Nat}
    (lexes : Token.tokens source = .ok (tokens, stop)) : tokens.length ≤ source.length := by
  obtain ⟨-, rfl, -⟩ := tokens_eq_ok_iff.mp lexes
  rw [← String.length_toList]
  exact Nat.le_of_add_right_le (tiles_scan source).length_le

end Token

namespace Expr

theorem depthAll_le_sizeAll {parts : List Expr} (each : ∀ part ∈ parts, part.depth ≤ part.size) :
    depthAll parts ≤ sizeAll parts := by
  induction parts with
  | nil => exact Nat.le_refl 0
  | cons first rest ih =>
      obtain ⟨head, tail⟩ := List.forall_mem_cons.mp each
      have later := ih tail
      rw [depthAll, sizeAll]
      omega

theorem depth_le_size (e : Expr) : e.depth ≤ e.size := by
  induction e using partsInduction with
  | node e ih =>
      rw [depth_eq, size_eq]
      exact Nat.succ_le_succ (depthAll_le_sizeAll ih)

/-- Every node owns a token, and no token is owned twice. -/
theorem Lies.sizeAll_le {ts : List Token} {trees : List Expr} (lies : Lies ts trees) :
    sizeAll trees ≤ ts.length := by
  induction lies with
  | nil => exact Nat.le_refl 0
  | skip rest ih => exact Nat.le_succ_of_le ih
  | @node token before after e front back owns left right ih₁ ih₂ =>
      have parts : sizeAll e.children = sizeAll before + sizeAll after := by
        rw [owns.children_eq, sizeAll_append]
      simp only [sizeAll, size_eq e, parts, List.length_append, List.length_cons]
      omega
  | join first second ih₁ ih₂ =>
      rw [sizeAll_append, List.length_append]
      exact Nat.add_le_add ih₁ ih₂

theorem size_le_of_ofTokens {tokens : List Token} {stop levels : Nat} {t : Expr}
    (parsed : ofTokens tokens stop levels = .ok t) : t.size ≤ tokens.length := by
  have lies : Lies tokens [t] := (derives_of_ofTokens parsed).lies
  have whole := lies.sizeAll_le
  rwa [sizeAll, sizeAll, Nat.add_zero] at whole

/-- A measurement comes to the number of nodes and the height of any tree. Of a tree that was parsed the
height is at most the number of nodes, which is at most that of the tokens of its source, and this is
at most that of its characters. -/
theorem measure_bounded :
    (∀ e : Expr, e.measure = (e.size, e.depth)) ∧
      ∀ (host : Host) (source : String) (maxNesting : Int) (t : Expr),
        parse host source maxNesting = .ok t →
        ∃ tokens stop, Token.tokens source = .ok (tokens, stop) ∧
          t.measure.2 ≤ t.measure.1 ∧ t.measure.1 ≤ tokens.length ∧
          tokens.length ≤ source.length := by
  refine ⟨measure_eq, fun host source maxNesting t parses => ?_⟩
  obtain ⟨tokens, stop, lexes, parsed⟩ := ofTokens_of_parse parses
  rw [measure_eq]
  exact ⟨tokens, stop, lexes, t.depth_le_size, size_le_of_ofTokens parsed,
    Token.length_tokens_le lexes⟩

theorem measure_bounded_call :
    ∃ t tokens stop, parse .universal "MAX(a, -1)" 32 = .ok t ∧
      Token.tokens "MAX(a, -1)" = .ok (tokens, stop) ∧ t.measure = (4, 3) ∧ 3 ≤ 4 ∧
      4 ≤ tokens.length ∧ tokens.length ≤ 10 := by
  have parsed : ((parse .universal "MAX(a, -1)" 32).toOption.any
      fun t => t.measure == (4, 3)) = true := by
    decide +kernel
  obtain ⟨t, found, measured⟩ := (Option.any_eq_true _ _).mp parsed
  have parses := toOption_eq_some.mp found
  have measured := eq_of_beq measured
  obtain ⟨tokens, stop, lexes, low, nodes, few⟩ := measure_bounded.2 _ _ _ t parses
  rw [measured] at low nodes
  exact ⟨t, tokens, stop, parses, lexes, measured, low, nodes, few⟩

end Expr

end Formula
