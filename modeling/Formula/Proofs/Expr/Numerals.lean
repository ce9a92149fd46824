import Formula.Proofs.Expr.Layout
import Formula.Proofs.Expr.Recognition
import Formula.Proofs.Number.Digits

/-!
The numbers of a formula. Those among its tokens are the number literals of its tree, in their order,
and each of them can be read, unless it is an integer of too many digits.
-/

namespace Formula

namespace Expr

/-! ### Numbers among tokens and in trees -/

/-- The text of a token that is a number, with its position. -/
def numeral? (token : Token) : Option (Nat × String) :=
  if token.kind = .number then some (token.position, token.value) else none

def numerals (ts : List Token) : List (Nat × String) := ts.filterMap numeral?

def ownNumeral? : Expr → Option (Nat × String)
  | .literal .number raw position => some (position, raw)
  | _ => none

def ownNumerals (e : Expr) : List (Nat × String) := e.nodes.filterMap ownNumeral?

theorem ownNumerals_eq (e : Expr) :
    e.ownNumerals = e.ownNumeral?.toList ++ e.children.flatMap ownNumerals :=
  filterMap_nodes_eq ownNumeral? e

theorem mem_ownNumerals_iff {e : Expr} {position : Nat} {raw : String} :
    (position, raw) ∈ e.ownNumerals ↔ Within (.literal .number raw position) e := by
  simp only [ownNumerals, List.mem_filterMap, mem_nodes_iff]
  constructor
  · rintro ⟨node, within, own⟩
    unfold ownNumeral? at own
    split at own <;> cases own
    exact within
  · intro within
    exact ⟨_, within, rfl⟩

/-- The number literals of trees are the numbers among tokens, in their order. -/
def SameNumbers (ts : List Token) (trees : List Expr) : Prop :=
  trees.flatMap ownNumerals = numerals ts

section

variable {ts us : List Token} {trees others : List Expr} {token : Token} {kind : Token.Kind}
  {e : Expr}

theorem sameNumbers_nil : SameNumbers [] [] := rfl

theorem SameNumbers.join (first : SameNumbers ts trees) (second : SameNumbers us others) :
    SameNumbers (ts ++ us) (trees ++ others) := by
  unfold SameNumbers at first second ⊢
  rw [List.flatMap_append, first, second]
  exact List.filterMap_append.symm

theorem sameNumbers_single (is : token.kind = kind) (other : kind ≠ .number) :
    SameNumbers [token] [] := by
  have none : numeral? token = none := if_neg fun number => other (is.symm.trans number)
  unfold SameNumbers numerals
  rw [List.filterMap_cons_none none]
  rfl

theorem SameNumbers.cons (same : SameNumbers ts trees) (is : token.kind = kind)
    (other : kind ≠ .number) : SameNumbers (token :: ts) trees :=
  (sameNumbers_single is other).join same

theorem SameNumbers.closed (same : SameNumbers ts trees) (is : token.kind = kind)
    (other : kind ≠ .number) : SameNumbers (ts ++ [token]) trees := by
  have whole := same.join (sameNumbers_single is other)
  rwa [List.append_nil] at whole

theorem sameNumbers_parts_iff (other : e.ownNumeral? = none) :
    SameNumbers ts e.children ↔ SameNumbers ts [e] := by
  unfold SameNumbers
  rw [List.flatMap_singleton, ownNumerals_eq, other]
  rfl

theorem SameNumbers.node (parts : SameNumbers ts e.children) (other : e.ownNumeral? = none) :
    SameNumbers ts [e] :=
  (sameNumbers_parts_iff other).mp parts

theorem sameNumbers_number (number : token.kind = .number) :
    SameNumbers [token] [.literal .number token.value token.position] := by
  have own : numeral? token = some (token.position, token.value) := if_pos number
  unfold SameNumbers numerals
  rw [List.flatMap_singleton, ownNumerals_eq, List.filterMap_cons_some own]
  rfl

end

theorem ownNumeral?_join {level : Level} {kind : Token.Kind} {join : Expr → Expr → Nat → Expr}
    (joins : level.join? kind = some join) (a b : Expr) (position : Nat) :
    (join a b position).ownNumeral? = none := by
  rcases join?_cases joins with ⟨op, rfl, -⟩ | ⟨op, rfl, -⟩ <;> rfl

theorem Derives.sameNumbers {ts : List Token} {phrase : Phrase} (derives : Derives ts phrase) :
    SameNumbers ts phrase.trees := by
  induction derives with
  | tighter below whole ih => exact ih
  | conditional first asks second parts third ih₁ ih₂ ih₃ =>
      have branches := ih₂.join (ih₃.cons parts nofun)
      exact (ih₁.join (branches.cons asks nofun)).node rfl
  | chain first joins below second ih₁ ih₂ =>
      have operands := ih₁.join (ih₂.cons rfl (ne_of_join? joins rfl))
      refine SameNumbers.node ?_ (ownNumeral?_join joins _ _ _)
      rw [children_join joins]
      exact operands
  | power first raises second ih₁ ih₂ => exact (ih₁.join (ih₂.cons raises nofun)).node rfl
  | not negates only ih => exact (ih.cons negates nofun).node rfl
  | negate negates only ih => exact (ih.cons negates nofun).node rfl
  | member first selects names ih =>
      have selected := (sameNumbers_single names nofun).cons selects nofun
      exact (ih.join selected).node rfl
  | index first opening second closing ih₁ ih₂ =>
      have inside := (ih₂.closed closing nofun).cons opening nofun
      exact (ih₁.join inside).node rfl
  | call first opening inner closing ih₁ ih₂ =>
      -- the callee is a name, which has no parts
      have callee := (sameNumbers_parts_iff rfl).mpr ih₁
      have inside := (ih₂.closed closing nofun).cons opening nofun
      exact (callee.join inside).node rfl
  | number number => exact sameNumbers_number number
  | string string => exact (sameNumbers_single string nofun).node rfl
  | keyword word literal =>
      refine (sameNumbers_single word nofun).node ?_
      rcases keyword?_cases literal with rfl | rfl <;> rfl
  | name word plain => exact (sameNumbers_single word nofun).node rfl
  | group opening inner closing ih => exact (ih.closed closing nofun).cons opening nofun
  | array opening inner closing ih =>
      exact ((ih.closed closing nofun).cons opening nofun).node rfl
  | object opening inner closing ih =>
      exact ((ih.closed closing nofun).cons opening nofun).node rfl
  | property named parts only ih =>
      have value := ih.cons parts nofun
      rcases named with string | word
      · exact value.cons string nofun
      · exact value.cons word nofun
  | noElements => exact sameNumbers_nil
  | oneElement only ih => exact ih
  | moreElements before some parts next ih₁ ih₂ => exact ih₁.join (ih₂.cons parts nofun)
  | noProperties => exact sameNumbers_nil
  | oneProperty only ih => exact ih
  | moreProperties before some parts next ih₁ ih₂ =>
      have both := ih₁.join (ih₂.cons parts nofun)
      rwa [Phrase.trees, List.map_append]

theorem ownNumerals_of_parse {host : Host} {source : String} {maxNesting : Int} {tree : Expr}
    (parses : parse host source maxNesting = .ok tree) :
    tree.ownNumerals = numerals (Token.scan source).tokens := by
  obtain ⟨tokens, stop, lexes, derives⟩ := derives_of_parse parses
  obtain ⟨-, rfl, -⟩ := Token.tokens_eq_ok_iff.mp lexes
  have same := derives.sameNumbers
  rwa [SameNumbers, Phrase.trees, List.flatMap_singleton] at same

end Expr

/-! ### Reading numbers -/

namespace Numeral

open Token

/-- A text spells a number: an integer exactly if no point and no exponent mark is in it, and then the
value of its digits, the most significant first. -/
structure Spells (text : String) (x : Number) : Prop where
  integer : (∃ n, x = .int n) ↔ Unmarked text
  value : ∀ n, x = .int n → ∃ digits : List Nat,
    text.toList.map Text.digitValue? = digits.map some ∧
      n = (Nat.ofDigits 10 digits.reverse : Nat)

theorem spells_float {text : String} (x : Float) (marked : ¬ Unmarked text) :
    Spells text (.float x) where
  integer := ⟨fun ⟨_, same⟩ => (nomatch same), fun unmarked => absurd unmarked marked⟩
  value := fun _ same => nomatch same

theorem spells_int {digits : List Char} (all : AllDigits digits)
    (unmarked : Unmarked (String.ofList digits)) :
    Spells (String.ofList digits) (.int (valueOf digits)) where
  integer := ⟨fun _ => unmarked, fun _ => ⟨_, rfl⟩⟩
  value := by
    rintro n ⟨⟩
    refine ⟨digitValues digits, ?_, ?_⟩
    · rw [String.toList_ofList]
      exact Text.map_digitValue? all
    · rw [valueOf, positional_eq_ofDigits]

theorem literalValue_numeral {whole fraction exponent : List Char}
    (numeral : IsNumeral whole fraction exponent) {text : String}
    (written : text = String.ofList (whole ++ fraction ++ exponent))
    (fits : ¬ (Unmarked text ∧ maxIntegerDigits < text.length)) :
    ∃ x, Expr.literalValue .number text = .ok (.number x) ∧ Spells text x := by
  subst written
  cases float : isFloatNumeral (String.ofList (whole ++ fraction ++ exponent)) with
  | true =>
      have marked : ¬ Unmarked (String.ofList (whole ++ fraction ++ exponent)) := by
        rw [← isFloatNumeral_eq_false_iff, float]
        exact Bool.true_eq_false_eq_False
      obtain ⟨x, read⟩ := literalValue_float numeral float
      exact ⟨.float x, read, spells_float x marked⟩
  | false =>
      have unmarked := isFloatNumeral_eq_false_iff.mp float
      have short := Nat.le_of_not_lt fun long => fits ⟨unmarked, long⟩
      obtain ⟨rfl, rfl⟩ := numeral.integer float
      have some : whole ≠ [] := numeral.nonempty.resolve_right fun none => none rfl
      simp only [List.append_nil, String.length_ofList] at float unmarked short ⊢
      exact ⟨.int _, literalValue_digits numeral.allDigits some float short,
        spells_int numeral.allDigits unmarked⟩

end Numeral

namespace Token

open Numeral

/-- A number among the tokens of a source, unless it is an integer of too many digits, is read as a
number that its text spells. If the source parses, the token is a literal of the tree. -/
theorem scanned_numbers_readable {source : String} {token : Token}
    (member : token ∈ (scan source).tokens) (number : token.kind = .number)
    (fits : ¬ (Unmarked token.value ∧ maxIntegerDigits < token.value.length)) :
    (∀ host maxNesting tree, Expr.parse host source maxNesting = .ok tree →
        Expr.Within (.literal .number token.value token.position) tree) ∧
      ∃ x, Expr.literalValue .number token.value = .ok (.number x) ∧ Spells token.value x := by
  refine ⟨fun host maxNesting tree parses => ?_, ?_⟩
  · rw [← Expr.mem_ownNumerals_iff, Expr.ownNumerals_of_parse parses]
    exact List.mem_filterMap.mpr ⟨token, member, if_pos number⟩
  · obtain ⟨cs, lexeme, some⟩ := lexeme_eq_numberAt member number
    obtain ⟨whole, fraction, exponent, shape, numeral⟩ := numberAt_eq some
    have written : token.value = String.ofList (whole ++ fraction ++ exponent) := by
      rw [value_number number, lexeme, shape]
    exact literalValue_numeral numeral written fits

theorem scanned_numbers_readable_scripts :
    let token : Token := ⟨.number, ['४', '2'], 4, 1, 5⟩
    token ∈ (scan "x + ४2").tokens ∧ token.kind = .number ∧
      ¬ (Unmarked token.value ∧ maxIntegerDigits < token.value.length) ∧
      (∃ tree, Expr.parse .universal "x + ४2" 32 = .ok tree ∧
        Expr.Within (.literal .number "४2" 4) tree) ∧
      Expr.literalValue .number "४2" = .ok (.int 42) := by
  intro token
  have member : token ∈ (scan "x + ४2").tokens := by decide +kernel
  have fits : ¬ (Unmarked token.value ∧ maxIntegerDigits < token.value.length) := by decide
  have text : token.value = "४2" := by decide
  obtain ⟨literal, x, read, spells⟩ := scanned_numbers_readable member rfl fits
  rw [text] at literal read spells
  have parsed : (Expr.parse .universal "x + ४2" 32).toOption.isSome = true := by decide +kernel
  obtain ⟨tree, found⟩ := Option.isSome_iff_exists.mp parsed
  have parses := toOption_eq_some.mp found
  obtain ⟨n, rfl⟩ := spells.integer.mpr (by decide)
  obtain ⟨digits, values, rfl⟩ := spells.value n rfl
  have same : [4, 2] = digits := List.map_injective_iff.mpr (Option.some_injective Nat) values
  subst same
  exact ⟨member, rfl, fits, ⟨tree, parses, literal .universal 32 tree parses⟩, read⟩

end Token

end Formula
