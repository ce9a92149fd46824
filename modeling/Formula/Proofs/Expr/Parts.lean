import Formula.Expr.Measure

/-!
Trees as nodes with parts: induction over the parts of a node, and the nodes that lie within a tree.
-/

namespace Formula.Expr

theorem size_le_sizeAll {part : Expr} {parts : List Expr} (member : part ∈ parts) :
    part.size ≤ sizeAll parts := by
  induction parts with
  | nil => cases member
  | cons first rest ih =>
      simp only [sizeAll]
      rcases List.mem_cons.mp member with rfl | later
      · omega
      · have := ih later
        omega

theorem size_lt_of_mem_children {part e : Expr} (member : part ∈ e.children) :
    part.size < e.size := by
  have := size_le_sizeAll member
  rw [size_eq e]
  omega

/-- What holds of a node as soon as it holds of its parts holds of every tree. -/
@[elab_as_elim] theorem partsInduction {motive : Expr → Prop}
    (node : ∀ e : Expr, (∀ part, part ∈ e.children → motive part) → motive e) (e : Expr) :
    motive e :=
  node e fun part _member => partsInduction node part
termination_by e.size
decreasing_by exact size_lt_of_mem_children _member

/-- `x` is a node of a tree: the tree itself, or a node of one of its parts. -/
inductive Within (x : Expr) : Expr → Prop where
  | root : Within x x
  | part {child e : Expr} (member : child ∈ e.children) (below : Within x child) : Within x e

theorem within_iff {x e : Expr} : Within x e ↔ x = e ∨ ∃ child ∈ e.children, Within x child := by
  constructor
  · intro within
    cases within with
    | root => exact .inl rfl
    | part member below => exact .inr ⟨_, member, below⟩
  · rintro (rfl | ⟨child, member, below⟩)
    · exact .root
    · exact .part member below

/-- The tree reads the field or variable of a name somewhere. -/
def Mentions (name : String) (e : Expr) : Prop := ∃ position, Within (.identifier name position) e

theorem Mentions.of_part {name : String} {part e : Expr} (member : part ∈ e.children)
    (mentions : part.Mentions name) : e.Mentions name := by
  obtain ⟨position, within⟩ := mentions
  exact ⟨position, .part member within⟩

/-- The tree calls the function of a name in upper case somewhere. -/
def Invokes (name : String) (e : Expr) : Prop :=
  ∃ callee arguments position, Within (.call callee arguments position) e ∧
    name = Text.upperName callee

end Formula.Expr
