import Formula.Expr.Basic

/-!
Trees as values: every node is an object with its type first and its position last.
-/

namespace Formula.Expr

def node (type : String) (entries : List (Text × Value)) (position : Nat) : Value :=
  let place : List (Text × Value) := [("position", .ofNat position)]
  .object (("type", .text type) :: (entries ++ place))

def keyed (key : String) (value : Value) : Value :=
  .object [("key", .text key), ("value", value)]

mutual

/-- The value of a tree, in which the value of every literal is read. -/
def toValue : Expr → Except Fault Value
  | .unknown => .ok (node "ASTNode" [] 0)
  | .literal kind raw position => do
      let v ← literalValue kind raw
      return node "Literal" [("kind", .text kind.name), ("value", v), ("raw", .text raw)] position
  | .identifier name position => .ok (node "Identifier" [("name", .text name)] position)
  | .member base property position => do
      let b ← base.toValue
      return node "MemberExpression"
        [("object", b), ("computed", .bool false), ("property", .text property)] position
  | .index base key position => do
      let b ← base.toValue
      let k ← key.toValue
      return node "MemberExpression"
        [("object", b), ("computed", .bool true), ("property", k)] position
  | .array elements position => do
      let items ← toValues elements
      return node "ArrayExpression" [("elements", .array items)] position
  | .object properties position => do
      let items ← toProperties properties
      return node "ObjectExpression" [("properties", .array items)] position
  | .unary op operand position => do
      let v ← operand.toValue
      return node "UnaryExpression" [("operator", .text op.symbol), ("operand", v)] position
  | .binary op left right position => do
      let l ← left.toValue
      let r ← right.toValue
      return node "BinaryExpression"
        [("operator", .text op.symbol), ("left", l), ("right", r)] position
  | .logical op left right position => do
      let l ← left.toValue
      let r ← right.toValue
      return node "LogicalExpression"
        [("operator", .text op.symbol), ("left", l), ("right", r)] position
  | .conditional test consequent alternate position => do
      let t ← test.toValue
      let c ← consequent.toValue
      let a ← alternate.toValue
      return node "ConditionalExpression"
        [("test", t), ("consequent", c), ("alternate", a)] position
  | .call callee arguments position => do
      let items ← toValues arguments
      return node "CallExpression"
        [("callee", .text callee), ("arguments", .array items)] position

def toValues : List Expr → Except Fault (List Value)
  | [] => .ok []
  | e :: rest => do
      let v ← e.toValue
      return v :: (← toValues rest)

def toProperties : List (String × Expr) → Except Fault (List Value)
  | [] => .ok []
  | (key, e) :: rest => do
      let v ← e.toValue
      return keyed key v :: (← toProperties rest)

end

end Formula.Expr
