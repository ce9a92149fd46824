import Formula.Text.Basic

/-!
Case mappings of characters. A mapping lists runs of characters that move by one offset, and the
characters that become several.
-/

namespace Formula.Text

/-- The characters `first`, `first + stride`, … up to `last`, each mapped `offset` code points
on. -/
structure CaseRun where
  first : Nat
  last : Nat
  stride : Nat
  offset : Int

def CaseRun.target? (run : CaseRun) (code : Nat) : Option Nat :=
  if run.first ≤ code && code ≤ run.last && (code - run.first) % run.stride == 0 then
    some (code + run.offset).toNat
  else
    none

/-- A character of no run and no expansion is its own image. -/
structure CaseMapping where
  runs : List CaseRun
  expansions : List (Nat × List Nat)

def CaseMapping.map (m : CaseMapping) (c : Char) : List Char :=
  match m.runs.findSome? (CaseRun.target? · c.toNat) with
  | some image => [Char.ofNat image]
  | none =>
      match m.expansions.lookup c.toNat with
      | some image => image.map Char.ofNat
      | none => [c]

/-- The image of a code point; a half is its own. -/
def CaseMapping.image (m : CaseMapping) : CodePoint → List CodePoint
  | .char c => (m.map c).map .char
  | .half index => [.half index]

end Formula.Text
