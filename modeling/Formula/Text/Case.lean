import Formula.Text.Case.Fold
import Formula.Text.Case.Lower
import Formula.Text.Case.Sigma
import Formula.Text.Case.Title
import Formula.Text.Case.Upper
import Formula.Text.Word

/-!
Changing the case of text. A character may become several; a capital sigma becomes the final sigma
at the end of a word. Halves of surrogate pairs have no case and belong to no word.
-/

namespace Formula.Text

def capitalSigma : Char := 'Σ'

/-- The first code point that matters for a sigma's place has case. -/
def reachesCased (points : List CodePoint) : Bool :=
  match points.dropWhile (CodePoint.satisfies caseIgnorables.contains) with
  | [] => false
  | point :: _ => point.satisfies casedCharacters.contains

/-- The lower-case form of a code point that stands after `before` (nearest first) and before
`after`. -/
def lowerPoint (before : List CodePoint) (point : CodePoint) (after : List CodePoint) :
    List CodePoint :=
  if point = .char capitalSigma then
    if reachesCased before && !reachesCased after then [.char 'ς'] else [.char 'σ']
  else
    lowerMapping.image point

def lowerFrom (before : List CodePoint) : List CodePoint → List CodePoint
  | [] => []
  | point :: after => lowerPoint before point after ++ lowerFrom (point :: before) after

def upper (t : Text) : Text := ⟨t.points.flatMap upperMapping.image⟩

def lower (t : Text) : Text := ⟨lowerFrom [] t.points⟩

/-- The key under which texts that differ only in case are equal. -/
def fold (t : Text) : Text := ⟨t.points.flatMap foldMapping.image⟩

/-- The first code point in its title form, the others in lower case. -/
def capitalizeWord : List CodePoint → List CodePoint
  | [] => []
  | point :: rest => titleMapping.image point ++ lowerFrom [point] rest

def isWordPoint (point : CodePoint) : Bool := point.satisfies isWord

/-- Capitalizes every maximal run of word characters and keeps the rest. -/
def capitalizePoints : List CodePoint → List CodePoint
  | [] => []
  | point :: rest =>
      if isWordPoint point then
        capitalizeWord (point :: rest.takeWhile isWordPoint) ++
          capitalizePoints (rest.dropWhile isWordPoint)
      else
        point :: capitalizePoints rest
termination_by points => points.length
decreasing_by
  · have := (List.dropWhile_sublist isWordPoint (l := rest)).length_le
    simp only [List.length_cons]
    omega
  · simp

def capitalizeWords (t : Text) : Text := ⟨capitalizePoints t.points⟩

/-! ### Names -/

def upperName (name : String) : String := (ofString name).upper.shown

def lowerName (name : String) : String := (ofString name).lower.shown

/-- The key under which names that differ only in case are equal. -/
def foldName (name : String) : String := (ofString name).fold.shown

end Formula.Text
