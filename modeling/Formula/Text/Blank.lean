import Formula.Text.Basic
import Formula.Text.CharSet

/-!
Blank characters, and trimming them from both ends of a text.
-/

namespace Formula.Text

/-- The spaces, line separators and separating controls of Unicode. -/
def blanks : CharSet where
  spans := [
    (0x9, 0xD), (0x1C, 0x20), (0x85, 0x85), (0xA0, 0xA0), (0x1680, 0x1680), (0x2000, 0x200A),
    (0x2028, 0x2029), (0x202F, 0x202F), (0x205F, 0x205F), (0x3000, 0x3000)]

def isBlank (c : Char) : Bool := blanks.contains c

/-- A list without the elements at its two ends that pass a test. -/
def trimEnds {α : Type} (p : α → Bool) (xs : List α) : List α :=
  ((xs.dropWhile p).reverse.dropWhile p).reverse

def trim (t : Text) : Text := ⟨trimEnds (CodePoint.satisfies isBlank) t.points⟩

end Formula.Text
