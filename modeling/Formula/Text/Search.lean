/-!
Searching a list, such as the code points of a text. Occurrences are taken from the left and do not
overlap. `splitOn` and `replaceAll` choose the same occurrences, and joining what `splitOn` gives
restores the text.
-/

namespace Formula.Text

variable {α : Type} [BEq α]

/-- The number of elements before the first occurrence. -/
def find? (needle : List α) : List α → Option Nat
  | [] => if needle.isEmpty then some 0 else none
  | x :: rest =>
      if needle.isPrefixOf (x :: rest) then some 0 else (find? needle rest).map (· + 1)

/-- The place of the first occurrence that starts at `start` or later. -/
def findFrom? (needle text : List α) (start : Nat) : Option Nat :=
  if start ≤ text.length then (find? needle (text.drop start)).map (· + start) else none

def occursIn (needle text : List α) : Bool := (find? needle text).isSome

def prepend (x : α) : List (List α) → List (List α)
  | [] => [[x]]
  | piece :: pieces => (x :: piece) :: pieces

/-- The pieces between the occurrences of the delimiter `first :: others`. -/
def splitOn (first : α) (others : List α) : List α → List (List α)
  | [] => [[]]
  | x :: rest =>
      if (first :: others).isPrefixOf (x :: rest) then
        [] :: splitOn first others (rest.drop others.length)
      else
        prepend x (splitOn first others rest)
termination_by text => text.length
decreasing_by
  · simp only [List.length_drop, List.length_cons]
    omega
  · simp

/-- Every occurrence of `first :: others` gives way to `replacement`. -/
def replaceAll (first : α) (others replacement : List α) : List α → List α
  | [] => []
  | x :: rest =>
      if (first :: others).isPrefixOf (x :: rest) then
        replacement ++ replaceAll first others replacement (rest.drop others.length)
      else
        x :: replaceAll first others replacement rest
termination_by text => text.length
decreasing_by
  · simp only [List.length_drop, List.length_cons]
    omega
  · simp

def joinWith (separator : List α) : List (List α) → List α
  | [] => []
  | [piece] => piece
  | piece :: pieces => piece ++ separator ++ joinWith separator pieces

end Formula.Text
