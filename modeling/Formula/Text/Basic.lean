/-!
Text as a list of code points. Besides characters these are the halves of surrogate pairs, which
escapes in JSON can write one by one; a text that holds one has no encoding and cannot be sent.
-/

namespace Formula

inductive CodePoint where
  | char (c : Char)
  /-- Half of a surrogate pair, by its place among the halves. -/
  | half (index : Fin 2048)
deriving DecidableEq, Repr

namespace CodePoint

/-- The first of the halves of surrogate pairs. -/
def firstHalf : Nat := 0xD800

def code : CodePoint → Nat
  | .char c => c.toNat
  | .half index => firstHalf + index.val

def char? : CodePoint → Option Char
  | .char c => some c
  | .half _ => none

def ofCode (n : Nat) : CodePoint :=
  if h : firstHalf ≤ n ∧ n < firstHalf + 2048 then .half ⟨n - firstHalf, by omega⟩
  else .char (Char.ofNat n)

theorem ofCode_code (p : CodePoint) : ofCode p.code = p := by
  cases p with
  | char c =>
      have outside : ¬ (firstHalf ≤ c.toNat ∧ c.toNat < firstHalf + 2048) := by
        have valid : c.toNat < 0xD800 ∨ (0xDFFF < c.toNat ∧ c.toNat < 0x110000) := c.valid
        simp only [firstHalf]
        omega
      rw [code, ofCode, dif_neg outside, Char.ofNat_toNat]
  | half index => simp [code, ofCode]

/-- A test of characters, which no half passes. -/
def satisfies (p : Char → Bool) : CodePoint → Bool
  | .char c => p c
  | .half _ => false

/-- The replacement character stands for a half where only characters can be shown. -/
def shown : CodePoint → Char
  | .char c => c
  | .half _ => Char.ofNat 0xFFFD

instance : Ord CodePoint := ⟨fun a b => Ord.compare a.code b.code⟩

end CodePoint

structure Text where
  points : List CodePoint
deriving DecidableEq, Repr

namespace Text

def ofChars (cs : List Char) : Text := ⟨cs.map .char⟩

def ofString (s : String) : Text := ofChars s.toList

instance : Coe String Text := ⟨ofString⟩

instance : Inhabited Text := ⟨⟨[]⟩⟩

instance : Append Text := ⟨fun a b => ⟨a.points ++ b.points⟩⟩

/-- By the first code points that differ; a text comes after its beginnings. -/
instance : Ord Text := ⟨fun a b => Ord.compare a.points b.points⟩

def length (t : Text) : Nat := t.points.length

def isEmpty (t : Text) : Bool := t.points.isEmpty

def join (texts : List Text) : Text := ⟨texts.flatMap points⟩

def singleton (point : CodePoint) : Text := ⟨[point]⟩

/-- The characters of the text, replaced where they are halves. -/
def shownChars (t : Text) : List Char := t.points.map CodePoint.shown

def shown (t : Text) : String := String.ofList t.shownChars

/-- The text has an encoding. -/
def isWhole (t : Text) : Bool := t.points.all fun point => point.char?.isSome

/-- The string of a text, if it has no halves. -/
def toString? (t : Text) : Option String := if t.isWhole then some t.shown else none

@[simp] theorem points_append (a b : Text) : (a ++ b).points = a.points ++ b.points := rfl

@[simp] theorem shown_ofString (s : String) : (ofString s).shown = s := by
  simp [shown, shownChars, ofString, ofChars, Function.comp_def, CodePoint.shown]

theorem isWhole_ofString (s : String) : (ofString s).isWhole = true := by
  simp [isWhole, ofString, ofChars, CodePoint.char?]

theorem toString?_ofString (s : String) : (ofString s).toString? = some s := by
  simp [toString?, isWhole_ofString]

end Text

end Formula
