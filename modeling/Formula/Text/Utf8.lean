/-!
Reading the bytes of encoded characters. Bytes that encode none are read as replacement characters:
the longest start of an encoded character as one, and every byte that starts none as one.
-/

namespace Formula.Text

def replacement : Char := Char.ofNat 0xFFFD

/-- The ranges of the bytes that follow the first byte of a character; nothing if it starts none. -/
def followers? (lead : Nat) : Option (List (Nat × Nat)) :=
  if lead < 0x80 then some []
  else if lead < 0xC2 then none
  else if lead < 0xE0 then some [(0x80, 0xBF)]
  else if lead = 0xE0 then some [(0xA0, 0xBF), (0x80, 0xBF)]
  else if lead = 0xED then some [(0x80, 0x9F), (0x80, 0xBF)]
  else if lead < 0xF0 then some [(0x80, 0xBF), (0x80, 0xBF)]
  else if lead = 0xF0 then some [(0x90, 0xBF), (0x80, 0xBF), (0x80, 0xBF)]
  else if lead < 0xF4 then some [(0x80, 0xBF), (0x80, 0xBF), (0x80, 0xBF)]
  else if lead = 0xF4 then some [(0x80, 0x8F), (0x80, 0xBF), (0x80, 0xBF)]
  else none

/-- The bytes in front that lie in some ranges, one byte in each. -/
def takeInRanges : List (Nat × Nat) → List Nat → List Nat
  | (low, high) :: ranges, b :: bytes =>
      if low ≤ b && b ≤ high then b :: takeInRanges ranges bytes else []
  | _, _ => []

/-- The code point of a first byte and those that follow it, six bits each. -/
def codeOfBytes (lead : Nat) (following : List Nat) : Nat :=
  let leadBits := if following.isEmpty then lead else lead % Nat.pow 2 (6 - following.length)
  following.foldl (fun code b => code * 64 + b % 64) leadBits

def decodeUtf8 : List Nat → List Char
  | [] => []
  | lead :: rest =>
      match followers? lead with
      | none => replacement :: decodeUtf8 rest
      | some ranges =>
          let following := takeInRanges ranges rest
          let c :=
            if following.length = ranges.length then Char.ofNat (codeOfBytes lead following)
            else replacement
          c :: decodeUtf8 (rest.drop following.length)
termination_by bytes => bytes.length
decreasing_by
  · simp
  · simp only [List.length_drop, List.length_cons]
    omega

end Formula.Text
