import Formula.Error

/-!
The tokens that a parser has before it. What a parser step returns comes with a proof that it has
consumed something, so that loops over tokens end.
-/

namespace Formula

/-- The token before, the tokens ahead, and the position of the end of the source. -/
structure Stream where
  previous : Option Token
  ahead : List Token
  stop : Nat

namespace Stream

def kind? (s : Stream) : Option Token.Kind := s.ahead.head?.map (·.kind)

/-- The position of the next token, or of the end. -/
def position (s : Stream) : Nat := (s.ahead.head?.map (·.position)).getD s.stop

def advance (s : Stream) : Stream :=
  match s.ahead with
  | [] => s
  | token :: rest => ⟨some token, rest, s.stop⟩

def size (s : Stream) : Nat := s.ahead.length

theorem size_advance_lt {s : Stream} {token : Token} {rest : List Token}
    (h : s.ahead = token :: rest) : s.advance.size < s.size := by
  simp [advance, size, h]

theorem size_advance_le (s : Stream) : s.advance.size ≤ s.size := by
  unfold advance size
  split <;> simp_all

end Stream

inductive ParseError where
  | grammar (cause : GrammarCause) (position : Nat)
  | nesting (position : Nat)
deriving DecidableEq, Repr

/-- What was parsed from the front of a stream, and the rest of it. -/
structure Parsed (α : Type) (s : Stream) where
  value : α
  rest : Stream
  shorter : rest.size < s.size

/-- What was parsed from the front of a stream that may have been left as it was. -/
structure Continued (α : Type) (s : Stream) where
  value : α
  rest : Stream
  notLonger : rest.size ≤ s.size

abbrev Parser (α : Type) := (s : Stream) → Except ParseError (Parsed α s)

def Parsed.map {α β : Type} {s : Stream} (f : α → β) (p : Parsed α s) : Parsed β s :=
  ⟨f p.value, p.rest, p.shorter⟩

def Continued.unchanged {α : Type} (value : α) (s : Stream) : Continued α s :=
  ⟨value, s, Nat.le_refl _⟩

theorem Parsed.size_advance_rest_le {α : Type} {s : Stream} (p : Parsed α s) :
    p.rest.advance.size ≤ s.size :=
  Nat.le_trans p.rest.size_advance_le (Nat.le_of_lt p.shorter)

/-- Continues after a parsed front. -/
def Parsed.followedBy {α β : Type} {s : Stream} (p : Parsed α s) (c : Continued β p.rest) :
    Parsed β s :=
  ⟨c.value, c.rest, Nat.lt_of_le_of_lt c.notLonger p.shorter⟩

/-- Parses on after a parsed front. -/
def Parsed.andThen {α β : Type} {s : Stream} (p : Parsed α s) (q : Parsed β p.rest) : Parsed β s :=
  ⟨q.value, q.rest, Nat.lt_trans q.shorter p.shorter⟩

/-- The same result seen from a stream that is not shorter. -/
def Parsed.widen {α : Type} {s t : Stream} (p : Parsed α t) (h : t.size ≤ s.size) : Parsed α s :=
  ⟨p.value, p.rest, Nat.lt_of_lt_of_le p.shorter h⟩

def Parsed.toContinued {α : Type} {s : Stream} (p : Parsed α s) : Continued α s :=
  ⟨p.value, p.rest, Nat.le_of_lt p.shorter⟩

def Continued.widen {α : Type} {s t : Stream} (c : Continued α t) (h : t.size ≤ s.size) :
    Continued α s :=
  ⟨c.value, c.rest, Nat.le_trans c.notLonger h⟩

def expect (kind : Token.Kind) (cause : GrammarCause) : Parser Token := fun s =>
  match h : s.ahead with
  | [] => .error (.grammar cause s.position)
  | token :: _ =>
      if token.kind = kind then
        .ok ⟨token, s.advance, Stream.size_advance_lt h⟩
      else .error (.grammar cause s.position)

end Formula
