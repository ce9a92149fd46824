import Formula.Proofs.Expr.Running

/-!
Following a parser from token to token. A parser that looks no further than the next token does the
same in front of any tokens that start as those it has seen; and where it stops with an error, what it
has seen can still be continued.
-/

namespace Formula.Expr

variable {α β : Type}

/-- The position of the next token, or of the end. -/
def place (ahead : List Token) (stop : Nat) : Nat := (ahead.head?.map (·.position)).getD stop

/-- What came out at a stream is accounted for by `R`, which says what some tokens are read as. A value
is what the tokens were read as that were taken. At an error the tokens taken can be continued. In both
cases `again` does the same wherever these tokens and the next one stand. Nesting is exceeded only by
`bound` tokens or more. -/
structure Tracks (R : List Token → α → Prop) (bound : Nat) (s : Stream)
    (result : Except ParseError (α × Stream)) (again : Stream → Except ParseError (α × Stream)) :
    Prop where
  accepts : ∀ v r, result = .ok (v, r) → ∃ ts, s.ahead = ts ++ r.ahead ∧ r.stop = s.stop ∧ R ts v ∧
    ∀ rest stop, rest.head? = r.ahead.head? →
      again ⟨s.previous, ts ++ rest, stop⟩ = .ok (v, ⟨r.previous, rest, stop⟩)
  refuses : ∀ cause position, result = .error (.grammar cause position) →
    ∃ front back, s.ahead = front ++ back ∧ position = place back s.stop ∧
      (∃ more v, R (front ++ more) v) ∧
      ∀ rest stop, rest.head? = back.head? →
        again ⟨s.previous, front ++ rest, stop⟩ = .error (.grammar cause (place rest stop))
  exceeds : ∀ position, result = .error (.nesting position) → bound ≤ s.size

/-- A parser tracks a relation at every stream, and another one does the same again. -/
def Follows (R : List Token → α → Prop) (bound : Nat) (p p' : Parser α) : Prop :=
  ∀ s, Tracks R bound s (run p s) (run p')

/-- Two streams look the same to a parser that looks at the next token. -/
structure Alike (s s' : Stream) : Prop where
  previous : s'.previous = s.previous
  next : s'.ahead.head? = s.ahead.head?

theorem Alike.lacks {s s' : Stream} (alike : Alike s s') {P : Token → Prop}
    (lacks : ∀ token, s.ahead.head? = some token → P token) :
    ∀ token, s'.ahead.head? = some token → P token :=
  fun token found => lacks token (alike.next ▸ found)

theorem Alike.cons {token : Token} {rest : List Token} {previous : Option Token} {stop : Nat}
    {s' : Stream} (alike : Alike ⟨previous, token :: rest, stop⟩ s') :
    ∃ rest' stop', s' = ⟨previous, token :: rest', stop'⟩ := by
  obtain ⟨previous', ahead', stop'⟩ := s'
  obtain ⟨rest', ahead⟩ := List.head?_eq_some_iff.mp alike.next
  obtain rfl : previous' = previous := alike.previous
  obtain rfl : ahead' = token :: rest' := ahead
  exact ⟨rest', stop', rfl⟩

/-- The next token is of one sort, or what comes next is of the other sort if it is a token. -/
theorem next_or_lacks {P Q : Token → Prop} (either : ∀ token, P token ∨ Q token) (s : Stream) :
    (∃ previous token rest stop, s = ⟨previous, token :: rest, stop⟩ ∧ P token) ∨
      ∀ token, s.ahead.head? = some token → Q token := by
  obtain ⟨previous, ahead, stop⟩ := s
  cases ahead with
  | nil => exact .inr fun token none => nomatch none
  | cons token rest =>
      refine (either token).imp (fun holds => ⟨previous, token, rest, stop, rfl, holds⟩) ?_
      intro holds other found
      cases found
      exact holds

theorem head?_append_congr {front rest rest' : List Token} (same : rest.head? = rest'.head?) :
    (front ++ rest).head? = (front ++ rest').head? := by
  cases front with
  | nil => exact same
  | cons token front => rfl

section

variable {R : List Token → α → Prop} {bound : Nat} {s : Stream}
  {result : Except ParseError (α × Stream)} {again : Stream → Except ParseError (α × Stream)}

theorem tracks_ok {v : α} (reads : R [] v) (same : ∀ s', Alike s s' → again s' = .ok (v, s')) :
    Tracks R bound s (.ok (v, s)) again := by
  refine ⟨?_, fun _ _ failed => (nomatch failed), fun _ failed => (nomatch failed)⟩
  intro w r returned
  cases returned
  exact ⟨[], rfl, rfl, reads, fun rest stop next => same _ ⟨rfl, next⟩⟩

theorem tracks_error {cause : GrammarCause} (goesOn : ∃ more v, R more v)
    (same : ∀ s', Alike s s' → again s' = .error (.grammar cause s'.position)) :
    Tracks R bound s (.error (.grammar cause s.position)) again := by
  refine ⟨fun _ _ returned => (nomatch returned), ?_, fun _ failed => (nomatch failed)⟩
  intro cause position failed
  cases failed
  exact ⟨[], s.ahead, rfl, rfl, goesOn, fun rest stop next => same _ ⟨rfl, next⟩⟩

theorem tracks_nesting (position : Nat) : Tracks R 0 s (.error (.nesting position)) again :=
  ⟨fun _ _ returned => (nomatch returned), fun _ _ failed => (nomatch failed),
    fun _ _ => Nat.zero_le _⟩

/-- Nothing but exceeded nesting comes out differently. -/
theorem Tracks.same (tracks : Tracks R bound s result again)
    (settled : ∀ position, result ≠ .error (.nesting position)) : again s = result := by
  cases result with
  | ok x =>
      obtain ⟨v, r⟩ := x
      obtain ⟨ts, ahead, stop, -, replay⟩ := tracks.accepts v r rfl
      have there : s = ⟨s.previous, ts ++ r.ahead, r.stop⟩ := by rw [← ahead, stop]
      exact (congrArg again there).trans (replay r.ahead r.stop rfl)
  | error e =>
      cases e with
      | grammar cause position =>
          obtain ⟨front, back, ahead, place, -, replay⟩ := tracks.refuses cause position rfl
          have there : s = ⟨s.previous, front ++ back, s.stop⟩ := by rw [← ahead]
          rw [place]
          exact (congrArg again there).trans (replay back s.stop rfl)
      | nesting position => exact absurd rfl (settled position)

theorem Tracks.alike {again' : Stream → Except ParseError (α × Stream)}
    (tracks : Tracks R bound s result again) (same : ∀ s', Alike s s' → again' s' = again s') :
    Tracks R bound s result again' := by
  refine ⟨?_, ?_, tracks.exceeds⟩
  · intro v r returned
    obtain ⟨ts, ahead, stop, reads, replay⟩ := tracks.accepts v r returned
    refine ⟨ts, ahead, stop, reads, fun rest stop next => ?_⟩
    have next' := (head?_append_congr next).trans (congrArg List.head? ahead).symm
    rw [same ⟨s.previous, ts ++ rest, stop⟩ ⟨rfl, next'⟩]
    exact replay rest stop next
  · intro cause position failed
    obtain ⟨front, back, ahead, place, goesOn, replay⟩ := tracks.refuses cause position failed
    refine ⟨front, back, ahead, place, goesOn, fun rest stop next => ?_⟩
    have next' := (head?_append_congr next).trans (congrArg List.head? ahead).symm
    rw [same ⟨s.previous, front ++ rest, stop⟩ ⟨rfl, next'⟩]
    exact replay rest stop next

theorem Tracks.imp {R' : List Token → α → Prop} {bound' : Nat} (tracks : Tracks R bound s result again)
    (weaker : ∀ ts v, R ts v → R' ts v) (less : bound' ≤ bound) :
    Tracks R' bound' s result again := by
  refine ⟨?_, ?_, fun position failed => Nat.le_trans less (tracks.exceeds position failed)⟩
  · intro v r returned
    obtain ⟨ts, ahead, stop, reads, replay⟩ := tracks.accepts v r returned
    exact ⟨ts, ahead, stop, weaker ts v reads, replay⟩
  · intro cause position failed
    obtain ⟨front, back, ahead, place, ⟨more, v, reads⟩, replay⟩ := tracks.refuses cause position failed
    exact ⟨front, back, ahead, place, ⟨more, v, weaker _ v reads⟩, replay⟩

theorem Tracks.take {token : Token} {rest : List Token} {previous : Option Token} {stop bound' : Nat}
    {again' : Stream → Except ParseError (α × Stream)}
    (tracks : Tracks (fun ts v => R (token :: ts) v) bound ⟨some token, rest, stop⟩ result again)
    (same : ∀ rest' stop',
      again' ⟨previous, token :: rest', stop'⟩ = again ⟨some token, rest', stop'⟩)
    (less : bound' ≤ bound + 1) :
    Tracks R bound' ⟨previous, token :: rest, stop⟩ result again' := by
  refine ⟨?_, ?_, fun position failed =>
    Nat.le_trans less (Nat.succ_le_succ (tracks.exceeds position failed))⟩
  · intro v r returned
    obtain ⟨ts, ahead, stop, reads, replay⟩ := tracks.accepts v r returned
    refine ⟨token :: ts, congrArg (token :: ·) ahead, stop, reads, fun rest stop next => ?_⟩
    exact (same (ts ++ rest) stop).trans (replay rest stop next)
  · intro cause position failed
    obtain ⟨front, back, ahead, place, goesOn, replay⟩ := tracks.refuses cause position failed
    refine ⟨token :: front, back, congrArg (token :: ·) ahead, place, goesOn, fun rest stop next => ?_⟩
    exact (same (front ++ rest) stop).trans (replay rest stop next)

theorem Tracks.bind {Q : List Token → β → Prop} {f f' : α × Stream → Except ParseError (β × Stream)}
    (first : Tracks R bound s result again)
    (next : ∀ ts v r, s.ahead = ts ++ r.ahead → R ts v →
      Tracks (fun us w => Q (ts ++ us) w) bound r (f (v, r)) (fun s' => f' (v, s')))
    (goesOn : ∀ ts v, R ts v → ∃ us w, Q (ts ++ us) w) :
    Tracks Q bound s (result >>= f) (fun s' => again s' >>= f') := by
  refine ⟨?_, ?_, ?_⟩
  · intro w r' returned
    obtain ⟨⟨v, r⟩, came, returned⟩ := bind_eq_ok.mp returned
    obtain ⟨ts, ahead, stop, reads, replay⟩ := first.accepts v r came
    obtain ⟨us, ahead', stop', reads', replay'⟩ := (next ts v r ahead reads).accepts w r' returned
    refine ⟨ts ++ us, ?_, stop'.trans stop, reads', fun rest stop same => ?_⟩
    · rw [ahead, ahead', List.append_assoc]
    · rw [List.append_assoc, replay (us ++ rest) stop ((head?_append_congr same).trans (congrArg List.head? ahead').symm)]
      exact replay' rest stop same
  · intro cause position failed
    rcases bind_eq_error.mp failed with failed | ⟨⟨v, r⟩, came, failed⟩
    · obtain ⟨front, back, ahead, place, ⟨more, v, reads⟩, replay⟩ := first.refuses cause position failed
      obtain ⟨us, w, whole⟩ := goesOn _ v reads
      refine ⟨front, back, ahead, place, ⟨more ++ us, w, List.append_assoc front more us ▸ whole⟩, ?_⟩
      intro rest stop same
      rw [replay rest stop same]
      rfl
    · obtain ⟨ts, ahead, stop, reads, replay⟩ := first.accepts v r came
      obtain ⟨front, back, ahead', place, ⟨more, w, whole⟩, replay'⟩ :=
        (next ts v r ahead reads).refuses cause position failed
      refine ⟨ts ++ front, back, ?_, stop ▸ place, ⟨more, w, ?_⟩, fun rest stop same => ?_⟩
      · rw [ahead, ahead', List.append_assoc]
      · rwa [List.append_assoc]
      · rw [List.append_assoc, replay (front ++ rest) stop ((head?_append_congr same).trans (congrArg List.head? ahead').symm)]
        exact replay' rest stop same
  · intro position failed
    rcases bind_eq_error.mp failed with failed | ⟨⟨v, r⟩, came, failed⟩
    · exact first.exceeds position failed
    · obtain ⟨ts, ahead, -, reads, -⟩ := first.accepts v r came
      have size := (next ts v r ahead reads).exceeds position failed
      have longer : r.size ≤ s.size := by
        simp [Stream.size, ahead]
      exact Nat.le_trans size longer

theorem Tracks.map (tracks : Tracks R bound s result again) (Q : List Token → β → Prop) (f : α → β)
    (reads : ∀ ts v, R ts v → Q ts (f v)) :
    Tracks Q bound s (result >>= fun x => return (f x.1, x.2))
      (fun s' => again s' >>= fun x => return (f x.1, x.2)) := by
  have nothing : ∀ ts v, R ts v → Q (ts ++ []) (f v) := by
    intro ts v before
    rw [List.append_nil]
    exact reads ts v before
  refine tracks.bind (fun ts v r _ before => ?_) fun ts v before => ⟨[], f v, nothing ts v before⟩
  exact tracks_ok (nothing ts v before) fun _ _ => rfl

end

end Formula.Expr
