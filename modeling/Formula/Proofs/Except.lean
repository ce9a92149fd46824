/-!
How computations that may fail come to their results.
-/

namespace Formula

variable {ε ε' α β : Type}

theorem bind_eq_ok {x : Except ε α} {f : α → Except ε β} {b : β} :
    (x >>= f) = .ok b ↔ ∃ a, x = .ok a ∧ f a = .ok b := by
  cases x <;> simp [bind, Except.bind]

theorem bind_of_ok {x : Except ε α} {f : α → Except ε β} {a : α} (returned : x = .ok a) :
    (x >>= f) = f a := by
  rw [returned]
  rfl

theorem bind_eq_error {x : Except ε α} {f : α → Except ε β} {e : ε} :
    (x >>= f) = .error e ↔ x = .error e ∨ ∃ a, x = .ok a ∧ f a = .error e := by
  cases x <;> simp [bind, Except.bind]

/-- What never fails with an error adds none like it to what comes before it. -/
theorem bind_eq_error_iff_left {x : Except ε α} {f : α → Except ε β} {e : ε}
    (next : ∀ a, f a ≠ .error e) : (x >>= f) = .error e ↔ x = .error e := by
  rw [bind_eq_error, or_iff_left_iff_imp]
  rintro ⟨a, -, failed⟩
  exact absurd failed (next a)

@[simp] theorem pure_ne_error {a : α} {e : ε} : (pure a : Except ε α) ≠ .error e :=
  fun same => nomatch same

theorem toOption_eq_some {x : Except ε α} {a : α} : x.toOption = some a ↔ x = .ok a := by
  cases x with
  | ok _ => constructor <;> (intro same; cases same; rfl)
  | error _ => constructor <;> (intro failed; cases failed)

theorem mapError_eq_ok {x : Except ε α} {f : ε → ε'} {a : α} :
    x.mapError f = .ok a ↔ x = .ok a := by
  cases x with
  | ok _ => constructor <;> (intro same; cases same; rfl)
  | error _ => constructor <;> (intro failed; cases failed)

theorem mapError_eq_error {x : Except ε α} {f : ε → ε'} {e' : ε'} :
    x.mapError f = .error e' ↔ ∃ e, x = .error e ∧ f e = e' := by
  cases x with
  | ok _ => exact ⟨fun failed => (by cases failed), fun ⟨_, failed, _⟩ => (by cases failed)⟩
  | error e =>
      constructor
      · intro failed
        cases failed
        exact ⟨e, rfl, rfl⟩
      · rintro ⟨_, ⟨⟩, rfl⟩
        rfl

theorem map_eq_ok {x : Except ε α} {f : α → β} {b : β} :
    x.map f = .ok b ↔ ∃ a, x = .ok a ∧ f a = b := by
  cases x <;> simp [Except.map]

theorem map_eq_error {x : Except ε α} {f : α → β} {e : ε} :
    x.map f = .error e ↔ x = .error e := by
  cases x <;> simp [Except.map]

/-! ### What a computation may fail with -/

/-- Whatever a computation fails with has a property. -/
def FailsOnly (P : ε → Prop) (x : Except ε α) : Prop := ∀ e, x = .error e → P e

variable {P : ε → Prop}

theorem failsOnly_ok (a : α) : FailsOnly P (.ok a : Except ε α) := fun _ failed => nomatch failed

theorem failsOnly_pure (a : α) : FailsOnly P (pure a : Except ε α) := failsOnly_ok a

theorem failsOnly_error {e : ε} (holds : P e) : FailsOnly P (.error e : Except ε α) := by
  intro e' failed
  cases failed
  exact holds

theorem FailsOnly.bind {x : Except ε α} {f : α → Except ε β} (first : FailsOnly P x)
    (next : ∀ a, FailsOnly P (f a)) : FailsOnly P (x >>= f) := by
  intro e failed
  rcases bind_eq_error.mp failed with failed | ⟨a, -, failed⟩
  · exact first e failed
  · exact next a e failed

theorem FailsOnly.imp {Q : ε → Prop} {x : Except ε α} (fails : FailsOnly P x)
    (weaker : ∀ e, P e → Q e) : FailsOnly Q x := fun e failed => weaker e (fails e failed)

theorem FailsOnly.map {x : Except ε α} (fails : FailsOnly P x) (f : α → β) :
    FailsOnly P (x.map f) := fun e failed => fails e (map_eq_error.mp failed)

theorem failsOnly_mapError {Q : ε' → Prop} {f : ε → ε'} (x : Except ε α) (holds : ∀ e, Q (f e)) :
    FailsOnly Q (x.mapError f) := by
  intro e' failed
  obtain ⟨e, -, rfl⟩ := mapError_eq_error.mp failed
  exact holds e

theorem FailsOnly.foldlM {f : β → α → Except ε β} (step : ∀ b a, FailsOnly P (f b a))
    (as : List α) (b : β) : FailsOnly P (as.foldlM f b) := by
  induction as generalizing b with
  | nil => exact failsOnly_ok b
  | cons a rest ih => exact (step b a).bind ih

/-! ### What a computation may return -/

/-- Whatever a computation returns has a property. -/
def ReturnsOnly (Q : α → Prop) (x : Except ε α) : Prop := ∀ a, x = .ok a → Q a

variable {Q : α → Prop} {R : β → Prop}

theorem returnsOnly_ok {a : α} (holds : Q a) : ReturnsOnly Q (.ok a : Except ε α) := by
  intro a' returned
  cases returned
  exact holds

theorem returnsOnly_error (e : ε) : ReturnsOnly Q (.error e : Except ε α) :=
  fun _ returned => nomatch returned

theorem ReturnsOnly.bind {x : Except ε α} {f : α → Except ε β} (first : ReturnsOnly Q x)
    (next : ∀ a, Q a → ReturnsOnly R (f a)) : ReturnsOnly R (x >>= f) := by
  intro b returned
  obtain ⟨a, came, returned⟩ := bind_eq_ok.mp returned
  exact next a (first a came) b returned

/-- What comes out of the last step alone decides. -/
theorem returnsOnly_bind (x : Except ε α) {f : α → Except ε β} (next : ∀ a, ReturnsOnly R (f a)) :
    ReturnsOnly R (x >>= f) := by
  intro b returned
  obtain ⟨a, -, returned⟩ := bind_eq_ok.mp returned
  exact next a b returned

theorem returnsOnly_map (x : Except ε α) {f : α → β} (holds : ∀ a, R (f a)) :
    ReturnsOnly R (x.map f) := by
  cases x with
  | error e => exact returnsOnly_error e
  | ok a => exact returnsOnly_ok (holds a)

theorem ReturnsOnly.mapError {x : Except ε α} (returns : ReturnsOnly Q x) (f : ε → ε') :
    ReturnsOnly Q (x.mapError f) := fun a returned => returns a (mapError_eq_ok.mp returned)

theorem ReturnsOnly.imp {x : Except ε α} {Q' : α → Prop} (returns : ReturnsOnly Q x)
    (weaker : ∀ a, Q a → Q' a) : ReturnsOnly Q' x :=
  fun a returned => weaker a (returns a returned)

/-! ### What a computation returns -/

/-- A computation returns, and what it returns has a property. -/
def Returns (Q : α → Prop) (x : Except ε α) : Prop := ∃ a, x = .ok a ∧ Q a

theorem returns_ok {a : α} (holds : Q a) : Returns Q (.ok a : Except ε α) := ⟨a, rfl, holds⟩

theorem Returns.bind {x : Except ε α} {f : α → Except ε β} (first : Returns Q x)
    (next : ∀ a, Q a → Returns R (f a)) : Returns R (x >>= f) := by
  obtain ⟨a, returned, holds⟩ := first
  rw [bind_of_ok returned]
  exact next a holds

theorem Returns.imp {x : Except ε α} {Q' : α → Prop} (returns : Returns Q x)
    (weaker : ∀ a, Q a → Q' a) : Returns Q' x := by
  obtain ⟨a, returned, holds⟩ := returns
  exact ⟨a, returned, weaker a holds⟩

theorem Returns.map {x : Except ε α} {f : α → β} (returns : Returns Q x)
    (holds : ∀ a, Q a → R (f a)) : Returns R (x.map f) := by
  obtain ⟨a, rfl, held⟩ := returns
  exact returns_ok (holds a held)

/-- What holds of whatever is returned holds beside. -/
theorem Returns.and {x : Except ε α} {Q' : α → Prop} (returns : Returns Q x)
    (only : ReturnsOnly Q' x) : Returns (fun a => Q a ∧ Q' a) x := by
  obtain ⟨a, returned, holds⟩ := returns
  exact ⟨a, returned, holds, only a returned⟩

/-! ### Computations that may give up -/

/-- A computation fails with an error of some sort, or it comes to what another one comes to. -/
def FailsOr (P : ε → Prop) (x y : Except ε α) : Prop := (∃ e, x = .error e ∧ P e) ∨ x = y

theorem failsOr_self (x : Except ε α) : FailsOr P x x := .inr rfl

theorem failsOr_error {e : ε} (holds : P e) (y : Except ε α) : FailsOr P (.error e) y :=
  .inl ⟨e, rfl, holds⟩

theorem FailsOr.bind {x y : Except ε α} {f g : α → Except ε β} (first : FailsOr P x y)
    (next : ∀ a, FailsOr P (f a) (g a)) : FailsOr P (x >>= f) (y >>= g) := by
  rcases first with ⟨e, failed, holds⟩ | rfl
  · exact .inl ⟨e, bind_eq_error.mpr (.inl failed), holds⟩
  · cases x with
    | error e => exact .inr rfl
    | ok a => exact next a

theorem FailsOr.mapError {Q : ε' → Prop} {x y : Except ε α} (either : FailsOr P x y) {f : ε → ε'}
    (keeps : ∀ e, P e → Q (f e)) : FailsOr Q (x.mapError f) (y.mapError f) := by
  rcases either with ⟨e, failed, holds⟩ | rfl
  · exact .inl ⟨f e, mapError_eq_error.mpr ⟨e, failed, rfl⟩, keeps e holds⟩
  · exact .inr rfl

end Formula
