import Formula.Token.Scan

/-!
Tokens stand one after another in their source, and before its end.
-/

namespace Formula

namespace Cursor

theorem position_le_advance (c : Cursor) : c.position ≤ c.advance.position := by
  unfold advance
  split
  · exact Nat.le_refl _
  · exact Nat.le_succ _
  · exact Nat.le_succ _

theorem position_lt_advance {c : Cursor} (more : c.rest ≠ []) :
    c.position < c.advance.position := by
  unfold advance
  split
  · rename_i none
    exact absurd none more
  · exact Nat.lt_succ_self _
  · exact Nat.lt_succ_self _

theorem position_le_advanceBy (n : Nat) (c : Cursor) : c.position ≤ (c.advanceBy n).position := by
  induction n generalizing c with
  | zero => exact Nat.le_refl _
  | succ n ih => exact Nat.le_trans c.position_le_advance (ih c.advance)

theorem position_lt_advanceBy {n : Nat} {c : Cursor} (some : 0 < n) (more : c.rest ≠ []) :
    c.position < (c.advanceBy n).position := by
  cases n with
  | zero => cases some
  | succ n => exact Nat.lt_of_lt_of_le (position_lt_advance more) (position_le_advanceBy n c.advance)

theorem position_le_skipBlanks (c : Cursor) : c.position ≤ c.skipBlanks.position :=
  position_le_advanceBy _ c

end Cursor

namespace Token

theorem tokens_eq_ok_iff {source : String} {tokens : List Token} {stop : Nat} :
    Token.tokens source = .ok (tokens, stop) ↔
      (scan source).error = none ∧ (scan source).tokens = tokens ∧
        (scan source).stop.position = stop := by
  simp only [Token.tokens]
  cases (scan source).error with
  | some e =>
      constructor
      · intro failed
        cases failed
      · rintro ⟨none, -⟩
        cases none
  | none => simp

theorem tokens_eq_error_iff {source : String} {e : ScanError} :
    Token.tokens source = .error e ↔ (scan source).error = some e := by
  simp only [Token.tokens]
  cases (scan source).error <;> simp

theorem position_of_tokenAt {c : Cursor} {token : Token} (found : tokenAt c = .ok (some token)) :
    token.position = c.position := by
  unfold tokenAt at found
  split at found
  · cases found
  · split at found
    · cases found
    · split at found
      · cases found
        rfl
      · cases found

/-- The places of tokens, and the end after them. -/
def places (tokens : List Token) (stop : Nat) : List Nat := tokens.map (·.position) ++ [stop]

theorem getElem?_places (tokens : List Token) (stop : Nat) {i : Nat} (within : i ≤ tokens.length) :
    (places tokens stop)[i]? = some ((tokens[i]?.map (·.position)).getD stop) := by
  unfold places
  rcases Nat.lt_or_eq_of_le within with inside | rfl
  · rw [List.getElem?_append_left (by simpa using inside), List.getElem?_map,
      List.getElem?_eq_getElem inside]
    rfl
  · rw [List.getElem?_append_right (by simp), List.getElem?_eq_none (Nat.le_refl _)]
    simp

def Ascending (low : Nat) (places : List Nat) : Prop :=
  (∀ place ∈ places, low ≤ place) ∧ places.Pairwise (· < ·)

theorem ascending_single {low place : Nat} (above : low ≤ place) : Ascending low [place] :=
  ⟨fun _ member => List.mem_singleton.mp member ▸ above, List.pairwise_singleton _ _⟩

theorem Ascending.cons {low place next : Nat} {places : List Nat} (after : Ascending next places)
    (above : low ≤ place) (before : place < next) : Ascending low (place :: places) := by
  refine ⟨List.forall_mem_cons.mpr ⟨above, fun other member => ?_⟩,
    List.pairwise_cons.mpr ⟨fun other member => ?_, after.2⟩⟩
  · exact Nat.le_trans above (Nat.le_trans (Nat.le_of_lt before) (after.1 other member))
  · exact Nat.lt_of_lt_of_le before (after.1 other member)

theorem ascending_scanFrom (c : Cursor) :
    Ascending c.position (places (scanFrom c).tokens (scanFrom c).stop.position) := by
  induction c using scanFrom.induct with
  | case1 c here e failed =>
      rw [scanFrom, failed]
      exact ascending_single c.position_le_skipBlanks
  | case2 c here ended =>
      rw [scanFrom, ended]
      exact ascending_single c.position_le_skipBlanks
  | case3 c here token found more shorter ih =>
      simp only [here] at more found ih
      rw [scanFrom, found]
      simp only [dif_pos more]
      have place := position_of_tokenAt found
      refine ih.cons (le_of_le_of_eq c.position_le_skipBlanks place.symm) ?_
      refine lt_of_eq_of_lt place ?_
      exact Cursor.position_lt_advanceBy (List.length_pos_iff.mpr more.1) more.2
  | case4 c here token found none =>
      simp only [here] at none found
      rw [scanFrom, found]
      simp only [dif_neg none]
      exact ascending_single c.position_le_skipBlanks

theorem pairwise_places {source : String} {tokens : List Token} {stop : Nat}
    (lexes : Token.tokens source = .ok (tokens, stop)) : (places tokens stop).Pairwise (· < ·) := by
  obtain ⟨-, rfl, rfl⟩ := tokens_eq_ok_iff.mp lexes
  exact (ascending_scanFrom _).2

theorem pairwise_scan (source : String) :
    (scan source).tokens.Pairwise fun a b => a.position < b.position :=
  List.pairwise_map.mp (List.pairwise_append.mp (ascending_scanFrom _).2).1

/-- No two tokens of a source stand at the same place, and none at the end. -/
theorem place_injective {source : String} {tokens : List Token} {stop : Nat}
    (lexes : Token.tokens source = .ok (tokens, stop)) {i j : Nat} (within : i ≤ tokens.length)
    (within' : j ≤ tokens.length)
    (same : (tokens[i]?.map (·.position)).getD stop = (tokens[j]?.map (·.position)).getD stop) :
    i = j := by
  have distinct : (places tokens stop).Nodup :=
    (pairwise_places lexes).imp fun before => Nat.ne_of_lt before
  have first := getElem?_places tokens stop within
  have second := getElem?_places tokens stop within'
  rw [← same, ← first] at second
  have inside : i < (places tokens stop).length := by
    simp only [places, List.length_append, List.length_map, List.length_singleton]
    omega
  exact (List.getElem?_inj inside distinct).mp second.symm

end Token

end Formula
