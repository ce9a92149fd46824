import Formula.Api.Route
import Mathlib.Data.List.Basic
import Mathlib.Data.List.TakeWhile

/-!
Addresses of routes. Pieces of plain characters stand for themselves: nothing in them is an escape,
an end of the path or a way to its parent, so a server sees the pieces that a client asks for. Every
route but one is found at its address.
-/

namespace Formula.Api

/-! ### Safe pieces -/

/-- The characters that end a piece or a path, or that start an escape. -/
def specials : List Char := ['/', '%', '?', '#', '\n']

/-- A piece of a path that stands for itself in an address. -/
structure IsSafe (piece : List Char) : Prop where
  nonempty : piece ≠ []
  here : piece ≠ ['.']
  parent : piece ≠ ['.', '.']
  ascii : ∀ c ∈ piece, c.toNat < 0x80
  literal : ∀ c ∈ piece, c ∉ specials

/-- Safe pieces can be told: each character is tested in turn. -/
instance (piece : List Char) : Decidable (IsSafe piece) :=
  decidable_of_iff (piece ≠ [] ∧ piece ≠ ['.'] ∧ piece ≠ ['.', '.'] ∧
      piece.all (fun c => decide (c.toNat < 0x80)) = true ∧
      piece.all (fun c => !specials.contains c) = true) (by
    simp only [List.all_eq_true, decide_eq_true_eq, Bool.not_eq_true', List.contains_eq_mem,
      decide_eq_false_iff_not]
    exact ⟨fun ⟨a, b, c, d, e⟩ => ⟨a, b, c, d, e⟩, fun ⟨a, b, c, d, e⟩ => ⟨a, b, c, d, e⟩⟩)

variable {pieces : List (List Char)} {c : Char} {cs : List Char}

/-! ### Escapes -/

theorem bytesOf_ascii (ascii : c.toNat < 0x80) : bytesOf c = [c.toNat] := by
  have single : c.utf8Size = 1 := by
    rw [Char.utf8Size_eq_one_iff, UInt32.le_iff_toNat_le]
    exact Nat.le_of_lt_succ ascii
  rw [bytesOf, String.utf8EncodeChar_eq_singleton single]
  show [c.toNat % 256] = [c.toNat]
  rw [Nat.mod_eq_of_lt (by omega)]

theorem pathBytes_of_literal (ascii : ∀ c ∈ cs, c.toNat < 0x80) (literal : '%' ∉ cs) :
    pathBytes cs = cs.map Char.toNat := by
  fun_induction pathBytes cs with
  | case1 => rfl
  | case2 => simp at literal
  | case3 => simp at literal
  | case4 c rest _ ih =>
      rw [List.forall_mem_cons] at ascii
      rw [List.mem_cons, not_or] at literal
      rw [bytesOf_ascii ascii.1, ih ascii.2 literal.2]
      rfl

theorem decodeUtf8_ascii (ascii : ∀ c ∈ cs, c.toNat < 0x80) :
    Text.decodeUtf8 (cs.map Char.toNat) = cs := by
  induction cs with
  | nil => rw [List.map_nil, Text.decodeUtf8]
  | cons c rest ih =>
      rw [List.forall_mem_cons] at ascii
      have alone : Text.followers? c.toNat = some [] := if_pos ascii.1
      rw [List.map_cons, Text.decodeUtf8, alone]
      simp only [Text.takeInRanges, List.length_nil, if_true, List.drop_zero, ih ascii.2,
        Text.codeOfBytes, List.isEmpty_nil, List.foldl_nil, Char.ofNat_toNat]

theorem unescape_of_literal (ascii : ∀ c ∈ cs, c.toNat < 0x80) (literal : '%' ∉ cs) :
    unescape cs = cs := by
  rw [unescape, pathBytes_of_literal ascii literal, decodeUtf8_ascii ascii]

/-! ### Paths of safe pieces -/

/-- The path of pieces, each after a slash. -/
def joined (pieces : List (List Char)) : List Char := pieces.flatMap ('/' :: ·)

theorem joined_eq_intercalate (pieces : List (List Char)) :
    joined pieces = ['/'].intercalate ([] :: pieces) := by
  induction pieces with
  | nil => rfl
  | cons piece rest ih =>
      rw [joined, List.flatMap_cons, ← joined, ih]
      cases rest <;> simp [List.intercalate, List.intersperse]

theorem pieces_joined (safe : ∀ piece ∈ pieces, IsSafe piece) :
    Api.pieces (joined pieces) = [] :: pieces := by
  rw [Api.pieces, joined_eq_intercalate]
  apply List.splitOn_intercalate
  · intro piece member slash
    rcases List.mem_cons.mp member with rfl | member
    · exact nomatch slash
    · exact (safe piece member).literal '/' slash (by decide)
  · exact List.cons_ne_nil _ _

/-- A path of safe pieces holds only characters that stand for themselves, and slashes. -/
theorem literal_of_mem_joined (safe : ∀ piece ∈ pieces, IsSafe piece) (member : c ∈ joined pieces) :
    c.toNat < 0x80 ∧ c ∉ ['%', '?', '#', '\n'] := by
  obtain ⟨piece, among, member⟩ := List.mem_flatMap.mp member
  rcases List.mem_cons.mp member with rfl | inside
  · decide
  · exact ⟨(safe piece among).ascii c inside, fun special =>
      (safe piece among).literal c inside (List.mem_cons_of_mem _ special)⟩

theorem withoutDots_of_kept {done : List (List Char)}
    (kept : ∀ piece ∈ pieces, piece ≠ ['.'] ∧ piece ≠ ['.', '.']) :
    withoutDots done pieces = done.reverse ++ pieces := by
  fun_induction withoutDots done pieces with
  | case1 => exact (List.append_nil _).symm
  | case2 => exact absurd rfl (kept _ List.mem_cons_self).1
  | case3 => exact absurd rfl (kept _ List.mem_cons_self).2
  | case4 done piece rest _ _ ih =>
      rw [ih (List.forall_mem_cons.mp kept).2, List.reverse_cons, List.append_assoc]
      rfl

/-- One slash is in front of a path of safe pieces. -/
theorem exists_joined (safe : ∀ piece ∈ pieces, IsSafe piece) (some : pieces ≠ []) :
    ∃ c rest, joined pieces = '/' :: c :: rest ∧ c ≠ '/' := by
  obtain ⟨piece, others, rfl⟩ := List.exists_cons_of_ne_nil some
  obtain ⟨nonempty, -, -, -, literal⟩ := safe piece List.mem_cons_self
  obtain ⟨c, rest, rfl⟩ := List.exists_cons_of_ne_nil nonempty
  refine ⟨c, rest ++ joined others, rfl, ?_⟩
  rintro rfl
  exact literal '/' List.mem_cons_self (by decide)

theorem dropHost_of_ne {rest : List Char} (single : c ≠ '/') :
    dropHost ('/' :: c :: rest) = '/' :: c :: rest := by
  rw [dropHost]
  rintro _ ⟨rfl, -⟩
  exact single rfl

/-- An address of safe pieces is its own path. -/
theorem bare_joined (safe : ∀ piece ∈ pieces, IsSafe piece) (some : pieces ≠ []) :
    bare (joined pieces) = joined pieces := by
  have whole : (joined pieces).takeWhile (fun c => c != '?' && c != '#') = joined pieces := by
    apply List.takeWhile_eq_self_iff.mpr
    intro c member
    have literal := (literal_of_mem_joined safe member).2
    simp only [List.mem_cons, List.not_mem_nil, or_false, not_or] at literal
    simp [literal]
  have kept : withoutDots [] (Api.pieces (joined pieces)) = [] :: pieces := by
    rw [pieces_joined safe]
    apply withoutDots_of_kept
    rw [List.forall_mem_cons]
    exact ⟨by decide, fun piece member => ⟨(safe piece member).here, (safe piece member).parent⟩⟩
  obtain ⟨c, rest, opened, single⟩ := exists_joined safe some
  have rooted : '/' :: (dropHost (joined pieces)).dropWhile (· == '/') = joined pieces := by
    rw [opened, dropHost_of_ne single]
    simp [single]
  rw [bare, whole, rooted, kept, joined_eq_intercalate]

theorem serverPath_joined (safe : ∀ piece ∈ pieces, IsSafe piece) (some : pieces ≠ []) :
    serverPath (joined pieces) = joined pieces := by
  have kept : unescape (joined pieces) = joined pieces := by
    apply unescape_of_literal
    · exact fun c member => (literal_of_mem_joined safe member).1
    · exact fun member => (literal_of_mem_joined safe member).2 (by decide)
  rw [serverPath, bare_joined safe some, kept, kept]

theorem segments_joined (safe : ∀ piece ∈ pieces, IsSafe piece) :
    segments (joined pieces) = pieces.map String.ofList := by
  rw [segments, pieces_joined safe]
  rfl

/-- No slash ends a path of safe pieces. -/
theorem exists_joined_end (safe : ∀ piece ∈ pieces, IsSafe piece) (some : pieces ≠ []) :
    ∃ front c, joined pieces = front ++ [c] ∧ c ≠ '/' := by
  obtain rfl | ⟨others, piece, rfl⟩ := List.eq_nil_or_concat' pieces
  · exact absurd rfl some
  obtain ⟨nonempty, -, -, -, literal⟩ := safe piece (by simp)
  obtain rfl | ⟨front, c, rfl⟩ := List.eq_nil_or_concat' piece
  · exact absurd rfl nonempty
  refine ⟨joined others ++ '/' :: front, c, by simp [joined], ?_⟩
  rintro rfl
  exact literal '/' (by simp) (by decide)

theorem dropSlashes_joined (safe : ∀ piece ∈ pieces, IsSafe piece) (some : pieces ≠ []) :
    dropSlashes (joined pieces) = joined pieces := by
  obtain ⟨front, c, ends, plain⟩ := exists_joined_end safe some
  rw [dropSlashes, ends, List.reverse_append]
  simp [plain]

/-! ### Routes -/

namespace Route

/-- What follows the slashes of the path of a route. -/
def segments : Route → List String
  | .health => ["api", "health"]
  | .evaluate => ["api", "expressions", "evaluate"]
  | .evaluateBatch => ["api", "expressions", "evaluate", "batch"]
  | .validate => ["api", "expressions", "validate"]
  | .parse => ["api", "expressions", "parse"]
  | .tokenize => ["api", "expressions", "tokenize"]
  | .suggestions => ["api", "expressions", "suggestions"]
  | .functions => ["api", "expressions", "functions"]
  | .categories => ["api", "expressions", "functions", "categories"]
  | .category name => ["api", "expressions", "functions", "category", name]
  | .function name => ["api", "expressions", "functions", name]

/-- The name at the end of a path, if the route has one. -/
def name? : Route → Option String
  | .category name | .function name => some name
  | _ => none

variable {route : Route} {path : List String}

theorem ofFixedSegments?_eq_some_iff :
    ofFixedSegments? path = some route ↔ path = route.segments ∧ route.name? = none := by
  constructor
  · intro found
    unfold ofFixedSegments? ofFormulaSegments? at found
    split at found
    case' h_2 => split at found
    all_goals cases found <;> exact ⟨rfl, rfl⟩
  · rintro ⟨rfl, fixed⟩
    cases route <;> first | rfl | cases fixed

theorem ofNamedSegments?_eq_some_iff :
    ofNamedSegments? path = some route ↔
      path = route.segments ∧ ∃ name, route.name? = some name ∧ name.isEmpty = false := by
  constructor
  · intro found
    unfold ofNamedSegments? at found
    split at found
    case' h_1 | h_2 => split at found
    all_goals cases found
    all_goals exact ⟨rfl, _, rfl, eq_false_of_ne_true ‹_›⟩
  · rintro ⟨rfl, name, named, nonempty⟩
    cases route
    case category | function =>
      cases named
      exact if_neg (Bool.eq_false_iff.mp nonempty)
    all_goals cases named

/-- No name makes a path a fixed one, but for the name of the path of the categories. -/
theorem ofFixedSegments?_of_name? {name : String} (named : route.name? = some name)
    (other : route ≠ .function "categories") : ofFixedSegments? route.segments = none := by
  cases route
  case category => rfl
  case function =>
    cases named
    show ofFormulaSegments? ["functions", name] = none
    unfold ofFormulaSegments?
    split
    case h_8 same =>
      cases same
      exact absurd rfl other
    all_goals simp_all
  all_goals cases named

/-- A path leads to the route that has its segments, if none is empty and no newline ends it. Only
the function named `categories` has no path: its own is that of the categories. -/
theorem ofSegments?_eq_some_iff (kept : withoutNewline path = path)
    (nonempty : ∀ segment ∈ path, segment.isEmpty = false) :
    ofSegments? path = some route ↔ path = route.segments ∧ route ≠ .function "categories" := by
  rw [ofSegments?, kept]
  constructor
  · intro found
    cases fixed : ofFixedSegments? path with
    | some other =>
        rw [fixed] at found
        obtain rfl : other = route := Option.some.inj found
        obtain ⟨same, unnamed⟩ := ofFixedSegments?_eq_some_iff.mp fixed
        exact ⟨same, fun hidden => by subst hidden; cases unnamed⟩
    | none =>
        rw [fixed] at found
        obtain ⟨rfl, -⟩ := ofNamedSegments?_eq_some_iff.mp found
        exact ⟨rfl, fun hidden => by subst hidden; cases fixed⟩
  · rintro ⟨rfl, other⟩
    cases named : route.name? with
    | none => rw [ofFixedSegments?_eq_some_iff.mpr ⟨rfl, named⟩]; rfl
    | some name =>
        rw [ofFixedSegments?_of_name? named other]
        refine ofNamedSegments?_eq_some_iff.mpr ⟨rfl, name, named, nonempty name ?_⟩
        cases route <;> cases named <;> simp [segments]

theorem withoutNewline_of_safe {pieces : List (List Char)} (safe : ∀ piece ∈ pieces, IsSafe piece) :
    withoutNewline (pieces.map String.ofList) = pieces.map String.ofList := by
  obtain rfl | ⟨others, last, rfl⟩ := List.eq_nil_or_concat' pieces
  · rfl
  have kept : dropNewline (String.ofList last) = String.ofList last := by
    refine if_neg fun newline => ?_
    rw [String.toList_ofList] at newline
    exact (safe last (by simp)).literal '\n' (List.mem_of_getLast? newline) (by decide)
  rw [withoutNewline, List.map_append, List.map_singleton, List.dropLast_concat,
    List.getLast?_concat, Option.map_some, kept]
  rfl

/-- A server asks for a path of safe pieces once. -/
theorem ofPath?_joined {pieces : List (List Char)} (safe : ∀ piece ∈ pieces, IsSafe piece)
    (some : pieces ≠ []) :
    ofPath? (String.ofList (joined pieces)) = ofSegments? (pieces.map String.ofList) := by
  rw [ofPath?, String.toList_ofList, locate?, serverPath_joined safe some, segments_joined safe,
    dropSlashes_joined safe some]
  simp only [Nat.lt_irrefl, decide_false, Bool.false_and, Bool.false_eq_true, if_false]
  cases ofSegments? (pieces.map String.ofList) <;> rfl

/-- A path of safe pieces leads to a route exactly if they are the segments of the route. Only the
function named `categories` has no path: its own is that of the categories. -/
theorem ofPath?_eq_some_iff {pieces : List (List Char)} (safe : ∀ piece ∈ pieces, IsSafe piece)
    (some : pieces ≠ []) : ofPath? (String.ofList (joined pieces)) = Option.some route ↔
      pieces.map String.ofList = route.segments ∧ route ≠ .function "categories" := by
  rw [ofPath?_joined safe some]
  apply ofSegments?_eq_some_iff (withoutNewline_of_safe safe)
  intro segment member
  obtain ⟨piece, among, rfl⟩ := List.mem_map.mp member
  have nonempty := (safe piece among).nonempty
  simpa [String.isEmpty_iff] using nonempty

/-- The path of a route. -/
def address (route : Route) : String := String.ofList (joined (route.segments.map String.toList))

theorem isSafe_of_mem_segments (safe : ∀ name, route.name? = some name → IsSafe name.toList) :
    ∀ piece ∈ route.segments.map String.toList, IsSafe piece := by
  cases route
  case category name | function name =>
    have last := safe name rfl
    simp only [segments, List.map_cons, List.map_nil, List.forall_mem_cons]
    refine ⟨by decide, by decide, by decide, ?_⟩
    first
      | exact ⟨last, fun _ none => nomatch none⟩
      | exact ⟨by decide, last, fun _ none => nomatch none⟩
  all_goals decide

/-- Every route with a safe name is found at its path, but for the function that is hidden. -/
theorem ofPath?_address (safe : ∀ name, route.name? = some name → IsSafe name.toList)
    (other : route ≠ .function "categories") : ofPath? route.address = some route := by
  rw [address, ofPath?_eq_some_iff (isSafe_of_mem_segments safe)]
  · exact ⟨by simp [Function.comp_def], other⟩
  · cases route <;> exact List.cons_ne_nil _ _

end Route

end Formula.Api
