import Formula.Proofs.Except
import Formula.Proofs.Function.Builtin
import Formula.Proofs.Value.Range

/-!
The built-in functions keep to the types that they declare for their results. Null comes out of them
besides, where an argument is null for the most part.
-/

namespace Formula

namespace Value

/-- A value of a type, or null. -/
def OfType (type : String) (v : Value) : Prop := v = .null ∨ v.typeName = type

variable {type : String}

theorem ofType_null : Value.null.OfType type := .inl rfl

theorem ofType_number (x : Number) : (Value.number x).OfType "number" := .inr rfl

theorem ofType_text (t : Text) : (Value.text t).OfType "string" := .inr rfl

theorem ofType_bool (b : Bool) : (Value.bool b).OfType "boolean" := .inr rfl

theorem ofType_date (s : Stamp) : (Value.date s).OfType "date" := .inr rfl

theorem ofType_array (items : List Value) : (Value.array items).OfType "array" := .inr rfl

theorem OfType.number {v : Value} (number : v.OfType "number") :
    v = .null ∨ ∃ x, v = .number x := by
  cases v with
  | null => exact .inl rfl
  | number x => exact .inr ⟨x, rfl⟩
  | _ => exact absurd (number.resolve_left Value.noConfusion) (by simp [typeName])

theorem OfType.array {v : Value} (array : v.OfType "array") :
    v = .null ∨ ∃ items, v = .array items := by
  cases v with
  | null => exact .inl rfl
  | array items => exact .inr ⟨items, rfl⟩
  | _ => exact absurd (array.resolve_left Value.noConfusion) (by simp [typeName])

/-- The check of a result may refuse it, but makes nothing of another type of it. -/
theorem OfType.check {v w : Value} (fits : v.OfType type) (checked : v.check = .ok w) :
    w.OfType type := by
  cases v with
  | number x =>
      obtain ⟨rfl, -⟩ := check_number_iff.mp checked
      exact fits
  | _ =>
      cases checked
      exact fits

end Value

open Value

/-! ### Single functions -/

namespace Math

theorem sum_ofType (args : List Value) : ReturnsOnly (OfType "number") (sum args) :=
  returnsOnly_bind _ fun _ => returnsOnly_bind _ fun _ => returnsOnly_ok (ofType_number _)

theorem average_ofType (args : List Value) : ReturnsOnly (OfType "number") (average args) := by
  refine returnsOnly_bind _ fun xs => ?_
  split
  · exact returnsOnly_ok (ofType_number _)
  · exact returnsOnly_bind _ fun _ => returnsOnly_bind _ fun _ => returnsOnly_ok (ofType_number _)

theorem extreme_ofType (before : Ordering) (args : List Value) :
    ReturnsOnly (OfType "number") (extreme before args) := by
  refine returnsOnly_bind _ fun xs => ?_
  cases xs with
  | nil => exact returnsOnly_ok (ofType_number _)
  | cons x xs => exact returnsOnly_ok (ofType_number _)

theorem onNumber_ofType {type : String} {f : Number → Except Fault Value}
    (each : ∀ x, ReturnsOnly (OfType type) (f x)) (v : Value) :
    ReturnsOnly (OfType type) (onNumber f v) := by
  unfold onNumber
  split
  · exact each _
  · exact returnsOnly_ok ofType_null

theorem round_ofType (v digits : Value) : ReturnsOnly (OfType "number") (round v digits) := by
  refine onNumber_ofType (fun x => ?_) v
  refine returnsOnly_bind _ fun places => returnsOnly_bind _ fun rounded => ?_
  split
  · exact returnsOnly_ok (ofType_number _)
  · exact returnsOnly_ok (ofType_number _)

theorem power_ofType (base exponent : Value) :
    ReturnsOnly (OfType "number") (power base exponent) :=
  onNumber_ofType
    (fun _ => onNumber_ofType (fun _ => returnsOnly_map _ fun _ => ofType_number _) exponent) base

theorem modulo_ofType (dividend divisor : Value) :
    ReturnsOnly (OfType "number") (modulo dividend divisor) := by
  refine onNumber_ofType (fun y => ?_) divisor
  split
  · exact returnsOnly_error _
  · exact onNumber_ofType (fun _ => returnsOnly_map _ fun _ => ofType_number _) dividend

theorem sumIf_ofType (values conditions wanted : Value) :
    ReturnsOnly (OfType "number") (sumIf values conditions wanted) :=
  returnsOnly_bind _ fun _ => returnsOnly_ok (ofType_number _)

theorem number_ofType (v : Value) : ReturnsOnly (OfType "number") (number v) := by
  unfold number
  split
  · exact returnsOnly_ok ofType_null
  · exact returnsOnly_ok (ofType_number _)
  · exact returnsOnly_ok (ofType_number _)
  · dsimp only
    split
    · exact returnsOnly_ok (ofType_number _)
    · exact returnsOnly_map _ fun _ => ofType_number _
  · exact returnsOnly_error _

end Math

namespace Texts

theorem left_ofType (v count : Value) : ReturnsOnly (OfType "string") (left v count) :=
  returnsOnly_bind _ fun _ => returnsOnly_bind _ fun _ => returnsOnly_ok (ofType_text _)

theorem right_ofType (v count : Value) : ReturnsOnly (OfType "string") (right v count) :=
  returnsOnly_bind _ fun _ => returnsOnly_bind _ fun _ => returnsOnly_ok (ofType_text _)

theorem mid_ofType (v start count : Value) : ReturnsOnly (OfType "string") (mid v start count) :=
  returnsOnly_bind _ fun _ => returnsOnly_bind _ fun _ => returnsOnly_bind _ fun _ =>
    returnsOnly_ok (ofType_text _)

theorem find_ofType (needle text start : Value) :
    ReturnsOnly (OfType "number") (find needle text start) :=
  returnsOnly_bind _ fun _ => returnsOnly_bind _ fun _ => returnsOnly_bind _ fun _ =>
    returnsOnly_ok (ofType_number _)

theorem replace_ofType (v search replacement : Value) :
    ReturnsOnly (OfType "string") (replace v search replacement) := by
  refine returnsOnly_bind _ fun t => returnsOnly_bind _ fun r => ?_
  split
  · exact returnsOnly_ok (ofType_text _)
  · exact returnsOnly_ok (ofType_text _)

theorem split_ofType (v delimiter : Value) : (split v delimiter).OfType "array" := by
  unfold split
  split
  · exact ofType_array _
  · split
    · exact ofType_array _
    · exact ofType_array _

theorem join_ofType (v delimiter : Value) : ReturnsOnly (OfType "string") (join v delimiter) := by
  unfold join
  split
  · exact returnsOnly_ok (ofType_text _)
  · exact returnsOnly_bind _ fun _ => returnsOnly_ok (ofType_text _)

theorem startsWith_ofType (v start : Value) :
    ReturnsOnly (OfType "boolean") (startsWith v start) := by
  unfold startsWith
  split
  · exact returnsOnly_ok (ofType_bool _)
  · exact returnsOnly_map _ fun _ => ofType_bool _

theorem endsWith_ofType (v ending : Value) :
    ReturnsOnly (OfType "boolean") (endsWith v ending) := by
  unfold endsWith
  split
  · exact returnsOnly_ok (ofType_bool _)
  · exact returnsOnly_map _ fun _ => ofType_bool _

theorem format_ofType (v pattern : Value) :
    ReturnsOnly (OfType "string") (format v pattern) := by
  unfold format
  dsimp only
  split
  · exact returnsOnly_map _ fun _ => ofType_text _
  · split
    · exact returnsOnly_map _ fun _ => ofType_text _
    · exact returnsOnly_ok (ofType_text _)
  · exact returnsOnly_map _ fun _ => ofType_text _

end Texts

namespace Dates

theorem part_ofType (f : Stamp → Nat) (v : Value) :
    ReturnsOnly (OfType "number") (part f v) := by
  unfold part
  split
  · exact returnsOnly_ok ofType_null
  · exact returnsOnly_map _ fun _ => ofType_number _

theorem ofParts_ofType (year month day : Value) :
    ReturnsOnly (OfType "date") (ofParts year month day) := by
  unfold ofParts
  split
  · exact returnsOnly_bind _ fun _ => returnsOnly_bind _ fun _ => returnsOnly_bind _ fun _ =>
      returnsOnly_bind _ fun _ => returnsOnly_ok (ofType_date _)
  · exact returnsOnly_ok ofType_null

theorem add_ofType (start amount unit : Value) :
    ReturnsOnly (OfType "date") (add start amount unit) := by
  unfold add
  split
  · exact returnsOnly_ok ofType_null
  · exact returnsOnly_ok ofType_null
  · refine returnsOnly_bind _ fun s => returnsOnly_bind _ fun unit => ?_
    split
    · exact returnsOnly_bind _ fun _ => returnsOnly_ok (ofType_date _)
    · exact returnsOnly_bind _ fun _ => returnsOnly_bind _ fun _ => returnsOnly_ok (ofType_date _)

theorem difference_ofType (start stop unit : Value) :
    ReturnsOnly (OfType "number") (difference start stop unit) := by
  unfold difference
  split
  · exact returnsOnly_ok ofType_null
  · exact returnsOnly_bind _ fun _ => returnsOnly_bind _ fun _ => returnsOnly_bind _ fun _ =>
      returnsOnly_bind _ fun _ => returnsOnly_ok (ofType_number _)

end Dates

namespace Arrays

theorem length_ofType (v : Value) : (length v).OfType "number" := by
  unfold length
  split <;> exact ofType_number _

theorem contains_ofType (v wanted : Value) :
    ReturnsOnly (OfType "boolean") (contains v wanted) := by
  unfold contains
  split
  · exact returnsOnly_ok (ofType_bool _)
  · exact returnsOnly_bind _ fun _ => returnsOnly_ok (ofType_bool _)
  · exact returnsOnly_ok (ofType_bool _)

theorem sort_ofType (v descending : Value) :
    ReturnsOnly (OfType "array") (sort v descending) := by
  unfold sort
  split
  · exact returnsOnly_ok (ofType_array _)
  · dsimp only
    split
    · exact returnsOnly_error _
    · refine returnsOnly_bind _ fun down => ?_
      split <;> exact returnsOnly_bind _ fun _ => returnsOnly_ok (ofType_array _)

end Arrays

/-! ### The library -/

namespace Definition

/-- A function makes values of the type that it declares, if it declares one. -/
def Honest (d : Definition) : Prop :=
  d.returnType = "any" ∨
    ∀ c args, ReturnsOnly (OfType d.returnType) (d.implementation c args)

theorem honest_math : ∀ d, d ∈ Math.functions → d.Honest := by
  simp only [Math.functions, List.forall_mem_cons]
  refine ⟨?sum, ?average, ?minimum, ?maximum, ?absolute, ?round, ?floor, ?ceil, ?power,
    ?squareRoot, ?modulo, ?count, ?sumIf, ?number, List.forall_mem_nil _⟩
  all_goals refine .inr fun c args => ?_
  case sum => exact (Math.sum_ofType args).mapError _
  case average => exact (Math.average_ofType args).mapError _
  case minimum => exact (Math.extreme_ofType .lt args).mapError _
  case maximum => exact (Math.extreme_ofType .gt args).mapError _
  case round => exact (Math.round_ofType _ _).mapError _
  case power => exact (Math.power_ofType _ _).mapError _
  case modulo => exact (Math.modulo_ofType _ _).mapError _
  case count => exact returnsOnly_ok (ofType_number _)
  case sumIf => exact (Math.sumIf_ofType _ _ _).mapError _
  case number => exact (Math.number_ofType _).mapError _
  case absolute =>
    exact (Math.onNumber_ofType (fun _ => returnsOnly_ok (ofType_number _)) _).mapError _
  -- the others make one number of another, if they can
  all_goals
    exact (Math.onNumber_ofType (fun _ => returnsOnly_map _ fun _ => ofType_number _) _).mapError _

theorem honest_texts : ∀ d, d ∈ Texts.functions → d.Honest := by
  simp only [Texts.functions, List.forall_mem_cons]
  refine ⟨?concat, ?concatenate, ?upper, ?lower, ?trim, ?left, ?right, ?mid, ?length, ?find,
    ?replace, ?split, ?join, ?proper, ?format, ?string, ?startsWith, ?endsWith, .inl rfl,
    ?writeJson, List.forall_mem_nil _⟩
  all_goals refine .inr fun c args => ?_
  case left => exact (Texts.left_ofType _ _).mapError _
  case right => exact (Texts.right_ofType _ _).mapError _
  case mid => exact (Texts.mid_ofType _ _ _).mapError _
  case length => exact (returnsOnly_map _ fun _ => ofType_number _).mapError _
  case find => exact (Texts.find_ofType _ _ _).mapError _
  case replace => exact (Texts.replace_ofType _ _ _).mapError _
  case split => exact returnsOnly_ok (Texts.split_ofType _ _)
  case join => exact (Texts.join_ofType _ _).mapError _
  case format => exact (Texts.format_ofType _ _).mapError _
  case startsWith => exact (Texts.startsWith_ofType _ _).mapError _
  case endsWith => exact (Texts.endsWith_ofType _ _).mapError _
  -- the others write a text, if they can
  all_goals exact (returnsOnly_map _ fun _ => ofType_text _).mapError _

theorem honest_logic : ∀ d, d ∈ Logic.functions → d.Honest := by
  simp only [Logic.functions, List.forall_mem_cons]
  refine ⟨.inl rfl, .inl rfl, .inl rfl, ?all, ?any, ?not, ?isBlank, .inl rfl, ?truth,
    List.forall_mem_nil _⟩
  all_goals refine .inr fun c args => ?_
  case isBlank => exact returnsOnly_ok (ofType_bool _)
  all_goals exact (returnsOnly_map _ fun _ => ofType_bool _).mapError _

theorem honest_dates : ∀ d, d ∈ Dates.functions → d.Honest := by
  simp only [Dates.functions, List.forall_mem_cons]
  refine ⟨?now, ?today, ?ofParts, ?year, ?month, ?day, ?weekday, ?hour, ?minute, ?add, ?difference,
    List.forall_mem_nil _⟩
  all_goals refine .inr fun c args => ?_
  case now => exact returnsOnly_ok (ofType_date _)
  case today => exact returnsOnly_ok (ofType_date _)
  case ofParts => exact (Dates.ofParts_ofType _ _ _).mapError _
  case add => exact (Dates.add_ofType _ _ _).mapError _
  case difference => exact (Dates.difference_ofType _ _ _).mapError _
  all_goals exact (Dates.part_ofType _ _).mapError _

theorem honest_arrays : ∀ d, d ∈ Arrays.functions → d.Honest := by
  simp only [Arrays.functions, List.forall_mem_cons]
  refine ⟨.inl rfl, .inl rfl, .inl rfl, ?length, ?contains, ?unique, ?sort, ?filter, ?countIf,
    List.forall_mem_nil _⟩
  all_goals refine .inr fun c args => ?_
  case length => exact returnsOnly_ok (Arrays.length_ofType _)
  case contains => exact (Arrays.contains_ofType _ _).mapError _
  case unique => exact returnsOnly_ok (ofType_array _)
  case sort => exact Arrays.sort_ofType _ _
  case filter => exact returnsOnly_ok (ofType_array _)
  case countIf => exact returnsOnly_ok (ofType_number _)

theorem honest_lookups : ∀ d, d ∈ Lookups.functions → d.Honest := by
  simp only [Lookups.functions, List.forall_mem_cons]
  exact ⟨.inl rfl, .inl rfl, List.forall_mem_nil _⟩

theorem honest_builtin {d : Definition} (member : d ∈ builtinFunctions) : d.Honest := by
  simp only [builtinFunctions, List.mem_append] at member
  rcases member with ((((math | text) | logic) | date) | array) | lookup
  · exact honest_math d math
  · exact honest_texts d text
  · exact honest_logic d logic
  · exact honest_dates d date
  · exact honest_arrays d array
  · exact honest_lookups d lookup

end Definition

namespace Registry

/-- A built-in function that declares a type for its results returns null or a value of that type,
if it returns, in every context and for all arguments that it accepts. -/
theorem call_builtin_ofType (name : String) (d : Definition) (found : builtin.get name = .ok d)
    (declared : d.returnType ≠ "any") (c : Context) (args : List Value) :
    d.checkArguments args = .ok () → ∀ v, d.call c args = .ok v →
      v = .null ∨ v.typeName = d.returnType := by
  intro _ v returned
  have honest := Definition.honest_builtin (mem_of_find?_builtin (get_eq_ok_iff.mp found))
  obtain ⟨w, made, checked⟩ := Definition.call_eq_ok_iff.mp returned
  have fits : w.OfType d.returnType := honest.resolve_left declared c args w made
  exact fits.check checked

theorem call_builtin_ofType_sum :
    let context : Context := {
      clock := .ofMoment .universal (.atMidnight ⟨2024, 1, 15, by decide⟩ none) }
    let args : List Value := [.null, .null]
    ∃ d, builtin.get "SUM" = .ok d ∧ d.returnType ≠ "any" ∧ d.checkArguments args = .ok () ∧
      ∃ v, d.call context args = .ok v ∧ (v = .null ∨ v.typeName = d.returnType) := by
  intro context args
  have first : builtinFunctions = Math.sumFunction :: builtinFunctions.tail := rfl
  have found : builtin.get "SUM" = .ok Math.sumFunction := by
    rw [get_eq_ok_iff, builtin, find?_freeze, first]
    exact find?_ofDefinitions_cons Math.sumFunction _
  have declared : Math.sumFunction.returnType ≠ "any" := by decide
  have accepted : Math.sumFunction.checkArguments args = .ok () := rfl
  have returned : Math.sumFunction.call context args = .ok (.int 0) := rfl
  exact ⟨_, found, declared, accepted, _, returned,
    call_builtin_ofType "SUM" _ found declared context args accepted _ returned⟩

end Registry

end Formula
