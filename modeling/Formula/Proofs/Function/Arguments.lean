import Formula.Proofs.Function.Returns

/-!
Which arguments functions accept: as many as they take, each of a type of its parameter.
-/

namespace Formula

namespace Parameter

variable {p : Parameter} {type : String} {v : Value}

theorem types_number : "number".splitOn "|" = ["number"] := by
  simp +decide [String.splitOn, String.splitOnAux]

theorem types_string : "string".splitOn "|" = ["string"] := by
  simp +decide [String.splitOn, String.splitOnAux]

theorem types_array : "array".splitOn "|" = ["array"] := by
  simp +decide [String.splitOn, String.splitOnAux]

theorem types_boolean : "boolean".splitOn "|" = ["boolean"] := by
  simp +decide [String.splitOn, String.splitOnAux]

theorem types_any : "any".splitOn "|" = ["any"] := by
  simp +decide [String.splitOn, String.splitOnAux]

theorem mem_types (single : type.splitOn "|" = [type]) (declared : p.type = type) :
    type ∈ p.types := by
  rw [types, declared, single]
  exact List.mem_singleton_self type

theorem accepts_of_ofType (among : type ∈ p.types) (fits : v.OfType type) :
    p.accepts v = true := by
  unfold accepts
  rcases fits with rfl | rfl
  · rfl
  · rw [List.contains_iff_mem.mpr among, Bool.or_true, Bool.true_or]

theorem accepts_of_any (among : "any" ∈ p.types) (v : Value) : p.accepts v = true := by
  unfold accepts
  rw [List.contains_iff_mem.mpr among, Bool.or_true, Bool.true_or, Bool.true_or]

theorem accepts_text (declared : p.type = "string") (t : Text) : p.accepts (.text t) = true :=
  accepts_of_ofType (mem_types types_string declared) (Value.ofType_text t)

theorem accepts_number (declared : p.type = "number") (x : Number) :
    p.accepts (.number x) = true :=
  accepts_of_ofType (mem_types types_number declared) (Value.ofType_number x)

theorem accepts_array (declared : p.type = "array") (items : List Value) :
    p.accepts (.array items) = true :=
  accepts_of_ofType (mem_types types_array declared) (Value.ofType_array items)

theorem accepts_bool (declared : p.type = "boolean") (b : Bool) : p.accepts (.bool b) = true :=
  accepts_of_ofType (mem_types types_boolean declared) (Value.ofType_bool b)

theorem accepts_any (declared : p.type = "any") (v : Value) : p.accepts v = true :=
  accepts_of_any (mem_types types_any declared) v

end Parameter

namespace Definition

variable {d : Definition} {args : List Value}

theorem misfit?_eq_none {parameters : List Parameter}
    (accepted : ∀ p ∈ parameters, ∀ v ∈ args, p.accepts v = true) :
    misfit? parameters args = none := by
  fun_induction misfit? parameters args with
  | case1 p parameters v args accepts ih =>
      refine ih fun q member w inside => accepted q ?_ w (List.mem_cons_of_mem v inside)
      split at member
      · rw [List.mem_singleton.mp member]
        exact List.mem_cons_self
      · exact List.mem_cons_of_mem p member
  | case2 p parameters v args refuses =>
      exact absurd (accepted p List.mem_cons_self v List.mem_cons_self) refuses
  | case3 => rfl

theorem misfit?_of_forall₂ {parameters : List Parameter}
    (accepted : List.Forall₂ (fun p v => p.accepts v = true) parameters args) :
    misfit? parameters args = none := by
  induction accepted with
  | nil => rfl
  | @cons p v parameters args first rest ih =>
      rw [misfit?, if_pos first]
      cases rest with
      | nil => rfl
      | cons second rest => exact ih

theorem checkArguments_of_fits (counted : d.acceptsCount args.length = true)
    (fits : misfit? d.parameters args = none) : d.checkArguments args = .ok () := by
  rw [checkArguments, if_pos counted, fits]

/-- As many arguments as there are parameters, each of which its own parameter accepts. -/
theorem checkArguments_of_forall₂ (counted : d.acceptsCount args.length = true)
    (accepted : List.Forall₂ (fun p v => p.accepts v = true) d.parameters args) :
    d.checkArguments args = .ok () :=
  checkArguments_of_fits counted (misfit?_of_forall₂ accepted)

/-- Where all parameters are of one type, values of this type and nulls are accepted. -/
theorem checkArguments_of_type {type : String} (single : type.splitOn "|" = [type])
    (counted : d.acceptsCount args.length = true) (declared : ∀ p ∈ d.parameters, p.type = type)
    (fits : ∀ v ∈ args, v.OfType type) : d.checkArguments args = .ok () :=
  checkArguments_of_fits counted (misfit?_eq_none fun p member v inside =>
    Parameter.accepts_of_ofType (Parameter.mem_types single (declared p member)) (fits v inside))

theorem checkArguments_pair {p q : Parameter} {type type' : String} {x y : Value}
    (parameters : d.parameters = [p, q]) (counted : d.acceptsCount 2 = true)
    (first : type ∈ p.types) (second : type' ∈ q.types) (left : x.OfType type)
    (right : y.OfType type') : d.checkArguments [x, y] = .ok () := by
  refine checkArguments_of_forall₂ counted ?_
  rw [parameters]
  exact .cons (Parameter.accepts_of_ofType first left)
    (.cons (Parameter.accepts_of_ofType second right) .nil)

end Definition

end Formula
