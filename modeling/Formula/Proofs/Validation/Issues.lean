import Formula.Proofs.Expr.FirstUse
import Formula.Proofs.Validation

/-!
Which issues a formula has. They are the fields that are not known and the functions that are not
registered, each at its first use, and no two of them stand at one place, so sorting them by their
positions leaves one order only.
-/

namespace Formula

theorem isKnownField_eq_false {known : List String} {name : String} :
    isKnownField known name = false ↔
      name ∉ known ∧ ¬ ['$'] <+: name.toList ∧ Text.lowerName name ∉ contextNames := by
  have dollar : ['$'] <+: name.toList ↔ name.toList.head? = some '$' := by
    cases name.toList with
    | nil => simp
    | cons c rest => simp [eq_comm]
  simp [isKnownField, dollar, and_assoc]

namespace References

variable {r : References} {registry : Registry}

theorem mem_fieldIssues {known : List String} {issue : Issue} :
    issue ∈ r.fieldIssues known ↔ ∃ name position, issue = .unknownField name position ∧
      (name, position) ∈ r.fields ∧ name ∉ known ∧ ¬ ['$'] <+: name.toList ∧
        Text.lowerName name ∉ contextNames := by
  simp only [fieldIssues, List.mem_map, List.mem_filter, Prod.exists, Bool.not_eq_true',
    isKnownField_eq_false]
  exact exists_congr fun name => exists_congr fun position =>
    ⟨fun ⟨listed, same⟩ => ⟨same.symm, listed⟩, fun ⟨same, listed⟩ => ⟨listed, same.symm⟩⟩

theorem mem_functionIssues {issue : Issue} :
    issue ∈ r.functionIssues registry ↔ ∃ name position, issue = .unknownFunction name position ∧
      (name, position) ∈ r.functions ∧ registry.contains name = false := by
  simp only [functionIssues, List.mem_map, List.mem_filter, Prod.exists, Bool.not_eq_true']
  exact exists_congr fun name => exists_congr fun position =>
    ⟨fun ⟨listed, same⟩ => ⟨same.symm, listed⟩, fun ⟨same, listed⟩ => ⟨listed, same.symm⟩⟩

/-! ### The order of issues -/

/-- The order of the names is that of the issues they make. -/
theorem pairwise_issues {names : List (String × Nat)}
    (ordered : names.Pairwise fun a b => a.2 < b.2) (chosen : String × Nat → Bool)
    {issue : String × Nat → Issue} (placed : ∀ name, (issue name).position = name.2) :
    ((names.filter chosen).map issue).Pairwise fun a b => a.position < b.position := by
  refine List.pairwise_map.mpr ((ordered.filter chosen).imp fun less => ?_)
  rwa [placed, placed]

/-- Issues that stand at different places are sorted into the one order of these. -/
theorem pairwise_mergeSort_position {issues : List Issue}
    (apart : (issues.map Issue.position).Nodup) :
    (issues.mergeSort fun a b => a.position ≤ b.position).Pairwise
      fun a b => a.position < b.position := by
  have sorted := @List.pairwise_mergeSort Issue (fun a b => a.position ≤ b.position)
    (fun a b c first second =>
      decide_eq_true (Nat.le_trans (of_decide_eq_true first) (of_decide_eq_true second)))
    (fun a b => by simpa using Nat.le_total a.position b.position) issues
  have places : ((issues.mergeSort fun a b => a.position ≤ b.position).map
      Issue.position).Nodup :=
    ((List.mergeSort_perm issues _).map Issue.position).nodup_iff.mpr apart
  exact (sorted.and (List.pairwise_map.mp places)).imp fun ⟨least, different⟩ =>
    Nat.lt_of_le_of_ne (of_decide_eq_true least) different

theorem pairwise_position_issues {t : Expr} (ordered : t.nodes.Pairwise Expr.Precedes)
    (registry : Registry) (known : Option (List String)) :
    (t.references.issues registry known).Pairwise fun a b => a.position < b.position := by
  have functions : (t.references.functionIssues registry).Pairwise
      fun a b => a.position < b.position :=
    pairwise_issues (Expr.listsFirst_functions ordered).ordered _ fun _ => rfl
  have fields : ((known.map t.references.fieldIssues).getD []).Pairwise
      fun a b => a.position < b.position := by
    cases known with
    | none => exact .nil
    | some names => exact pairwise_issues (Expr.listsFirst_fields ordered).ordered _ fun _ => rfl
  refine pairwise_mergeSort_position (List.pairwise_map.mpr (List.pairwise_append.mpr
    ⟨fields.imp Nat.ne_of_lt, functions.imp Nat.ne_of_lt, ?_⟩))
  intro field read function called
  cases known with
  | none => cases read
  | some names =>
      obtain ⟨_, _, rfl, read, -⟩ := mem_fieldIssues.mp read
      obtain ⟨_, _, rfl, called, -⟩ := mem_functionIssues.mp called
      exact Expr.field_ne_function ordered read called

end References

namespace Engine

/-- The references of a formula that parses are the fields that it reads and the functions that it calls
by their names in upper case, each once, with the position of its first use, in the order of these
positions. Its issues are those of the fields that are not known, have no dollar sign in front and are
not answered by a context, and those of the functions that are not registered, in the order of their
positions, no two of which are the same. -/
theorem validate_lists_first (engine : Engine) {formula : String} {parsed : Expr.Measured}
    (parses : engine.parse formula = .ok parsed) (known : Option (List String)) :
    let validation := engine.validate formula known
    validation.references = parsed.expr.references ∧
      Expr.ListsFirst (fun name position => Expr.Within (.identifier name position) parsed.expr)
        parsed.expr.references.fields ∧
      Expr.ListsFirst (fun name position => ∃ callee arguments, Text.upperName callee = name ∧
        Expr.Within (.call callee arguments position) parsed.expr)
        parsed.expr.references.functions ∧
      (validation.issues.Pairwise fun a b => a.position < b.position) ∧
      ∀ issue, issue ∈ validation.issues ↔
        (∃ names name position, known = some names ∧ issue = .unknownField name position ∧
          (name, position) ∈ parsed.expr.references.fields ∧ name ∉ names ∧
          ¬ ['$'] <+: name.toList ∧ Text.lowerName name ∉ contextNames) ∨
        ∃ name position, issue = .unknownFunction name position ∧
          (name, position) ∈ parsed.expr.references.functions ∧
          engine.registry.contains name = false := by
  intro validation
  have references : validation.references = parsed.expr.references := by
    dsimp only [validation, validate]
    rw [parses]
  have issues : validation.issues = parsed.expr.references.issues engine.registry known :=
    issues_of_parse parses
  obtain ⟨built, -⟩ := Expr.parse_of_parseWithin (mapError_eq_ok.mp parses)
  have ordered := Expr.precedes_nodes built
  rw [issues]
  refine ⟨references, Expr.listsFirst_fields ordered, Expr.listsFirst_functions ordered,
    References.pairwise_position_issues ordered engine.registry known, fun issue => ?_⟩
  rw [mem_issues, References.mem_functionIssues]
  refine or_congr_left ?_
  cases known with
  | none => exact ⟨fun member => (nomatch member), fun ⟨_, _, _, absent, _⟩ => (nomatch absent)⟩
  | some names =>
      rw [Option.map_some, Option.getD_some, References.mem_fieldIssues]
      constructor
      · rintro ⟨name, position, listed⟩
        exact ⟨names, name, position, rfl, listed⟩
      · rintro ⟨_, name, position, ⟨⟩, listed⟩
        exact ⟨name, position, listed⟩

theorem validate_lists_first_repeated :
    let engine : Engine := { registry := .ofDefinitions [Math.sumFunction], host := .universal }
    ∃ parsed, engine.parse "vat(b, a, b) + sum(a)" = .ok parsed ∧
      IsLeast {p | Expr.Within (.identifier "b" p) parsed.expr} 4 ∧
      .unknownField "a" 7 ∈ (engine.validate "vat(b, a, b) + sum(a)" (some ["b"])).issues ∧
      .unknownFunction "VAT" 0 ∈ (engine.validate "vat(b, a, b) + sum(a)" (some ["b"])).issues := by
  intro engine
  have outcome : ((engine.parse "vat(b, a, b) + sum(a)").toOption.any fun parsed =>
      decide (parsed.expr.references =
        ⟨[("b", 4), ("a", 7)], [("VAT", 0), ("SUM", 15)]⟩)) = true := by
    decide +kernel
  obtain ⟨parsed, found, listed⟩ := (Option.any_eq_true _ _).mp outcome
  have parses := toOption_eq_some.mp found
  have listed := of_decide_eq_true listed
  obtain ⟨-, fields, -, -, issues⟩ := validate_lists_first engine parses (some ["b"])
  rw [listed] at fields issues
  have unregistered : engine.registry.contains "VAT" = false := by decide +kernel
  refine ⟨parsed, parses, (fields.least "b" 4).mp List.mem_cons_self, (issues _).mpr (.inl ?_),
    (issues _).mpr (.inr ⟨"VAT", 0, rfl, List.mem_cons_self, unregistered⟩)⟩
  exact ⟨["b"], "a", 7, rfl, rfl, by decide, by decide, by decide, by decide +kernel⟩

end Engine

end Formula
