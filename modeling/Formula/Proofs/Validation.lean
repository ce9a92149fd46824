import Formula.Proofs.Evaluation.Alarms
import Formula.Proofs.Expr.Calls
import Formula.Proofs.Expr.References
import Formula.Proofs.Limits
import Formula.Proofs.Token.Tiling
import Formula.Validation

/-!
Validating a formula tells of what evaluating it would: it has an issue of the syntax exactly if it
cannot be parsed, and without issues of the syntax or of functions no evaluation of it comes to
something that evaluators do not know.
-/

namespace Formula

namespace Expr

/-- What is parsed within limits can be evaluated within them. -/
theorem admissible_of_parseWithin {limits : Limits} {source : String} {host : Host}
    {parsed : Measured} (parses : parseWithin host limits source = .ok parsed) (context : Context)
    (registry : Registry) :
    parsed.expr.Admissible ⟨context, registry, limits.maxDepth, host⟩
      (min (limits.maxDepth : Int).toNat host.depth) := by
  obtain ⟨parses, shallow⟩ := parse_of_parseWithin parses
  obtain ⟨tokens, stop, lexes, derives⟩ := derives_of_parse parses
  obtain ⟨-, same, -⟩ := Token.tokens_eq_ok_iff.mp lexes
  refine ⟨fun node within => ?_, fun callee arguments position within => ?_, fun followed => ?_⟩
  · obtain ⟨front, inner, back, level, -, whole, -⟩ :=
      derives.allStand parsed.expr List.mem_cons_self node within
    exact whole.isWritable rfl
  · have member : (position, callee) ∈ callsOf [parsed.expr] := by
      rw [callsOf_singleton]
      exact mem_calls_iff.mpr ⟨arguments, within⟩
    obtain ⟨token, among, named⟩ := List.mem_filterMap.mp (derives.matched.among.mem member)
    obtain ⟨word, -, whole⟩ := name?_eq_some named
    cases whole
    rw [← same] at among
    exact Token.blank_notMem_value among word
  · rw [measure_eq] at shallow
    dsimp only at shallow followed
    omega

theorem ParseError.ofSource_describe (host : Host) (maxNesting : Int) (e : ParseError) :
    (e.describe host maxNesting).OfSource := by
  cases e with
  | grammar cause position => exact .grammar cause position
  | nesting position =>
      rw [ParseError.describe]
      split <;> exact .limit (by simp) _

theorem parse_fails (host : Host) (source : String) (maxNesting : Int) :
    FailsOnly FormulaError.OfSource (parse host source maxNesting) :=
  (failsOnly_mapError _ .scan).bind fun _ =>
    failsOnly_mapError _ (ParseError.ofSource_describe host maxNesting)

theorem parseWithin_fails (host : Host) (limits : Limits) (source : String) :
    FailsOnly FormulaError.OfSource (parseWithin host limits source) := by
  unfold parseWithin
  split
  · exact failsOnly_error (.limit (by simp) _)
  · refine (parse_fails host source limits.maxNesting).bind fun e => ?_
    dsimp only
    split
    · exact failsOnly_error (.limit (by simp) _)
    · split
      · exact failsOnly_error (.limit (by simp) _)
      · exact failsOnly_ok _

end Expr

namespace Engine

variable {engine : Engine} {formula : String} {known : Option (List String)}

/-! ### Issues -/

theorem issues_of_parse_error {e : ErrorInfo} (failed : engine.parse formula = .error e) :
    (engine.validate formula known).issues = [.unreadable e] := by
  rw [validate, failed]

theorem issues_of_parse {parsed : Expr.Measured} (parses : engine.parse formula = .ok parsed) :
    (engine.validate formula known).issues =
      parsed.expr.references.issues engine.registry known := by
  rw [validate, parses]

theorem mem_issues {r : References} {registry : Registry} {issue : Issue} :
    issue ∈ r.issues registry known ↔
      issue ∈ (known.map r.fieldIssues).getD [] ∨ issue ∈ r.functionIssues registry := by
  rw [References.issues, List.mem_mergeSort, List.mem_append]

theorem type_ne_syntax {r : References} {registry : Registry} {issue : Issue}
    (member : issue ∈ r.issues registry known) : issue.type ≠ "syntax" := by
  rcases mem_issues.mp member with field | function
  · cases known with
    | none => cases field
    | some names =>
        obtain ⟨_, -, rfl⟩ := List.mem_map.mp field
        exact (by decide : "unknown_field" ≠ "syntax")
  · obtain ⟨_, -, rfl⟩ := List.mem_map.mp function
    exact (by decide : "unknown_function" ≠ "syntax")

theorem unknownFunction_mem_issues {registry : Registry} {e : Expr} {name : String}
    (invokes : e.Invokes name) (missing : registry.find? name = none)
    (known : Option (List String)) :
    ∃ position, .unknownFunction name position ∈ e.references.issues registry known := by
  obtain ⟨⟨_, position⟩, member, rfl⟩ :=
    List.mem_map.mp (Expr.mem_functions_references.mpr invokes)
  refine ⟨position, mem_issues.mpr (.inr (List.mem_map.mpr ⟨_, List.mem_filter.mpr ⟨member, ?_⟩, rfl⟩))⟩
  rw [Registry.contains, missing]
  rfl

/-! ### Errors -/

theorem evaluate_failed {context : Context} {e : ErrorInfo}
    (failed : engine.evaluate formula context = .ok (.error e)) :
    engine.parse formula = .error e ∨ ∃ parsed error, engine.parse formula = .ok parsed ∧
      parsed.expr.value context engine.registry engine.limits.maxDepth engine.host =
        .error (.failed error) ∧
      e = error.info := by
  unfold evaluate at failed
  cases parses : engine.parse formula with
  | error e' =>
      rw [parses] at failed
      cases failed
      exact .inl rfl
  | ok parsed =>
      rw [parses] at failed
      dsimp only [evaluateTree] at failed
      cases value :
        parsed.expr.value context engine.registry engine.limits.maxDepth engine.host with
      | ok v =>
          rw [value] at failed
          cases failed
      | error stop =>
          rw [value] at failed
          cases stop with
          | failed error =>
              cases failed
              exact .inr ⟨parsed, error, rfl, value, rfl⟩
          | broken d => cases failed

/-- An alarm of an evaluation is that of a call of an unknown function, which is an issue. -/
theorem quiet_or_unknownFunction (keyed : engine.registry.Keyed)
    (discreet : engine.registry.Discreet) {parsed : Expr.Measured}
    (parses : engine.parse formula = .ok parsed) {context : Context} {error : FormulaError}
    (failed : parsed.expr.value context engine.registry engine.limits.maxDepth engine.host =
      .error (.failed error)) (known : Option (List String)) :
    ¬ IsAlarm error.info.message ∨
      ∃ callee position, error.info.message = Text.ofString ("Unknown function: " ++ callee) ∧
        .unknownFunction (Text.upperName callee) position ∈ (engine.validate formula known).issues := by
  have admissible := Expr.admissible_of_parseWithin (mapError_eq_ok.mp parses) context engine.registry
  rcases parsed.expr.evaluate_mayStop keyed discreet admissible _ failed with
    quiet | ⟨callee, arguments, place, within, missing, same⟩
  · exact .inl (quiet error rfl)
  · cases same
    rw [← Registry.find?_upperName] at missing
    obtain ⟨position, issue⟩ :=
      unknownFunction_mem_issues ⟨callee, arguments, place, within, rfl⟩ missing known
    exact .inr ⟨callee, position, rfl, issues_of_parse parses ▸ issue⟩

/-- A formula has an issue of the syntax exactly if it cannot be parsed, with the same message and
position. Without such an issue and one of an unknown function no evaluation alarms, and a function
that an evaluation does not know is an issue by its name in upper case. -/
theorem validate_sound (engine : Engine) (keyed : engine.registry.Keyed)
    (discreet : engine.registry.Discreet) (formula : String) (known : Option (List String)) :
    (∀ message place,
        (∃ issue ∈ (engine.validate formula known).issues,
          issue.type = "syntax" ∧ issue.message = message ∧ issue.position? = place) ↔
        ∃ e, engine.parse formula = .error e ∧ e.message = message ∧ e.position = place) ∧
      (∀ context e, engine.evaluate formula context = .ok (.error e) →
        (∀ issue ∈ (engine.validate formula known).issues,
          issue.type ≠ "syntax" ∧ issue.type ≠ "unknown_function") → ¬ IsAlarm e.message) ∧
      ∀ context e name, engine.evaluate formula context = .ok (.error e) →
        e.message = Text.ofString ("Unknown function: " ++ name) →
        ∃ position, .unknownFunction (Text.upperName name) position ∈
          (engine.validate formula known).issues := by
  refine ⟨fun message place => ?_, fun context e failed clear => ?_,
    fun context e name failed unknown => ?_⟩
  · cases parses : engine.parse formula with
    | error e =>
        rw [issues_of_parse_error parses]
        constructor
        · rintro ⟨issue, member, -, same⟩
          rw [List.mem_singleton.mp member] at same
          exact ⟨e, rfl, same⟩
        · rintro ⟨_, ⟨⟩, same⟩
          exact ⟨_, List.mem_cons_self, rfl, same⟩
    | ok parsed =>
        rw [issues_of_parse parses]
        refine iff_of_false ?_ nofun
        rintro ⟨issue, member, unreadable, -⟩
        exact type_ne_syntax member unreadable
  · rcases evaluate_failed failed with parses | ⟨parsed, error, parses, stopped, rfl⟩
    · rw [issues_of_parse_error parses] at clear
      exact absurd rfl (clear _ List.mem_cons_self).1
    · rcases quiet_or_unknownFunction keyed discreet parses stopped known with
        quiet | ⟨callee, position, -, issue⟩
      · exact quiet
      · exact absurd rfl (clear _ issue).2
  · have front : Text.Begins "Unknown function" e.message := by
      rw [unknown]
      exact Text.Begins.join (by decide) name
    rcases evaluate_failed failed with parses | ⟨parsed, error, parses, stopped, rfl⟩
    · obtain ⟨error, refused, rfl⟩ := mapError_eq_error.mp parses
      have source := Expr.parseWithin_fails engine.host engine.limits formula error refused
      exact absurd (List.IsPrefix.trans (by decide) front) source.not_unknown
    · rcases quiet_or_unknownFunction keyed discreet parses stopped known with
        quiet | ⟨callee, position, same, issue⟩
      · exact absurd ⟨_, List.mem_cons_self, front⟩ quiet
      · rw [unknown] at same
        rw [Text.ofString_append_inj.mp same]
        exact ⟨position, issue⟩

theorem validate_sound_lower :
    let engine : Engine := { registry := .ofDefinitions [Math.sumFunction], host := .universal }
    let context : Context := {
      clock := .ofMoment .universal (.atMidnight ⟨2024, 1, 15, by decide⟩ none) }
    engine.registry.Keyed ∧ engine.registry.Discreet ∧
      (∃ e, engine.evaluate "sum(vat(1))" context = .ok (.error e) ∧
        e.message = Text.ofString ("Unknown function: " ++ "vat")) ∧
      ∃ position, .unknownFunction "VAT" position ∈
        (engine.validate "sum(vat(1))" none).issues := by
  intro engine context
  have failed : (match engine.evaluate "sum(vat(1))" context with
      | .ok (.error e) => decide (e.message = Text.ofString ("Unknown function: " ++ "vat"))
      | _ => false) = true := by
    decide +kernel
  have keyed : engine.registry.Keyed := Registry.keyed_ofDefinitions _
  have discreet : engine.registry.Discreet :=
    Registry.discreet_ofDefinitions (by simp [builtinFunctions, Math.functions])
  split at failed
  · rename_i e outcome
    have message := of_decide_eq_true failed
    have upper : Text.upperName "vat" = "VAT" := by decide +kernel
    refine ⟨keyed, discreet, ⟨e, outcome, message⟩, ?_⟩
    rw [← upper]
    exact (validate_sound engine keyed discreet "sum(vat(1))" none).2.2 context e "vat" outcome message
  · cases failed

end Engine

end Formula
