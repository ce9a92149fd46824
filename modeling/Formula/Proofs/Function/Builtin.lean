import Formula.Function.Library
import Formula.Proofs.Except
import Formula.Proofs.Record
import Formula.Proofs.Sorting

/-!
What the built-in functions are found to be, what they read of a context, which is the datasets and
the time, and how they fail: none of them breaks down.
-/

namespace Formula

namespace Registry

theorem mem_functions_register {r : Registry} {d : Definition} {entry : String × Definition}
    (member : entry ∈ ((r.register d).toOption.getD r).functions) :
    entry.2 = d ∨ entry ∈ r.functions := by
  simp only [register] at member
  split at member
  · exact .inr member
  · split at member
    · exact .inr member
    · rcases Record.mem_of_mem_put member with rfl | old
      · exact .inl rfl
      · exact .inr old

theorem mem_functions_foldl_register {definitions : List Definition} {r : Registry}
    {entry : String × Definition}
    (member : entry ∈
      (definitions.foldl (fun r d => (r.register d).toOption.getD r) r).functions) :
    entry.2 ∈ definitions ∨ entry ∈ r.functions := by
  induction definitions generalizing r with
  | nil => exact .inr member
  | cons d rest ih =>
      rcases ih member with later | earlier
      · exact .inl (List.mem_cons_of_mem d later)
      · rcases mem_functions_register earlier with first | old
        · exact .inl (first ▸ List.mem_cons_self)
        · exact .inr old

theorem mem_of_find?_ofDefinitions {definitions : List Definition} {name : String}
    {d : Definition} (found : (ofDefinitions definitions).find? name = some d) :
    d ∈ definitions := by
  rcases mem_functions_foldl_register (Record.mem_of_get? found) with member | none
  · exact member
  · cases none

@[simp] theorem find?_freeze (r : Registry) (name : String) : r.freeze.find? name = r.find? name :=
  rfl

/-- No registration takes a name away from the function that has it. -/
theorem find?_register_of_some {r : Registry} {name : String} {d : Definition}
    (found : r.find? name = some d) (d' : Definition) :
    ((r.register d').toOption.getD r).find? name = some d := by
  simp only [register]
  split
  · exact found
  · split
    · exact found
    · rename_i new
      have apart : Text.upperName d'.name ≠ Text.upperName name := fun same => new (by
        rw [same, Record.contains, show r.functions.get? (Text.upperName name) = some d from found]
        rfl)
      exact (Record.get?_put_of_ne apart d' r.functions).trans found

theorem find?_foldl_register_of_some {r : Registry} {name : String} {d : Definition}
    (found : r.find? name = some d) (others : List Definition) :
    (others.foldl (fun r d => (r.register d).toOption.getD r) r).find? name = some d := by
  induction others generalizing r with
  | nil => exact found
  | cons d' others ih => exact ih (find?_register_of_some found d')

/-- The first function of a name counts. -/
theorem find?_ofDefinitions_cons (d : Definition) (rest : List Definition) :
    (ofDefinitions (d :: rest)).find? d.name = some d := by
  have first : (ofDefinitions [d]).find? d.name = some d :=
    Record.get?_put_self (Text.upperName d.name) d []
  exact find?_foldl_register_of_some first rest

theorem register_of_new {r : Registry} {d : Definition} (unfrozen : r.frozen = false)
    (new : r.find? d.name = none) :
    (r.register d).toOption.getD r =
      { r with functions := r.functions.put (Text.upperName d.name) d } := by
  have absent : r.functions.contains (Text.upperName d.name) = false := by
    rw [Record.contains, show r.functions.get? (Text.upperName d.name) = none from new]
    rfl
  simp only [register, unfrozen, absent]
  rfl

theorem find?_foldl_register_of_mem {definitions : List Definition} {r : Registry} {d : Definition}
    (unfrozen : r.frozen = false) (new : ∀ d ∈ definitions, r.find? d.name = none)
    (distinct : (definitions.map fun d => Text.upperName d.name).Nodup) (member : d ∈ definitions) :
    (definitions.foldl (fun r d => (r.register d).toOption.getD r) r).find? d.name = some d := by
  induction definitions generalizing r with
  | nil => cases member
  | cons first rest ih =>
      rw [List.map_cons, List.nodup_cons] at distinct
      obtain ⟨apart, distinct⟩ := distinct
      rw [List.foldl_cons, register_of_new unfrozen (new first List.mem_cons_self)]
      rcases List.mem_cons.mp member with rfl | later
      · refine find?_foldl_register_of_some ?_ rest
        exact Record.get?_put_self (Text.upperName d.name) d r.functions
      · refine ih unfrozen (fun d' member' => ?_) distinct later
        have other : Text.upperName first.name ≠ Text.upperName d'.name := fun same =>
          apart (List.mem_map.mpr ⟨d', member', same.symm⟩)
        rw [find?, Record.get?_put_of_ne other]
        exact new d' (List.mem_cons_of_mem first member')

/-- Of functions whose names differ every one is found by its name. -/
theorem find?_ofDefinitions_of_mem {definitions : List Definition} {d : Definition}
    (distinct : (definitions.map fun d => Text.upperName d.name).Nodup) (member : d ∈ definitions) :
    (ofDefinitions definitions).find? d.name = some d :=
  find?_foldl_register_of_mem rfl (fun _ _ => rfl) distinct member

theorem get_eq_ok_iff {r : Registry} {name : String} {d : Definition} :
    r.get name = .ok d ↔ r.find? name = some d := by
  unfold get
  cases r.find? name <;> simp

theorem mem_of_find?_builtin {name : String} {d : Definition}
    (found : builtin.find? name = some d) : d ∈ builtinFunctions := by
  rw [builtin, find?_freeze] at found
  exact mem_of_find?_ofDefinitions found

end Registry

/-! ### What functions read of a context -/

/-- Two contexts hold the same datasets and report the same time. -/
structure Context.SameData (c₁ c₂ : Context) : Prop where
  datasets : c₁.datasets = c₂.datasets
  now : c₁.clock.now = c₂.clock.now

namespace Definition

/-- A function does the same in every context. -/
def IgnoresContext (d : Definition) : Prop :=
  ∀ c₁ c₂ args, d.implementation c₁ args = d.implementation c₂ args

/-- A function does the same in contexts with the same datasets and the same time. -/
def ReadsDataOnly (d : Definition) : Prop :=
  ∀ c₁ c₂ args, Context.SameData c₁ c₂ → d.implementation c₁ args = d.implementation c₂ args

theorem IgnoresContext.readsDataOnly {d : Definition} (ignores : d.IgnoresContext) :
    d.ReadsDataOnly := fun c₁ c₂ args _ => ignores c₁ c₂ args

/-- What a call returns came out of the function and passed the check of results. -/
theorem call_eq_ok_iff {d : Definition} {c : Context} {args : List Value} {v : Value} :
    d.call c args = .ok v ↔ ∃ w, d.implementation c args = .ok w ∧ w.check = .ok v := by
  have result : (do
      let w ← d.implementation c args
      w.check.mapError CallFailure.fault) = .ok v ↔
        ∃ w, d.implementation c args = .ok w ∧ w.check = .ok v := by
    simp only [bind_eq_ok, mapError_eq_ok]
  rw [← result]
  unfold call
  dsimp only
  split
  all_goals
    rename_i same
    rw [same]
    simp

/-- A result that does not pass the check makes the call fail, under the name of the function. -/
theorem call_of_refused {d : Definition} {c : Context} {args : List Value} {v : Value} {f : Fault}
    (returned : d.implementation c args = .ok v) (refused : v.check = .error f) :
    d.call c args = .error (.failed (.runtime ⟨.call d.name f, none, some d.name⟩)) := by
  rw [call, returned, bind_of_ok rfl, refused]
  rfl

theorem call_eq_of_sameData {d : Definition} (reads : d.ReadsDataOnly) {c₁ c₂ : Context}
    (same : Context.SameData c₁ c₂) (args : List Value) : d.call c₁ args = d.call c₂ args := by
  unfold call
  rw [reads c₁ c₂ args same]

theorem ignoresContext_of_mem :
    ∀ d, d ∈ Math.functions ++ Texts.functions ++ Logic.functions ++ Arrays.functions →
      d.IgnoresContext := by
  simp only [Math.functions, Texts.functions, Logic.functions, Arrays.functions,
    List.forall_mem_append, List.forall_mem_cons]
  and_intros
  all_goals first | exact fun _ _ _ => rfl | exact fun _ member => nomatch member

theorem readsDataOnly_dates : ∀ d, d ∈ Dates.functions → d.ReadsDataOnly := by
  simp only [Dates.functions, List.forall_mem_cons]
  refine ⟨?now, ?today, ?others⟩
  case now =>
    intro c₁ c₂ args same
    simp only [Dates.nowFunction, Context.now, same.now]
  case today =>
    intro c₁ c₂ args same
    simp only [Dates.todayFunction, Context.today, same.now]
  case others =>
    and_intros
    all_goals first | exact fun _ _ _ _ => rfl | exact fun _ member => nomatch member

theorem readsDataOnly_lookups : ∀ d, d ∈ Lookups.functions → d.ReadsDataOnly := by
  simp only [Lookups.functions, List.forall_mem_cons]
  refine ⟨?records, ?table, fun _ member => nomatch member⟩
  case records =>
    intro c₁ c₂ args same
    simp only [Lookups.lookupFunction, Lookups.lookupRecord, Lookups.lookup, same.datasets]
  case table => exact fun _ _ _ _ => rfl

theorem readsDataOnly_builtin {d : Definition} (member : d ∈ builtinFunctions) :
    d.ReadsDataOnly := by
  have ignores := ignoresContext_of_mem d
  simp only [List.mem_append] at ignores
  simp only [builtinFunctions, List.mem_append] at member
  rcases member with (((before | date) | array) | lookup)
  · exact (ignores (.inl before)).readsDataOnly
  · exact readsDataOnly_dates d date
  · exact (ignores (.inr array)).readsDataOnly
  · exact readsDataOnly_lookups d lookup

end Definition

/-! ### How functions fail -/

/-- A failure other than a breakdown. -/
def CallFailure.Ordinary (e : CallFailure) : Prop := ∀ message, e ≠ .crash message

theorem CallFailure.ordinary_fault (f : Fault) : CallFailure.Ordinary (.fault f) :=
  fun _ same => nomatch same

/-- A failure that is no breakdown, and no error of the formula in the function's own words. -/
def CallFailure.IsPlain : CallFailure → Prop
  | .fault _ | .host | .cause (.order _) => True
  | _ => False

theorem CallFailure.isPlain_fault (f : Fault) : CallFailure.IsPlain (.fault f) := trivial

theorem CallFailure.isPlain_order (e : Value.OrderError) : CallFailure.IsPlain (.cause (.order e)) :=
  trivial

theorem CallFailure.IsPlain.ordinary {e : CallFailure} (plain : e.IsPlain) : e.Ordinary := by
  rintro message rfl
  exact plain

theorem Arrays.sort_fails (v descending : Value) :
    FailsOnly CallFailure.IsPlain (Arrays.sort v descending) := by
  have comparisons : ∀ a b, FailsOnly CallFailure.IsPlain (Arrays.less a b) := by
    intro a b
    unfold Arrays.less
    split
    · exact failsOnly_ok _
    · exact failsOnly_error (CallFailure.isPlain_order _)
  unfold Arrays.sort
  split
  · exact failsOnly_ok _
  · dsimp only
    split
    · exact failsOnly_error (CallFailure.isPlain_fault _)
    · refine (failsOnly_mapError _ CallFailure.isPlain_fault).bind fun down => ?_
      split
      · exact (Sorting.sortDescending_failsOnly comparisons _).bind fun sorted => failsOnly_ok _
      · exact (Sorting.sort_failsOnly comparisons _).bind fun sorted => failsOnly_ok _

theorem Lookups.lastNotAbove_fails (v : Value) (found : Option (List Value))
    (rows : List (Value × List Value)) :
    FailsOnly CallFailure.IsPlain (Lookups.lastNotAbove v found rows) := by
  induction rows generalizing found with
  | nil => exact failsOnly_ok found
  | cons first rest ih =>
      unfold Lookups.lastNotAbove
      split
      · exact ih found
      · split
        · exact failsOnly_error (CallFailure.isPlain_order _)
        · exact failsOnly_ok found
        · exact ih _

theorem Lookups.findRow_fails (v exactly : Value) (table : List Value) :
    FailsOnly CallFailure.IsPlain (Lookups.findRow v table exactly) := by
  refine (failsOnly_mapError _ CallFailure.isPlain_fault).bind fun isExact => ?_
  split
  · exact failsOnly_ok _
  · split
    · exact failsOnly_ok _
    · exact Lookups.lastNotAbove_fails v none _

theorem Lookups.tableLookup_fails (v table column exactly : Value) :
    FailsOnly CallFailure.IsPlain (Lookups.tableLookup v table column exactly) := by
  unfold Lookups.tableLookup
  split
  · refine (failsOnly_mapError _ CallFailure.isPlain_fault).bind fun index => ?_
    split
    · exact failsOnly_error (CallFailure.isPlain_fault _)
    · exact (Lookups.findRow_fails _ _ _).bind fun row => failsOnly_ok _
  · exact failsOnly_ok _

theorem Texts.parseJson_fails (v : Value) :
    FailsOnly CallFailure.IsPlain (Texts.parseJson v) := by
  unfold Texts.parseJson
  split
  · exact failsOnly_ok _
  · split
    · exact failsOnly_ok _
    · exact failsOnly_ok _
    · exact failsOnly_error trivial
    · exact failsOnly_error (CallFailure.isPlain_fault _)

namespace Definition

/-- A function fails in a context, but does not break down. -/
def Sturdy (d : Definition) : Prop :=
  ∀ c args, FailsOnly CallFailure.Ordinary (d.implementation c args)

theorem plain_builtin : ∀ d, d ∈ builtinFunctions →
    ∀ c args, FailsOnly CallFailure.IsPlain (d.implementation c args) := by
  simp only [builtinFunctions, Math.functions, Texts.functions, Logic.functions, Dates.functions,
    Arrays.functions, Lookups.functions, List.forall_mem_append, List.forall_mem_cons]
  and_intros
  all_goals first
    | exact fun _ _ => failsOnly_mapError _ CallFailure.isPlain_fault
    | exact fun _ _ => failsOnly_ok _
    | exact fun _ _ => Arrays.sort_fails _ _
    | exact fun _ _ => Texts.parseJson_fails _
    | exact fun _ _ => Lookups.tableLookup_fails _ _ _ _
    | exact fun _ member => nomatch member

theorem sturdy_builtin : ∀ d, d ∈ builtinFunctions → d.Sturdy := fun d member c args =>
  (plain_builtin d member c args).imp fun _ => CallFailure.IsPlain.ordinary

end Definition

end Formula
