import Formula.Proofs.Function.Builtin
import Mathlib

/-!
What steps make of a new registry. At every point it holds the definitions whose registration
succeeded, each under its name in upper case, in the order of the registrations; all answers are
told from these.
-/

namespace Formula.Registry

/-! ### Steps -/

/-- What is done with a registry. Only the first two steps can change it. -/
inductive Step where
  | register (d : Definition)
  | freeze
  | get (name : String)
  | contains (name : String)
  | list
  | listCategory (category : Category)
  | categories
  | doc

/-- A registry after some steps, with the definitions whose registration succeeded. -/
structure Run where
  registry : Registry := .empty
  registered : List Definition := []

namespace Run

def next (run : Run) : Step → Run
  | .register d =>
      match run.registry.register d with
      | .ok registry => ⟨registry, run.registered ++ [d]⟩
      | .error _ => run
  | .freeze => { run with registry := run.registry.freeze }
  | .get _ | .contains _ | .list | .listCategory _ | .categories | .doc => run

theorem next_of_ok {run : Run} {d : Definition} {registry : Registry}
    (registered : run.registry.register d = .ok registry) :
    run.next (.register d) = ⟨registry, run.registered ++ [d]⟩ := by
  simp only [next, registered]

/-- A registration that fails changes nothing. -/
theorem next_of_error {run : Run} {d : Definition} {e : RegistryError}
    (refused : run.registry.register d = .error e) : run.next (.register d) = run := by
  simp only [next, refused]

/-- The steps one after the other, from a new registry on. -/
def after (steps : List Step) : Run := steps.foldl next {}

theorem after_append (steps more : List Step) :
    after (steps ++ more) = more.foldl next (after steps) :=
  List.foldl_append

end Run

/-! ### Registration -/

theorem register_eq_ok_iff {r r' : Registry} {d : Definition} :
    r.register d = .ok r' ↔
      r.frozen = false ∧ Text.upperName d.name ∉ Record.keys r.functions ∧
        r' = { r with functions := r.functions ++ [(Text.upperName d.name, d)] } := by
  unfold register
  dsimp only
  split
  · rename_i frozen
    simp [frozen]
  · rename_i open_
    rw [Bool.not_eq_true] at open_
    split
    · rename_i taken
      have member := Record.contains_iff.mp taken
      simp [member]
    · rename_i free
      have absent := Record.contains_iff.not.mp free
      simp [open_, absent, Record.put_of_notMem absent, eq_comm]

/-! ### What every run keeps -/

namespace Run

/-- The registry of a run holds what was registered and nothing else, under different names. -/
structure Kept (run : Run) : Prop where
  functions : run.registry.functions = run.registered.map fun d => (Text.upperName d.name, d)
  distinct : (run.registered.map fun d => Text.upperName d.name).Nodup

theorem Kept.keys {run : Run} (kept : run.Kept) :
    Record.keys run.registry.functions = run.registered.map fun d => Text.upperName d.name := by
  rw [kept.functions, Record.keys, List.map_map]
  rfl

theorem Kept.next {run : Run} (kept : run.Kept) (step : Step) : (run.next step).Kept := by
  cases step with
  | register d =>
      cases registered : run.registry.register d with
      | error e => rwa [next_of_error registered]
      | ok registry =>
          rw [next_of_ok registered]
          obtain ⟨-, absent, rfl⟩ := register_eq_ok_iff.mp registered
          rw [kept.keys] at absent
          constructor
          · simp [kept.functions]
          · rw [List.map_append, List.nodup_append]
            refine ⟨kept.distinct, List.nodup_singleton _, ?_⟩
            rintro name member _ (_ | _) rfl
            · exact absent member
            · contradiction
  | freeze => exact ⟨kept.functions, kept.distinct⟩
  | get _ | contains _ | list | listCategory _ | categories | doc => exact kept

theorem kept_after (steps : List Step) : (after steps).Kept := by
  induction steps using List.reverseRecOn with
  | nil => exact ⟨rfl, List.nodup_nil⟩
  | append_singleton before step ih =>
      rw [after_append]
      exact ih.next step

theorem frozen_next (run : Run) (step : Step) :
    (run.next step).registry.frozen = true ↔ run.registry.frozen = true ∨ step = .freeze := by
  cases step with
  | register d =>
      cases registered : run.registry.register d with
      | error e => simp [next_of_error registered]
      | ok registry =>
          rw [next_of_ok registered]
          obtain ⟨-, -, rfl⟩ := register_eq_ok_iff.mp registered
          simp
  | freeze => exact iff_of_true rfl (.inr rfl)
  | get _ | contains _ | list | listCategory _ | categories | doc => simp [Run.next]

theorem frozen_after (steps : List Step) :
    (after steps).registry.frozen = true ↔ Step.freeze ∈ steps := by
  induction steps using List.reverseRecOn with
  | nil => exact iff_of_false Bool.false_ne_true List.not_mem_nil
  | append_singleton before step ih =>
      rw [after_append, List.foldl_cons, List.foldl_nil, frozen_next, ih, List.mem_append,
        List.mem_singleton, eq_comm]

/-- No step changes what a frozen registry holds. -/
theorem functions_next_of_frozen {run : Run} (frozen : run.registry.frozen = true) (step : Step) :
    (run.next step).registry.functions = run.registry.functions := by
  cases step with
  | register d =>
      cases registered : run.registry.register d with
      | error e => rw [next_of_error registered]
      | ok registry =>
          have open_ := (register_eq_ok_iff.mp registered).1
          rw [frozen] at open_
          cases open_
  | freeze | get _ | contains _ | list | listCategory _ | categories | doc => rfl

theorem functions_foldl_of_frozen {run : Run} (frozen : run.registry.frozen = true)
    (more : List Step) : (more.foldl next run).registry.functions = run.registry.functions := by
  induction more generalizing run with
  | nil => rfl
  | cons step rest ih =>
      rw [List.foldl_cons, ih ((frozen_next run step).mpr (.inl frozen)),
        functions_next_of_frozen frozen step]

/-! ### What a registry answers -/

section

variable {run : Run} (kept : run.Kept)

include kept

theorem Kept.registers_iff {d : Definition} :
    (∃ r, run.registry.register d = .ok r) ↔ run.registry.frozen = false ∧
      ∀ other ∈ run.registered, Text.upperName other.name ≠ Text.upperName d.name := by
  simp only [register_eq_ok_iff, kept.keys, List.mem_map, not_exists, not_and, exists_and_left,
    exists_eq, and_true, ne_eq]

theorem Kept.find?_eq_some_iff {name : String} {d : Definition} :
    run.registry.find? name = some d ↔
      d ∈ run.registered ∧ Text.upperName d.name = Text.upperName name := by
  have entry : (Text.upperName name, d) ∈ run.registry.functions ↔
      d ∈ run.registered ∧ Text.upperName d.name = Text.upperName name := by
    simp [kept.functions, and_comm]
  rw [← entry]
  constructor
  · exact Record.mem_of_get?
  · exact Record.get?_of_mem (kept.keys ▸ kept.distinct)

theorem Kept.get_eq_ok_iff {name : String} {d : Definition} :
    run.registry.get name = .ok d ↔
      d ∈ run.registered ∧ Text.upperName d.name = Text.upperName name := by
  rw [Registry.get_eq_ok_iff, kept.find?_eq_some_iff]

theorem Kept.list_perm : run.registry.list.Perm run.registered := by
  have values : run.registry.functions.map Prod.snd = run.registered := by
    simp [kept.functions, Function.comp_def]
  rw [list, values]
  exact List.mergeSort_perm _ _

/-- Different definitions have different names, in whatever case. -/
theorem Kept.names_nodup : (run.registry.list.map (·.name)).Nodup := by
  rw [(kept.list_perm.map _).nodup_iff]
  refine List.Nodup.of_map Text.upperName ?_
  rw [List.map_map]
  exact kept.distinct

end

end Run

theorem get_eq_error_iff {r : Registry} {name : String} {e : RegistryError} :
    r.get name = .error e ↔ e = .unknown name ∧ r.contains name = false := by
  unfold get contains
  cases r.find? name <;> simp [eq_comm]

theorem list_sorted (r : Registry) : r.list.Pairwise fun a b => a.name ≤ b.name := by
  have sorted := @List.pairwise_mergeSort Definition (fun a b => a.name ≤ b.name)
    (fun a b c first second => by
      rw [decide_eq_true_eq] at first second ⊢
      exact le_trans first second)
    (fun a b => by
      rw [Bool.or_eq_true, decide_eq_true_eq, decide_eq_true_eq]
      exact le_total a.name b.name)
    (r.functions.map Prod.snd)
  exact sorted.imp fun le => of_decide_eq_true le

/-! ### Categories -/

theorem flatMap_category_perm {categories : List Category} {ds : List Definition}
    (distinct : categories.Nodup) (all : ∀ d ∈ ds, d.category ∈ categories) :
    (categories.flatMap fun category => ds.filter fun d => d.category == category).Perm ds := by
  induction categories generalizing ds with
  | nil =>
      cases ds with
      | nil => exact .refl []
      | cons d rest => exact nomatch all d List.mem_cons_self
  | cons category rest ih =>
      rw [List.nodup_cons] at distinct
      let others := ds.filter fun d => !(d.category == category)
      have same : (rest.flatMap fun other => ds.filter fun d => d.category == other) =
          rest.flatMap fun other => others.filter fun d => d.category == other := by
        refine List.flatMap_congr fun other member => ?_
        rw [List.filter_filter]
        refine List.filter_congr fun d _ => ?_
        by_cases here : d.category = other
        · have apart : d.category ≠ category := fun equal =>
            distinct.1 (equal ▸ here ▸ member)
          simp [here, here ▸ apart]
        · simp [here]
      rw [List.flatMap_cons, same]
      refine ((ih distinct.2 fun d member => ?_).append_left _).trans
        (List.filter_append_perm _ ds)
      rw [List.mem_filter, Bool.not_eq_true', beq_eq_false_iff_ne] at member
      exact (List.mem_cons.mp (all d member.1)).resolve_left member.2

theorem mem_categories {r : Registry} {category : Category} :
    category ∈ r.categories ↔ ∃ d ∈ r.list, d.category = category := by
  have all : category ∈ Category.all := by cases category <;> decide
  simp only [categories, list, List.mem_filter, all, true_and, List.any_eq_true, beq_iff_eq,
    List.mem_mergeSort, List.mem_map]
  constructor
  · rintro ⟨entry, member, rfl⟩
    exact ⟨entry.2, ⟨entry, member, rfl⟩, rfl⟩
  · rintro ⟨d, ⟨entry, member, rfl⟩, rfl⟩
    exact ⟨entry, member, rfl⟩

theorem categories_nodup (r : Registry) : r.categories.Nodup :=
  List.Nodup.filter _ (by decide)

theorem flatMap_listCategory_perm (r : Registry) :
    (r.categories.flatMap r.listCategory).Perm r.list :=
  flatMap_category_perm r.categories_nodup fun d member => mem_categories.mpr ⟨d, member, rfl⟩

theorem length_list (r : Registry) : r.list.length = r.size := by
  rw [list, List.length_mergeSort, List.length_map, size]

/-- Every function is listed under one category. -/
theorem sum_listCategory (r : Registry) :
    (r.categories.map fun category => (r.listCategory category).length).sum = r.size := by
  rw [← length_list, ← r.flatMap_listCategory_perm.length_eq, List.length_flatMap]

/-! ### Any steps -/

/-- After any steps with a new registry: a registration succeeds if and only if no step froze the
registry and none of the definitions registered before has its name, in whatever case; if it fails
it changes nothing, and once the registry is frozen nothing does. A name finds the one definition
that was registered under it, and fails exactly where the registry has none. All definitions are
listed once, by name, and once by their categories, as many as are counted in the documentation. -/
theorem after_any_steps (steps : List Step) :
    let run := Run.after steps
    let r := run.registry
    (∀ d, ((∃ r', r.register d = .ok r') ↔ Step.freeze ∉ steps ∧
        ∀ other ∈ run.registered, Text.upperName other.name ≠ Text.upperName d.name) ∧
      (∀ r', r.register d = .ok r' →
        Run.after (steps ++ [.register d]) = ⟨r', run.registered ++ [d]⟩) ∧
      ∀ e, r.register d = .error e → Run.after (steps ++ [.register d]) = run) ∧
    (Step.freeze ∈ steps → ∀ more, (Run.after (steps ++ more)).registry.functions = r.functions) ∧
    (∀ name, (∀ d, r.get name = .ok d ↔
        d ∈ run.registered ∧ Text.upperName d.name = Text.upperName name) ∧
      ∀ e, r.get name = .error e ↔ e = .unknown name ∧ r.contains name = false) ∧
    (run.registered.Pairwise fun a b => Text.upperName a.name ≠ Text.upperName b.name) ∧
    (r.list.Perm run.registered ∧ r.list.Pairwise fun a b => a.name < b.name) ∧
    ((r.categories.flatMap r.listCategory).Perm r.list ∧ r.categories.Nodup ∧
      (∀ d category, d ∈ r.listCategory category ↔ d ∈ r.list ∧ d.category = category) ∧
      ∃ entries, r.doc = .object entries ∧ Record.get? (Text.ofString "count") entries =
        some (Value.ofNat (r.categories.map fun c => (r.listCategory c).length).sum)) := by
  intro run r
  have kept := Run.kept_after steps
  refine ⟨fun d => ⟨?_, ?_, ?_⟩, ?_, ?_, ?_, ⟨kept.list_perm, ?_⟩, r.flatMap_listCategory_perm,
    r.categories_nodup, ?_, ?_⟩
  · rw [← Run.frozen_after steps, Bool.not_eq_true]
    exact kept.registers_iff
  · intro r' registered
    rw [Run.after_append]
    exact Run.next_of_ok registered
  · intro e refused
    rw [Run.after_append]
    exact Run.next_of_error refused
  · intro frozen more
    rw [Run.after_append]
    exact Run.functions_foldl_of_frozen ((Run.frozen_after steps).mpr frozen) more
  · exact fun name => ⟨fun d => kept.get_eq_ok_iff, fun e => get_eq_error_iff⟩
  · exact List.pairwise_map.mp kept.distinct
  · have apart := List.pairwise_map.mp kept.names_nodup
    exact (r.list_sorted.and apart).imp fun both => lt_of_le_of_ne both.1 both.2
  · intro d category
    rw [listCategory, List.mem_filter, beq_iff_eq]
  · exact ⟨_, rfl, by rw [r.sum_listCategory]; rfl⟩

theorem after_any_steps_twice :
    let d : Definition :=
      { name := "Twice", category := .math, returnType := "any", implementation := fun _ _ => .ok .null }
    let steps : List Step := [.register d, .register { d with name := "TWICE" }, .freeze]
    Step.freeze ∈ steps ∧ ∀ more, ((Run.after (steps ++ more)).registry.functions.map Prod.fst) =
      ["TWICE"] := by
  intro d steps
  have frozen : Step.freeze ∈ steps := by simp [steps]
  refine ⟨frozen, fun more => ?_⟩
  rw [(after_any_steps steps).2.1 frozen more]
  decide +kernel

end Formula.Registry
