import Formula.Proofs.Api.Address
import Formula.Proofs.Except
import Mathlib.Logic.Basic

/-!
What requests are answered with. A request fails for its path, for its method, or for a body that
does not say what the route asks for; what is wrong with a formula never makes it fail. Whatever is
answered can be sent: it is not too deep, has an encoding, and holds neither dates nor numbers that
have no digits.
-/

namespace Formula.Api

/-! ### What is sent -/

/-- A value that is sent as it is: there are no dates in it, and its floats are finite. -/
inductive IsPlain : Value → Prop where
  | null : IsPlain .null
  | bool (b : Bool) : IsPlain (.bool b)
  | int (n : Int) : IsPlain (.int n)
  | float {x : Float} (finite : x.isFinite = true) : IsPlain (.float x)
  | text (t : Text) : IsPlain (.text t)
  | array {items : List Value} (plain : ∀ v ∈ items, IsPlain v) : IsPlain (.array items)
  | object {fields : List (Text × Value)} (plain : ∀ entry ∈ fields, IsPlain entry.2) :
      IsPlain (.object fields)
  | foreign (text : String) : IsPlain (.foreign text)

mutual

theorem isPlain_sent : (v : Value) → IsPlain (sent v)
  | .null => .null
  | .bool b => .bool b
  | .number (.int n) => .int n
  | .number (.float x) => by
      rw [sent]
      split
      · next finite => exact .float finite
      · exact .null
  | .text t => .text t
  | .date s => .text (stampText s)
  | .array items => .array (isPlain_sentItems items)
  | .object fields => .object (isPlain_sentFields fields)
  | .foreign text => .foreign text

theorem isPlain_sentItems : (items : List Value) → ∀ v ∈ sentItems items, IsPlain v
  | [] => fun _ member => nomatch member
  | v :: rest => List.forall_mem_cons.mpr ⟨isPlain_sent v, isPlain_sentItems rest⟩

theorem isPlain_sentFields :
    (fields : List (Text × Value)) → ∀ entry ∈ sentFields fields, IsPlain entry.2
  | [] => fun _ member => nomatch member
  | (_, v) :: rest => List.forall_mem_cons.mpr ⟨isPlain_sent v, isPlain_sentFields rest⟩

end

theorem sentItems_eq_map (items : List Value) : sentItems items = items.map sent := by
  induction items with
  | nil => rfl
  | cons v rest ih => rw [sentItems, ih, List.map_cons]

theorem sentFields_eq_map (fields : List (Text × Value)) :
    sentFields fields = fields.map (Prod.map id sent) := by
  induction fields with
  | nil => rfl
  | cons entry rest ih => rw [sentFields, ih, List.map_cons]; rfl

theorem sent_of_isPlain {v : Value} (plain : IsPlain v) : sent v = v := by
  induction plain with
  | float finite => exact if_pos finite
  | array _ ih =>
      rw [sent, sentItems_eq_map, List.map_congr_left ih, List.map_id']
  | @object fields _ ih =>
      have same : ∀ entry ∈ fields, Prod.map id sent entry = entry :=
        fun entry member => Prod.ext rfl (ih entry member)
      rw [sent, sentFields_eq_map, List.map_congr_left same, List.map_id']
  | _ => rfl

/-- A value is sent as it is exactly if it is plain. -/
theorem sent_eq_self_iff {v : Value} : sent v = v ↔ IsPlain v :=
  ⟨fun same => same ▸ isPlain_sent v, sent_of_isPlain⟩

mutual

theorem depth_sent : (v : Value) → depth (sent v) = depth v
  | .null | .bool _ | .number (.int _) | .text _ | .date _ | .foreign _ => rfl
  | .number (.float x) => by
      rw [sent]
      split <;> rfl
  | .array items => congrArg (· + 1) (depth_sentItems items)
  | .object fields => congrArg (· + 1) (depth_sentFields fields)

theorem depth_sentItems :
    (items : List Value) → depthOfItems (sentItems items) = depthOfItems items
  | [] => rfl
  | v :: rest => congrArg₂ max (depth_sent v) (depth_sentItems rest)

theorem depth_sentFields :
    (fields : List (Text × Value)) → depthOfFields (sentFields fields) = depthOfFields fields
  | [] => rfl
  | (_, v) :: rest => congrArg₂ max (depth_sent v) (depth_sentFields rest)

end

mutual

theorem isWhole_sent : (v : Value) → isWhole (sent v) = isWhole v
  | .null | .bool _ | .number (.int _) | .text _ | .foreign _ => rfl
  | .number (.float x) => by
      rw [sent]
      split <;> rfl
  | .date s => Text.isWhole_ofString (stampText s)
  | .array items => isWhole_sentItems items
  | .object fields => isWhole_sentFields fields

theorem isWhole_sentItems :
    (items : List Value) → areWholeItems (sentItems items) = areWholeItems items
  | [] => rfl
  | v :: rest => congrArg₂ and (isWhole_sent v) (isWhole_sentItems rest)

theorem isWhole_sentFields :
    (fields : List (Text × Value)) → areWholeFields (sentFields fields) = areWholeFields fields
  | [] => rfl
  | (name, v) :: rest =>
      congrArg₂ and (congrArg (name.isWhole && ·) (isWhole_sent v)) (isWhole_sentFields rest)

end

/-- The body of an answer can be sent, and is sent as it is. -/
structure IsFit (body : Value) : Prop where
  plain : IsPlain body
  sendable : canBeSent body = true

theorem canBeSent_data (v : Value) :
    canBeSent (.object [("data", sent v)]) = true ↔ depth v < maxDepth ∧ isWhole v = true := by
  have name : (Text.ofString "data").isWhole = true := Text.isWhole_ofString _
  simp only [canBeSent, depth, depthOfFields, isWhole, areWholeFields, depth_sent, isWhole_sent,
    name, Nat.max_zero, Bool.and_eq_true, decide_eq_true_eq, Bool.true_and, Bool.and_true,
    Nat.succ_le_iff]

/-- Data is sent unless it is too deep or holds a text without an encoding. -/
theorem data_eq_found_iff {v body : Value} : Response.data v = .found body ↔
    body = .object [("data", sent v)] ∧ depth v < maxDepth ∧ isWhole v = true := by
  rw [← canBeSent_data, Response.data]
  split
  · next sendable => simp [sendable, eq_comm]
  · next unsendable => simp [unsendable]

theorem isFit_of_data {v body : Value} (found : Response.data v = .found body) : IsFit body := by
  obtain ⟨rfl, sendable⟩ := data_eq_found_iff.mp found
  refine ⟨.object ?_, (canBeSent_data v).mpr sendable⟩
  simpa using isPlain_sent v

/-! ### What is asked for -/

/-- The body of a request that gives a formula and nothing else. -/
def formulaBody (formula : String) : Value := .object [("formula", .text formula)]

theorem formulaOf_formulaBody (formula : String) : formulaOf (formulaBody formula) = some formula :=
  Text.toString?_ofString formula

theorem optional_formulaBody {α : Type} {key : String} {default : α} {read : Reader α}
    (other : Text.ofString "formula" ≠ Text.ofString key) (formula : String) :
    Reader.optional key default read (formulaBody formula) = some default := by
  have absent : Record.get? (Text.ofString key)
      [(Text.ofString "formula", Value.text formula)] = none := if_neg other
  rw [formulaBody, Reader.optional, absent]

/-- A route leads to something that is there. -/
def Route.IsKnown (registry : Registry) : Route → Prop
  | .category name => (Category.ofName? (Text.lowerName name)).isSome
  | .function name => (registry.find? name).isSome
  | _ => True

/-- A body says what a route asks for. -/
def Route.Reads (host : Host) (clock : Clock) (body : Value) : Route → Prop
  | .evaluate =>
      (formulaOf body).isSome ∧ (Reader.contextOrEmpty host clock body).isSome
  | .evaluateBatch =>
      (formulasOf body).isSome ∧ (Reader.contextOrEmpty host clock body).isSome
  | .validate =>
      (formulaOf body).isSome ∧
        (Reader.optional "availableFields" none (.nullable (.list .text)) body).isSome
  | .parse | .tokenize => (formulaOf body).isSome
  | .suggestions =>
      (formulaOf body).isSome ∧ (Reader.required "position" .integer body).isSome ∧
        (Reader.optional "availableFields" [] (.list .text) body).isSome ∧
        (Reader.optional "variables" [] (.list .text) body).isSome
  | .health | .functions | .categories | .category _ | .function _ => True

/-- The routes that are given a formula and need nothing else. -/
def formulaRoutes : List Route := [.evaluate, .validate, .parse, .tokenize]

theorem reads_formulaBody {route : Route} (member : route ∈ formulaRoutes) (host : Host)
    (clock : Clock) (formula : String) : route.Reads host clock (formulaBody formula) := by
  have given : (formulaOf (formulaBody formula)).isSome := by rw [formulaOf_formulaBody]; rfl
  have context : (Reader.contextOrEmpty host clock (formulaBody formula)).isSome := by
    rw [Reader.contextOrEmpty, optional_formulaBody (by decide)]
    rfl
  have known : (Reader.optional "availableFields" none (.nullable (.list .text))
      (formulaBody formula)).isSome := by
    rw [optional_formulaBody (by decide)]
    rfl
  simp only [formulaRoutes, List.mem_cons, List.not_mem_nil, or_false] at member
  obtain rfl | rfl | rfl | rfl := member
  · exact ⟨given, context⟩
  · exact ⟨given, known⟩
  · exact given
  · exact given

/-! ### Answers -/

/-- Data that can be sent, or no answer. -/
def Response.Delivers (r : Response) : Prop :=
  (∃ body, IsFit body ∧ r = .found body) ∨ r = .failed

theorem delivers_data (v : Value) : (Response.data v).Delivers := by
  rw [Response.Delivers, Response.data]
  split
  · next sendable => exact .inl ⟨_, isFit_of_data (if_pos sendable), rfl⟩
  · exact .inr rfl

/-- The response to what a route comes to. -/
def Response.ofResult : Except Defect Response → Response
  | .ok response => response
  | .error _ => .failed

/-- A request is answered if its body can be read, and refused otherwise. -/
def Response.Answers (readable : Prop) (r : Response) : Prop :=
  (readable ∧ r.Delivers) ∨ (¬ readable ∧ r = .unreadable)

theorem answers_readOr {α : Type} {read : Option α} {answer : α → Except Defect Response}
    (delivers : ∀ request, (Response.ofResult (answer request)).Delivers) :
    (Response.ofResult (readOr read answer)).Answers read.isSome := by
  cases read with
  | none => exact .inr ⟨nofun, rfl⟩
  | some request => exact .inl ⟨rfl, delivers request⟩

theorem delivers_bind {α : Type} {result : Except Defect α} {v : α → Value} :
    (Response.ofResult (result >>= fun a => pure (.data (v a)))).Delivers := by
  cases result with
  | error => exact .inr rfl
  | ok a => exact delivers_data (v a)

theorem delivers_ok {v : Value} : (Response.ofResult (.ok (.data v))).Delivers := delivers_data v

theorem isSome_pair {α β : Type} {x : Option α} {y : Option β} :
    (do return (← x, ← y) : Option (α × β)).isSome ↔ x.isSome ∧ y.isSome := by
  cases x <;> cases y <;> simp

end Api

namespace Engine

open Api

variable (engine : Engine) (clock : Clock) (body : Value)

theorem answers_evaluate : (Response.ofResult (engine.answerEvaluate clock body)).Answers
    (Route.evaluate.Reads engine.host clock body) := by
  rw [Route.Reads, ← isSome_pair, answerEvaluate]
  exact answers_readOr fun _ => delivers_bind

theorem answers_batch : (Response.ofResult (engine.answerBatch clock body)).Answers
    (Route.evaluateBatch.Reads engine.host clock body) := by
  rw [Route.Reads, ← isSome_pair, answerBatch]
  exact answers_readOr fun _ => delivers_bind

theorem answers_validate : (Response.ofResult (engine.answerValidate body)).Answers
    (Route.validate.Reads engine.host clock body) := by
  rw [Route.Reads, ← isSome_pair, answerValidate]
  exact answers_readOr fun _ => delivers_ok

theorem answers_parse : (Response.ofResult (engine.answerParse body)).Answers
    (Route.parse.Reads engine.host clock body) := by
  rw [answerParse]
  exact answers_readOr fun _ => delivers_bind

theorem answers_tokenize : (Response.ofResult (answerTokenize body)).Answers
    (Route.tokenize.Reads engine.host clock body) := by
  rw [answerTokenize]
  exact answers_readOr fun _ => delivers_ok

theorem answers_suggestions : (Response.ofResult (engine.answerSuggestions body)).Answers
    (Route.suggestions.Reads engine.host clock body) := by
  rw [answerSuggestions]
  have readable : (do
      let formula ← formulaOf body
      let position ← Reader.required "position" .integer body
      let fields ← Reader.optional "availableFields" [] (.list .text) body
      let vars ← Reader.optional "variables" [] (.list .text) body
      return engine.registry.suggest formula position fields vars).isSome ↔
        Route.suggestions.Reads engine.host clock body := by
    rw [Route.Reads]
    cases formulaOf body <;> cases Reader.required "position" .integer body <;>
      cases Reader.optional "availableFields" [] (.list .text) body <;>
      cases Reader.optional "variables" [] (.list .text) body <;> simp
  rw [← readable]
  exact answers_readOr fun _ => delivers_ok

theorem answers_category {name : String} (known : (Route.category name).IsKnown engine.registry) :
    ∃ v, engine.answerCategory name = .data v := by
  obtain ⟨category, found⟩ := Option.isSome_iff_exists.mp known
  rw [answerCategory, found]
  exact ⟨_, rfl⟩

theorem answers_function {name : String} (known : (Route.function name).IsKnown engine.registry) :
    ∃ v, engine.answerFunction name = .data v := by
  obtain ⟨d, found⟩ := Option.isSome_iff_exists.mp known
  rw [answerFunction, found]
  exact ⟨_, rfl⟩

theorem delivers_health :
    (Response.found (.object [("status", .text "ok"), ("expressions", .bool true)])).Delivers := by
  refine .inl ⟨_, ⟨.object ?_, by decide⟩, rfl⟩
  rw [List.forall_mem_cons, List.forall_mem_singleton]
  exact ⟨.text _, .bool _⟩

/-- What is there is answered if the body says what the route asks for. -/
theorem answers_route {route : Route} (known : route.IsKnown engine.registry) :
    (Response.ofResult (engine.answerRoute clock body route)).Answers
      (route.Reads engine.host clock body) := by
  cases route with
  | evaluate => exact engine.answers_evaluate clock body
  | evaluateBatch => exact engine.answers_batch clock body
  | validate => exact engine.answers_validate clock body
  | parse => exact engine.answers_parse clock body
  | tokenize => exact engine.answers_tokenize clock body
  | suggestions => exact engine.answers_suggestions clock body
  | health => exact .inl ⟨trivial, delivers_health⟩
  | functions => exact .inl ⟨trivial, delivers_ok⟩
  | categories => exact .inl ⟨trivial, delivers_ok⟩
  | category name =>
      obtain ⟨v, answered⟩ := engine.answers_category known
      rw [answerRoute, answered]
      exact .inl ⟨trivial, delivers_ok⟩
  | function name =>
      obtain ⟨v, answered⟩ := engine.answers_function known
      rw [answerRoute, answered]
      exact .inl ⟨trivial, delivers_ok⟩

/-- Nothing is found behind a name that is not known. -/
theorem notFound_of_unknown {route : Route} (unknown : ¬ route.IsKnown engine.registry) :
    ∃ detail, engine.answerRoute clock body route = .ok (.notFound detail) := by
  cases route
  case category name =>
    rw [answerRoute, answerCategory, Option.not_isSome_iff_eq_none.mp unknown]
    exact ⟨_, rfl⟩
  case function name =>
    rw [answerRoute, answerFunction, Option.not_isSome_iff_eq_none.mp unknown]
    exact ⟨_, rfl⟩
  all_goals exact absurd trivial unknown

theorem answer_of_located {request : Request} {route : Route}
    (located : Route.ofPath? request.path = some route) :
    engine.answer clock request =
      if request.method = route.method then
        Response.ofResult (engine.answerRoute clock request.body route)
      else .wrongMethod := by
  rw [answer, located]
  rfl

open Classical in
/-- A path without a route and an unknown function or category are not found, another method is the
wrong one, and a body that does not say what the route asks for is unreadable. Every other request
is answered with data, or has no answer that can be sent: what is wrong with a formula is of no
account. -/
theorem answer_settled (request : Request) :
    match Route.ofPath? request.path with
    | none => engine.answer clock request = .notFound "Not Found"
    | some route =>
        if request.method ≠ route.method then
          engine.answer clock request = .wrongMethod
        else if ¬ route.IsKnown engine.registry then
          ∃ detail, engine.answer clock request = .notFound detail
        else if ¬ route.Reads engine.host clock request.body then
          engine.answer clock request = .unreadable
        else (engine.answer clock request).Delivers := by
  split
  · next none => rw [answer, none]
  next route located =>
  rw [engine.answer_of_located clock located]
  by_cases same : request.method = route.method
  · rw [if_neg (not_not.mpr same), if_pos same]
    by_cases known : route.IsKnown engine.registry
    · rw [if_neg (not_not.mpr known)]
      obtain ⟨readable, delivers⟩ | ⟨unreadable, refused⟩ :=
        engine.answers_route clock request.body known
      · rw [if_neg (not_not.mpr readable)]
        exact delivers
      · rw [if_pos unreadable]
        exact refused
    · rw [if_pos known]
      obtain ⟨detail, missing⟩ := engine.notFound_of_unknown clock request.body known
      exact ⟨detail, by rw [missing]; rfl⟩
  · rw [if_pos same, if_neg same]

/-- Whatever a formula is, the request that gives it has data, or no answer that can be sent. -/
theorem delivers_formula {route : Route} (member : route ∈ formulaRoutes) {request : Request}
    (post : request.method = .post) (path : request.path = route.address) {formula : String}
    (body : request.body = formulaBody formula) : (engine.answer clock request).Delivers := by
  have reads := reads_formulaBody member engine.host clock formula
  rw [← body] at reads
  obtain ⟨same, unnamed, known⟩ : request.method = route.method ∧ route.name? = none ∧
      route.IsKnown engine.registry := by
    simp only [formulaRoutes, List.mem_cons, List.not_mem_nil, or_false] at member
    obtain rfl | rfl | rfl | rfl := member <;> exact ⟨post, rfl, trivial⟩
  have located : Route.ofPath? request.path = some route := by
    rw [path]
    apply Route.ofPath?_address
    · exact fun name named => nomatch unnamed.symm.trans named
    · rintro rfl
      cases unnamed
  rw [engine.answer_of_located clock located, if_pos same]
  obtain ⟨-, delivers⟩ | ⟨unreadable, -⟩ := engine.answers_route clock request.body known
  · exact delivers
  · exact absurd reads unreadable

/-- Whatever is found can be sent, and is sent as it is. -/
theorem isFit_of_answer {request : Request} {body : Value}
    (found : engine.answer clock request = .found body) : IsFit body := by
  have settled := engine.answer_settled clock request
  rw [found] at settled
  split at settled
  · cases settled
  split at settled
  · cases settled
  split at settled
  · obtain ⟨_, missing⟩ := settled
    cases missing
  split at settled
  · cases settled
  obtain ⟨body, fit, same⟩ | failed := settled
  · cases same
    exact fit
  · cases failed

theorem readOr_eq_error {α : Type} {read : Option α} {answer : α → Except Defect Response}
    {d : Defect} (broken : readOr read answer = .error d) :
    ∃ request, answer request = .error d := by
  cases read with
  | none => cases broken
  | some request => exact ⟨request, broken⟩

/-- A route comes to a defect only where a formula is evaluated or a tree is exported. -/
theorem answerRoute_eq_error {route : Route} {d : Defect}
    (broken : engine.answerRoute clock body route = .error d) :
    (∃ formula context, engine.evaluate formula context = .error d) ∨
      (∃ formulas context, engine.evaluateBatch formulas context = .error d) ∨
      ∃ formula f, Expr.resultValue (engine.parse formula) = .error f ∧ d = .fault f := by
  cases route with
  | evaluate =>
      obtain ⟨⟨formula, context⟩, broken⟩ := readOr_eq_error broken
      exact .inl ⟨formula, context, (bind_eq_error_iff_left fun _ => pure_ne_error).mp broken⟩
  | evaluateBatch =>
      obtain ⟨⟨formulas, context⟩, broken⟩ := readOr_eq_error broken
      exact .inr (.inl
        ⟨formulas, context, (bind_eq_error_iff_left fun _ => pure_ne_error).mp broken⟩)
  | parse =>
      obtain ⟨formula, broken⟩ := readOr_eq_error broken
      obtain ⟨f, failed, rfl⟩ :=
        mapError_eq_error.mp ((bind_eq_error_iff_left fun _ => pure_ne_error).mp broken)
      exact .inr (.inr ⟨formula, f, failed, rfl⟩)
  | validate | tokenize | suggestions =>
      obtain ⟨_, broken⟩ := readOr_eq_error broken
      cases broken
  | health | functions | categories | category | function => cases broken

end Engine

end Formula
