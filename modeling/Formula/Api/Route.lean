import Formula.Api.Document
import Formula.Api.Path
import Formula.Api.Payload

/-!
Answering requests: what is done for each path, and how a request fails. Errors of formulas are part
of an answer, never a failure of the request.
-/

namespace Formula.Api

inductive Method where
  | get
  | post
deriving DecidableEq, Repr

structure Request where
  method : Method
  path : String
  body : Value := .null

inductive Response where
  | found (body : Value)
  | notFound (detail : String)
  | wrongMethod
  | unreadable
  /-- There is no answer, or none that can be sent. -/
  | failed

namespace Response

def status : Response → Nat
  | .found _ => 200
  | .notFound _ => 404
  | .wrongMethod => 405
  | .unreadable => 422
  | .failed => 500

/-- The body of an answer, where it has one of its own. -/
def body? : Response → Option Value
  | .found body => some body
  | .notFound detail => some (.object [("detail", .text detail)])
  | .wrongMethod | .unreadable | .failed => none

/-- An answer with data, if it can be sent. -/
def data (v : Value) : Response :=
  let body : Value := .object [("data", sent v)]
  if canBeSent body then .found body else .failed

end Response

inductive Route where
  | health
  | evaluate
  | evaluateBatch
  | validate
  | parse
  | tokenize
  | suggestions
  | functions
  | categories
  | category (name : String)
  | function (name : String)
deriving DecidableEq, Repr

namespace Route

def ofFormulaSegments? : List String → Option Route
  | ["evaluate"] => some .evaluate
  | ["evaluate", "batch"] => some .evaluateBatch
  | ["validate"] => some .validate
  | ["parse"] => some .parse
  | ["tokenize"] => some .tokenize
  | ["suggestions"] => some .suggestions
  | ["functions"] => some .functions
  | ["functions", "categories"] => some .categories
  | _ => none

def ofFixedSegments? : List String → Option Route
  | ["api", "health"] => some .health
  | "api" :: "expressions" :: rest => ofFormulaSegments? rest
  | _ => none

/-- The routes of paths that end with a name. -/
def ofNamedSegments? : List String → Option Route
  | ["api", "expressions", "functions", name] =>
      if name.isEmpty then none else some (.function name)
  | ["api", "expressions", "functions", "category", name] =>
      if name.isEmpty then none else some (.category name)
  | _ => none

/-- The route of segments. A newline at the end belongs to a name, but to no fixed path. -/
def ofSegments? (path : List String) : Option Route :=
  (ofFixedSegments? (withoutNewline path)).orElse fun _ => ofNamedSegments? path

/-- The route of an address. One without a route that ends with slashes is asked for again without
them, a number of times at most. -/
def locate? : (retries : Nat) → List Char → Option Route
  | 0, _ => none
  | retries + 1, address =>
      let path := serverPath address
      let shorter := dropSlashes path
      match ofSegments? (segments path) with
      | some route => some route
      | none =>
          if shorter.length < path.length && (ofSegments? (segments shorter)).isSome then
            locate? retries shorter
          else none

/-- How often an address is asked for again. -/
def maxRetries : Nat := 20

def ofPath? (path : String) : Option Route := locate? (maxRetries + 1) path.toList

def method : Route → Method
  | .evaluate | .evaluateBatch | .validate | .parse | .tokenize | .suggestions => .post
  | _ => .get

end Route

def formulaOf : Reader String := .required "formula" .text

def formulasOf : Reader (List (String × String)) :=
  .required "formulas" (.list fun item => do
    return (← Reader.required "id" .text item, ← formulaOf item))

/-- A body that cannot be read is no answer. -/
def readOr {α : Type} (body : Option α) (answer : α → Except Defect Response) :
    Except Defect Response :=
  match body with
  | some request => answer request
  | none => .ok .unreadable

end Api

namespace Engine

open Api

def categoryCounts (engine : Engine) : Value :=
  .array (engine.registry.categories.map fun category =>
    .object [
      ("name", .text category.name),
      ("count", .ofNat (engine.registry.listCategory category).length)])

def answerEvaluate (engine : Engine) (clock : Clock) (body : Value) : Except Defect Response :=
  let request := do return (← formulaOf body, ← Reader.contextOrEmpty engine.host clock body)
  readOr request fun request => do
    return .data (← engine.evaluate request.1 request.2).toValue

def answerBatch (engine : Engine) (clock : Clock) (body : Value) : Except Defect Response :=
  let request := do return (← formulasOf body, ← Reader.contextOrEmpty engine.host clock body)
  readOr request fun request => do
    let outcomes ← engine.evaluateBatch request.1 request.2
    return .data (.object (outcomes.map fun entry => (Text.ofString entry.1, entry.2.toValue)))

def answerValidate (engine : Engine) (body : Value) : Except Defect Response :=
  let known := Reader.optional "availableFields" none (.nullable (.list .text)) body
  readOr (do return (← formulaOf body, ← known)) fun request =>
    .ok (.data (engine.validate request.1 request.2).toValue)

def answerParse (engine : Engine) (body : Value) : Except Defect Response :=
  readOr (formulaOf body) fun formula => do
    return .data (← (Expr.resultValue (engine.parse formula)).mapError .fault)

def answerTokenize (body : Value) : Except Defect Response :=
  readOr (formulaOf body) fun formula =>
    .ok (.data (.array ((highlight formula).map Highlight.Span.toValue)))

def answerSuggestions (engine : Engine) (body : Value) : Except Defect Response :=
  let request := do
    let formula ← formulaOf body
    let position ← Reader.required "position" .integer body
    let fields ← Reader.optional "availableFields" [] (.list .text) body
    let vars ← Reader.optional "variables" [] (.list .text) body
    return engine.registry.suggest formula position fields vars
  readOr request fun suggestions => .ok (.data (.array (suggestions.map Suggestion.toValue)))

/-- The documentation of the functions of a category, whose name may be in any case. -/
def answerCategory (engine : Engine) (name : String) : Response :=
  match Category.ofName? (Text.lowerName name) with
  | some category =>
      .data (.array ((engine.registry.listCategory category).map Definition.doc))
  | none => .notFound s!"Category not found: {name}"

def answerFunction (engine : Engine) (name : String) : Response :=
  match engine.registry.find? name with
  | some d => .data d.doc
  | none => .notFound s!"Function not found: {name}"

def answerRoute (engine : Engine) (clock : Clock) (body : Value) :
    Route → Except Defect Response
  | .health => .ok (.found (.object [("status", .text "ok"), ("expressions", .bool true)]))
  | .evaluate => engine.answerEvaluate clock body
  | .evaluateBatch => engine.answerBatch clock body
  | .validate => engine.answerValidate body
  | .parse => engine.answerParse body
  | .tokenize => answerTokenize body
  | .suggestions => engine.answerSuggestions body
  | .functions => .ok (.data engine.registry.doc)
  | .categories => .ok (.data engine.categoryCounts)
  | .category name => .ok (engine.answerCategory name)
  | .function name => .ok (engine.answerFunction name)

/-- The answer to a request at the time of a clock. A defect leaves a request without an answer. -/
def answer (engine : Engine) (clock : Clock) (request : Request) : Response :=
  match Route.ofPath? request.path with
  | none => .notFound "Not Found"
  | some route =>
      if request.method = route.method then
        match engine.answerRoute clock request.body route with
        | .ok response => response
        | .error _ => .failed
      else .wrongMethod

end Engine

end Formula
