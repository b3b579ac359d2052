import LoadPlan.Operation
import LoadPlan.Schema.Pointer
import LoadPlan.Specification
import LoadPlan.Text.LetterCase

/-!
# Extracting operations

From the paths of a specification to its operations.

* `ParameterDefinition` — what is said about a parameter.
* `Operation.merge` — the parameters of a path and of an operation on it as one list.  Parameters
  are one and the same when name and place agree, and then the later definition counts.
* `Operation.body` — schema and media type of the body.
* `Specification.operations` — the operations in the order of the document.
-/

namespace LoadPlan

/-- A value, or the mapping that it refers to.  A reference is followed once. -/
def dereference (document raw : Value) : Except Fault (Option Entries) :=
  match raw with
  | .map entries =>
    match Entries.get? "$ref" entries with
    | some (.text pointer) => Pointer.target document pointer
    | _ => .ok (some entries)
  | _ => .ok none

/-- The text of a value that may be missing. -/
def Entries.shownAt (entries : Entries) (key : Text) : Except Fault Text :=
  match entries.get? key with
  | some value => value.shown
  | none => .ok []

/-- Whether a text stands under a key. -/
def Entries.isText (entries : Entries) (key text : Text) : Bool :=
  match entries.get? key with
  | some (.text t) => t = text
  | _ => false

/-- **The definition of a parameter**, with what tells it from others. -/
structure ParameterDefinition where
  /-- The name. -/
  name : Text
  /-- The place in a request. -/
  location : Text
  /-- All that is said about the parameter. -/
  raw : Entries

namespace ParameterDefinition

def ofEntries (raw : Entries) : Except Fault ParameterDefinition := do
  return ⟨← raw.shownAt "name", ← raw.shownAt "in", raw⟩

/-- Whether two definitions are of the same parameter. -/
def isSame (definition other : ParameterDefinition) : Bool :=
  definition.name = other.name && definition.location = other.location

/-- Adds a definition.  A parameter that is there already keeps its place and gets the new one. -/
def addTo (definition : ParameterDefinition) :
    List ParameterDefinition → List ParameterDefinition
  | [] => [definition]
  | old :: rest =>
    if old.isSame definition then definition :: rest else old :: definition.addTo rest

/-- An example of the value of a parameter: its own, the one of its schema, or a usual value. -/
def sample (definition : ParameterDefinition) : Value :=
  match definition.raw.getD "example" with
  | .null =>
    match (definition.raw.getD "schema").entries? with
    | some schema => (schema.get? "example").getD (schema.getD "default")
    | none => definition.raw.getD "default"
  | value => value

def parameter (definition : ParameterDefinition) : Parameter where
  name := definition.name
  location := definition.location
  required := (definition.raw.getD "required").isTruthy
  sample := definition.sample

end ParameterDefinition

namespace Operation

/-- The definitions in a list, each after at most one reference. -/
def definitions (document : Value) : List Value → Except Fault (List ParameterDefinition)
  | [] => .ok []
  | raw :: rest => do
    match ← dereference document raw with
    | none => definitions document rest
    | some entries =>
      let definition ← ParameterDefinition.ofEntries entries
      return definition :: (← definitions document rest)

/-- **The parameters of a path and of an operation on it.** -/
def merge (document : Value) (ofPath ofOperation : List Value) :
    Except Fault (List ParameterDefinition) :=
  (definitions document (ofPath ++ ofOperation)).map fun found =>
    found.foldl (fun merged definition => definition.addTo merged) []

/-! ## Bodies -/

def isJsonKind (mediaType : Value) : Except Fault Bool := do
  return (((← mediaType.shown).before ';').trim).endsWith "+json"

/-- The first of some media types that is a kind of JSON. -/
def jsonKind? : List (Value × Value) → Except Fault (Option (Value × Value))
  | [] => .ok none
  | (mediaType, media) :: rest => do
    if ← isJsonKind mediaType then return some (mediaType, media) else jsonKind? rest

/-- The media type that is taken of those declared, with what is declared for it: JSON, else a kind
of JSON, else the first. -/
def preferred? (content : Entries) : Except Fault (Option (Value × Value)) :=
  match content.get? jsonMediaType with
  | some media => .ok (some (.text jsonMediaType, media))
  | none => do return (← jsonKind? content).or content.head?

/-- What is declared for the body of a request by its parameters. -/
def bodyOfParameters (parameters : List ParameterDefinition) : Option Entries × Value :=
  match parameters.find? (·.raw.isText "in" "body") with
  | some parameter => ((parameter.raw.getD "schema").entries?, .text jsonMediaType)
  | none =>
    if parameters.any (·.raw.isText "in" "formData") then (none, .text formMediaType)
    else (none, .null)

/-- **The schema of the body and its media type.** -/
def body (document : Value) (raw : Entries) (parameters : List ParameterDefinition) :
    Except Fault (Option Entries × Value) := do
  let request ← dereference document (raw.getD "requestBody")
  let content := (request.bind fun entries => (entries.getD "content").entries?).getD []
  match ← preferred? content with
  | some (mediaType, media) =>
    return ((media.entries?).bind fun entries => (entries.getD "schema").entries?, mediaType)
  | none => return bodyOfParameters parameters

/-! ## Operations -/

/-- The items of a sequence, none of anything else. -/
def items : Value → List Value
  | .list items => items
  | _ => []

/-- The text of a value, unless there is nothing. -/
def shown? : Value → Except Fault (Option Text)
  | .null => .ok none
  | value => value.shown.map some

/-- The operation that a mapping says something about. -/
def ofMapping (document path : Value) (ofPath : List Value) (method : Method) (raw : Entries) :
    Except Fault Operation := do
  let parameters ← merge document ofPath (items (raw.getD "parameters"))
  let (requestBody?, contentType) ← body document raw parameters
  let tags ← (items (raw.getD "tags")).mapM Value.shown
  let path ← path.shown
  let identifier? ← shown? (raw.getD "operationId")
  let summary? ← shown? (raw.getD "summary")
  return {
    path, method, identifier?, summary?, tags, requestBody?, contentType
    parameters := parameters.map ParameterDefinition.parameter }

/-- The operation of an entry of a path, if its key is a method and its value a mapping. -/
def ofEntry (document path : Value) (ofPath : List Value) (key value : Value) :
    Except Fault (Option Operation) := do
  match Method.ofKey? (← key.shown).lower, value.entries? with
  | some method, some raw => return some (← ofMapping document path ofPath method raw)
  | _, _ => return none

def ofEntries (document path : Value) (ofPath : List Value) :
    List (Value × Value) → Except Fault (List Operation)
  | [] => .ok []
  | (key, value) :: rest => do
    let operation ← ofEntry document path ofPath key value
    return operation.toList ++ (← ofEntries document path ofPath rest)

def ofPaths (document : Value) : List (Value × Value) → Except Fault (List Operation)
  | [] => .ok []
  | (path, item) :: rest => do
    let operations ←
      match item.entries? with
      | some entries => ofEntries document path (items (entries.getD "parameters")) entries
      | none => pure []
    return operations ++ (← ofPaths document rest)

end Operation

/-- **The operations of a specification**, in the order of the document. -/
def Specification.operations (spec : Specification) : Except Fault (List Operation) :=
  Operation.ofPaths spec.document spec.paths

end LoadPlan
