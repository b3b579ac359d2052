import LoadPlan.Config
import LoadPlan.Plan.Element
import LoadPlan.Plan.Reference
import LoadPlan.Schema.Resolution

/-!
# Requests of a plan

* `Payload` — what a request sends apart from its headers: a body, or arguments.
* `Operation.payload` — what an operation sends.
* `managedHeaders` — the headers that the group of a request already sets.
* `Operation.sampler` — the request of an operation, with its checks and extractors.
-/

namespace LoadPlan.Plan

def formHeader : Pair := (.text "Content-Type", .text formMediaType)

def argument (parameter : Parameter) : Except Fault (Text × Text) :=
  parameter.reference.map fun value => (parameter.name, value)

/-- The parameters of an operation at a place, as arguments; those without a name are left out. -/
def arguments (operation : Operation) (location : Text) : Except Fault (List (Text × Text)) :=
  ((operation.parametersIn location).filter fun parameter => !parameter.name.isEmpty).mapM argument

/-- A name and a value that are texts. -/
def textPair (pair : Text × Text) : Pair := (.text pair.1, .text pair.2)

/-- The properties of an object as the fields of a form. -/
def formFields : List (Value × Value) → Except Fault (List Pair)
  | [] => .ok []
  | (name, value) :: rest => do
    let text ← argumentText value
    return (name, .text text) :: (← formFields rest)

/-- **What a request sends** apart from its headers. -/
structure Payload where
  /-- The body, if there is one. -/
  body? : Option Text
  /-- The fields of a form. -/
  form : List Pair
  /-- The headers that belong to it. -/
  headers : List Pair

/-- What the schema of the body of an operation asks to be sent: the fields of a form if that is the
media type and the sample is an object, and JSON otherwise. -/
def sampledPayload (operation : Operation) (resolver : Resolver) : Report Payload :=
  match operation.requestBody? with
  | none => return ⟨none, [], []⟩
  | some raw => do
    let schema ← resolver.resolve 0 (.map raw)
    let sample ← Report.ofExcept (schema.sampleFrom 1 [])
    match isFormMediaType operation.contentType, sample with
    | true, .map fields => return ⟨none, ← Report.ofExcept (formFields fields), [formHeader]⟩
    | _, _ => return ⟨some (← Report.ofExcept (Json.compact sample)), [], []⟩

/-- **What an operation sends.**  The fields of a form may also be given as parameters. -/
def payload (operation : Operation) (resolver : Resolver) : Report Payload :=
  if operation.method.hasBody then do
    let sampled ← sampledPayload operation resolver
    if sampled.form.isEmpty && isFormMediaType operation.contentType then
      let fields ← Report.ofExcept (arguments operation "formData")
      return { sampled with
        form := fields.map textPair
        headers := sampled.headers ++ if fields.isEmpty then [] else [formHeader] }
    else return sampled
  else return ⟨none, [], []⟩

/-- A query: names and values in pairs. -/
def queryText (query : List (Text × Text)) : Text :=
  Text.join "&" (query.map fun (name, value) => name ++ "=" ++ value)

/-- The path of a request.  A query goes into it when there is a body. -/
def requestPath (operation : Operation) (query : List (Text × Text)) (hasBody : Bool) : Text :=
  let path := variableRef "BASE_PATH" ++ templatePath operation.path
  if hasBody && !query.isEmpty then path ++ "?" ++ queryText query else path

/-- The headers that the group of a request sets, in lower case. -/
def managedHeaders (presets : Presets) : List Text :=
  presets.standardHeaders.map (·.1.lower) ++ [("authorization" : Text)]

/-- The parameters of an operation that go to headers, unless the group sets those. -/
def headerArguments (presets : Presets) (operation : Operation) :
    Except Fault (List (Text × Text)) :=
  ((operation.parametersIn "header").filter fun parameter =>
    !parameter.name.isEmpty &&
      !(managedHeaders presets).contains parameter.name.lower).mapM argument

/-- The checks of responses. -/
def assertions (config : Config) (presets : Presets) : List Element :=
  [ .of "HTTP Success Assertion"
      (.responseAssertion
        { testStrings := presets.successCodes.map Value.text
          customMessage := .text "Expected successful HTTP status code (2xx)" }) [],
    .of "Response Time Assertion"
      (.durationAssertion { maxDuration := .int config.responseTimeThreshold }) [] ]

/-- The variable taken from a field of responses. -/
def extractor (field : Text) : Element :=
  .of ("Extract " ++ field)
    (.jsonExtractor { referenceName := .text field, jsonPath := .text ("$." ++ field) }) []

/-- The elements below a request. -/
def samplerChildren (config : Config) (presets : Presets) (headers : List Pair) : List Element :=
  (if headers.isEmpty then [] else [.of "Request Headers" (.headerManager { headers }) []])
    ++ (if config.addAssertions.isTruthy then assertions config presets else [])
    ++ (if config.addCorrelation.isTruthy then presets.correlationFields.map extractor else [])

/-- What an operation does, in words. -/
def description (operation : Operation) : Text :=
  (operation.summary?.getD []).orElse operation.label

/-- **The request of an operation.** -/
def sampler (config : Config) (presets : Presets) (operation : Operation) (resolver : Resolver) :
    Report Element := do
  let query ← Report.ofExcept (arguments operation "query")
  let sent ← payload operation resolver
  let headers ← Report.ofExcept (headerArguments presets operation)
  let settings : HttpSampler :=
    { path := .text (requestPath operation query sent.body?.isSome)
      method := .text operation.method.name
      followRedirects := config.followRedirects
      useKeepalive := config.useKeepAlive
      body := (sent.body?.map Value.text).getD .null
      arguments := if sent.body?.isSome then sent.form else query.map textPair ++ sent.form
      connectTimeout := .text (variableRef "CONNECTION_TIMEOUT")
      responseTimeout := .text (variableRef "RESPONSE_TIMEOUT") }
  return .of
    ("[" ++ operation.method.name ++ "] " ++ operation.path ++ " → " ++ description operation)
    (.httpSampler settings)
    (samplerChildren config presets (sent.headers ++ headers.map textPair))

end LoadPlan.Plan
