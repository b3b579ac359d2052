import LoadPlan.Markup.Reader
import LoadPlan.Plan.Element
import LoadPlan.Report

/-!
# Writing a plan

From the elements of a plan to a document.

* `Settings.tag`, `Settings.guiClass`, `properties` — how the settings of each kind are written.
* `emit` — an element as markup, followed by the container of what is below it.
* `render` — the document of a plan.

Settings that are written as text have to be texts.  Characters that XML cannot carry are left out
of them, with a remark that names the element.  The display of a listener is written as it is; when
it is a collection instead of a text, it is written without escapes, and the document is what a
reader finds then.
-/

namespace LoadPlan.Plan

/-- The word for whether something is the case. -/
def truthText (value : Value) : Text := if value.isTruthy then "true" else "false"

/-! ## Properties -/

/-- **A text as it can be written**, in the element of a name. -/
def legalText (element : Text) : Value → Report Text
  | .text t =>
    if t.any Rune.isIllegal then do
      Report.warn "InvalidXmlCharacterWarning" "Removed characters not allowed in XML" element
      return t.legal
    else return t
  | _ => Report.fail .notText

def textProperty (element name : Text) (value : Value) : Report Markup := do
  return .leaf "stringProp" [("name", name)] (← legalText element value)

def emptyProperty (name : Text) : Markup := .leaf "stringProp" [("name", name)] []

def truthProperty (name : Text) (value : Value) : Markup :=
  .leaf "boolProp" [("name", name)] (truthText value)

def partsProperty (name type : Text) (more : Markup.Attributes) (parts : List Markup) : Markup :=
  .branch "elementProp" (("name", name) :: ("elementType", type) :: more) parts

def collection (name : Text) (parts : List Markup) : Markup :=
  .branch "collectionProp" [("name", name)] parts

/-- The attributes of a part that could be an element of its own. -/
def partAttributes (guiClass testClass title : Text) : Markup.Attributes :=
  [("guiclass", guiClass), ("testclass", testClass), ("testname", title), ("enabled", "true")]

def variableProperty (element : Text) (pair : Pair) : Report Markup := do
  let title ← legalText element pair.1
  let name ← textProperty element "Argument.name" pair.1
  let value ← textProperty element "Argument.value" pair.2
  return partsProperty title "Argument" []
    [name, value, .leaf "stringProp" [("name", "Argument.metadata")] "="]

def argumentProperty (element : Text) (pair : Pair) : Report Markup := do
  let title ← legalText element pair.1
  let name ← textProperty element "Argument.name" pair.1
  let value ← textProperty element "Argument.value" pair.2
  return partsProperty title "HTTPArgument" []
    [ truthProperty "HTTPArgument.always_encode" (.bool false), name, value,
      .leaf "stringProp" [("name", "Argument.metadata")] "=",
      truthProperty "HTTPArgument.use_equals" (.bool true) ]

/-- A collection of arguments or variables. -/
def argumentsProperty (name guiClass : Text) (parts : List Markup) : Markup :=
  partsProperty name "Arguments" (partAttributes guiClass "Arguments" "User Defined Variables")
    [collection "Arguments.arguments" parts]

def requestArguments (element : Text) (arguments : List Pair) : Report Markup := do
  return argumentsProperty "HTTPsampler.Arguments" "HTTPArgumentsPanel"
    (← arguments.mapM (argumentProperty element))

/-- The body of a request in place of arguments. -/
def requestBody (element : Text) (body : Value) : Report (List Markup) := do
  let value ← textProperty element "Argument.value" body
  let argument := partsProperty [] "HTTPArgument" []
    [ truthProperty "HTTPArgument.always_encode" (.bool false), value,
      .leaf "stringProp" [("name", "Argument.metadata")] "=" ]
  return [ truthProperty "HTTPSampler.postBodyRaw" (.bool true),
    partsProperty "HTTPsampler.Arguments" "Arguments" []
      [collection "Arguments.arguments" [argument]] ]

def headerProperty (element : Text) (pair : Pair) : Report Markup := do
  let name ← textProperty element "Header.name" pair.1
  let value ← textProperty element "Header.value" pair.2
  return partsProperty [] "Header" [] [name, value]

/-- A text to be found in a response, which is named by its hash. -/
def testString (element : Text) : Value → Report Markup
  | .text t => textProperty element (Text.ofInt t.hash) (.text t)
  | _ => Report.fail .notText

/-- What a listener keeps of a result. -/
def savedFields : List (Text × Text) :=
  [ ("time", "true"), ("latency", "true"), ("timestamp", "true"), ("success", "true"),
    ("label", "true"), ("code", "true"), ("message", "true"), ("threadName", "true"),
    ("dataType", "true"), ("encoding", "false"), ("assertions", "true"), ("subresults", "true"),
    ("responseData", "false"), ("samplerData", "false"), ("xml", "false"), ("fieldNames", "true"),
    ("responseHeaders", "false"), ("requestHeaders", "false"), ("responseDataOnError", "false"),
    ("saveAssertionResultsFailureMessage", "true"), ("assertionsResultsToSave", "0"),
    ("bytes", "true"), ("sentBytes", "true"), ("url", "true"), ("threadCounts", "true"),
    ("idleTime", "true"), ("connectTime", "true") ]

/-- What a listener keeps of results. -/
def saveConfig : Markup :=
  .branch "objProp" []
    [ .leaf "name" [] "saveConfig",
      .branch "value" [("class", "SampleSaveConfiguration")]
        (savedFields.map fun (field, kept) => .leaf field [] kept) ]

/-! ## Kinds of elements -/

/-- The tag of a kind of element. -/
def Settings.tag : Settings → Text
  | testPlan _ => "TestPlan"
  | httpDefaults _ => "ConfigTestElement"
  | threadGroup _ => "ThreadGroup"
  | httpSampler _ => "HTTPSamplerProxy"
  | responseAssertion _ => "ResponseAssertion"
  | durationAssertion _ => "DurationAssertion"
  | jsonExtractor _ => "JSONPostProcessor"
  | headerManager _ => "HeaderManager"
  | authManager _ => "AuthManager"
  | csvDataSet _ => "CSVDataSet"
  | resultCollector _ => "ResultCollector"
  | bare _ => []

/-- The display of a kind of element. -/
def Settings.guiClass : Settings → Value
  | testPlan _ => .text "TestPlanGui"
  | httpDefaults _ => .text "HttpDefaultsGui"
  | threadGroup _ => .text "ThreadGroupGui"
  | httpSampler _ => .text "HttpTestSampleGui"
  | responseAssertion _ => .text "AssertionGui"
  | durationAssertion _ => .text "DurationAssertionGui"
  | jsonExtractor _ => .text "JSONPostProcessorGui"
  | headerManager _ => .text "HeaderPanel"
  | authManager _ => .text "AuthPanel"
  | csvDataSet _ => .text "TestBeanGUI"
  | resultCollector collector => collector.guiClass
  | bare _ => .null

def TestPlan.properties (element : Text) (plan : TestPlan) : Report (List Markup) := do
  let comments ← textProperty element "TestPlan.comments" plan.comments
  let userVariables ← plan.userVariables.mapM (variableProperty element)
  return [ comments,
    truthProperty "TestPlan.functional_mode" (.bool false),
    truthProperty "TestPlan.tearDown_on_shutdown" (.bool true),
    truthProperty "TestPlan.serialize_threadgroups" (.bool false),
    argumentsProperty "TestPlan.user_defined_variables" "ArgumentsPanel" userVariables,
    emptyProperty "TestPlan.user_define_classpath" ]

/-- The properties of what all requests have in common. -/
def HttpDefaults.properties (element : Text) (defaults : HttpDefaults) : Report (List Markup) := do
  let text := textProperty element
  let arguments ← requestArguments element []
  let domain ← text "HTTPSampler.domain" defaults.domain
  let port ← text "HTTPSampler.port" defaults.port
  let protocol ← text "HTTPSampler.protocol" defaults.protocol
  let encoding ← text "HTTPSampler.contentEncoding" defaults.contentEncoding
  let connect ← text "HTTPSampler.connect_timeout" defaults.connectTimeout
  let response ← text "HTTPSampler.response_timeout" defaults.responseTimeout
  return [ arguments, domain, port, protocol, encoding, emptyProperty "HTTPSampler.path",
    connect, response ]

/-- The properties of a group of virtual users. -/
def ThreadGroup.properties (element : Text) (group : ThreadGroup) : Report (List Markup) := do
  let text := textProperty element
  let onError ← text "ThreadGroup.on_sample_error" group.onSampleError
  let loops ← text "LoopController.loops" group.loops
  let threads ← text "ThreadGroup.num_threads" group.numThreads
  let ramp ← text "ThreadGroup.ramp_time" group.rampTime
  let duration ← text "ThreadGroup.duration" group.duration
  let delay ← text "ThreadGroup.delay" group.delay
  let controller := partsProperty "ThreadGroup.main_controller" "LoopController"
    (partAttributes "LoopControlPanel" "LoopController" "Loop Controller")
    [truthProperty "LoopController.continue_forever" (.bool false), loops]
  return [ onError, controller, threads, ramp,
    truthProperty "ThreadGroup.scheduler" group.scheduler, duration, delay,
    truthProperty "ThreadGroup.same_user_on_next_iteration" (.bool true) ]

/-- Body or arguments of a request. -/
def HttpSampler.content (element : Text) (sampler : HttpSampler) : Report (List Markup) :=
  match sampler.body with
  | .null => do return [← requestArguments element sampler.arguments]
  | body => requestBody element body

def HttpSampler.properties (element : Text) (sampler : HttpSampler) : Report (List Markup) := do
  let text := textProperty element
  let content ← sampler.content element
  let path ← text "HTTPSampler.path" sampler.path
  let method ← text "HTTPSampler.method" sampler.method
  let connect ← text "HTTPSampler.connect_timeout" sampler.connectTimeout
  let response ← text "HTTPSampler.response_timeout" sampler.responseTimeout
  return content ++
    [ emptyProperty "HTTPSampler.domain",
      emptyProperty "HTTPSampler.port",
      emptyProperty "HTTPSampler.protocol",
      .leaf "stringProp" [("name", "HTTPSampler.contentEncoding")] "UTF-8",
      path,
      method,
      truthProperty "HTTPSampler.follow_redirects" sampler.followRedirects,
      truthProperty "HTTPSampler.auto_redirects" (.bool false),
      truthProperty "HTTPSampler.use_keepalive" sampler.useKeepalive,
      truthProperty "HTTPSampler.DO_MULTIPART_POST" (.bool false),
      emptyProperty "HTTPSampler.embedded_url_re",
      connect,
      response ]

def ResponseAssertion.properties (element : Text) (assertion : ResponseAssertion) :
    Report (List Markup) := do
  let text := textProperty element
  let strings ← assertion.testStrings.mapM (testString element)
  let message ← text "Assertion.custom_message" assertion.customMessage
  let field ← text "Assertion.test_field" assertion.testField
  let type ← Report.ofExcept assertion.testType.shown
  return [ collection "Asserion.test_strings" strings, message, field,
    truthProperty "Assertion.assume_success" assertion.assumeSuccess,
    .leaf "intProp" [("name", "Assertion.test_type")] type ]

/-- The properties of a check of the time of a response. -/
def DurationAssertion.properties (element : Text) (assertion : DurationAssertion) :
    Report (List Markup) := do
  let duration ← Report.ofExcept assertion.maxDuration.shown
  return [← textProperty element "DurationAssertion.duration" (.text duration)]

/-- The properties of a variable taken from a response. -/
def JsonExtractor.properties (element : Text) (extractor : JsonExtractor) :
    Report (List Markup) := do
  let text := textProperty element
  let name ← text "JSONPostProcessor.referenceNames" extractor.referenceName
  let path ← text "JSONPostProcessor.jsonPathExprs" extractor.jsonPath
  let number ← text "JSONPostProcessor.match_numbers" extractor.matchNumber
  let default ← text "JSONPostProcessor.defaultValues" extractor.defaultValue
  return [name, path, number, default]

def HeaderManager.properties (element : Text) (manager : HeaderManager) :
    Report (List Markup) := do
  return [collection "HeaderManager.headers" (← manager.headers.mapM (headerProperty element))]

def AuthManager.properties (element : Text) (manager : AuthManager) : Report (List Markup) := do
  let text := textProperty element
  let url ← text "Authorization.url" manager.url
  let username ← text "Authorization.username" manager.username
  let password ← text "Authorization.password" manager.password
  let domain ← text "Authorization.domain" manager.domain
  let realm ← text "Authorization.realm" manager.realm
  return [ collection "AuthManager.auth_list"
    [partsProperty [] "Authorization" [] [url, username, password, domain, realm]] ]

/-- The properties of a file with test data. -/
def CsvDataSet.properties (element : Text) (data : CsvDataSet) : Report (List Markup) := do
  let text := textProperty element
  let delimiter ← text "delimiter" data.delimiter
  let encoding ← text "fileEncoding" data.fileEncoding
  let filename ← text "filename" data.filename
  let shareMode ← text "shareMode" data.shareMode
  let variableNames ← text "variableNames" data.variableNames
  return [ delimiter, encoding, filename,
    truthProperty "ignoreFirstLine" data.ignoreFirstLine,
    truthProperty "quotedData" data.quotedData,
    truthProperty "recycle" data.recycle,
    shareMode,
    truthProperty "stopThread" data.stopThread,
    variableNames ]

def ResultCollector.properties (element : Text) (collector : ResultCollector) :
    Report (List Markup) := do
  let filename ← textProperty element "filename" collector.filename
  return [truthProperty "ResultCollector.error_logging" (.bool false), saveConfig, filename]

/-- **The properties of an element**, which has a name. -/
def Settings.properties (element : Text) : Settings → Report (List Markup)
  | testPlan plan => plan.properties element
  | httpDefaults defaults => defaults.properties element
  | threadGroup group => group.properties element
  | httpSampler sampler => sampler.properties element
  | responseAssertion assertion => assertion.properties element
  | durationAssertion assertion => assertion.properties element
  | jsonExtractor extractor => extractor.properties element
  | headerManager manager => manager.properties element
  | authManager manager => manager.properties element
  | csvDataSet data => data.properties element
  | resultCollector collector => collector.properties element
  | bare _ => return []

/-! ## Displays -/

/-- The texts that cannot stand in an attribute as they are. -/
def escapedTexts : List Text := ["&", "<", ">", "\"", "\r", "\n", "\t"]

/-- Whether a value is a text that cannot stand in an attribute as it is. -/
def isEscapedText : Value → Bool
  | .text t => escapedTexts.contains t
  | _ => false

/-- Whether a value can be written in an attribute: texts can, and collections that do not have one
of the escaped texts among their members. -/
def hasAttributeForm : Value → Bool
  | .text _ => true
  | .list items | .tuple items | .set items => !items.any isEscapedText
  | .map entries => !entries.any (isEscapedText ·.1)
  | _ => false

def attributeValue : Value → Except Fault AttributeValue
  | .text t => .ok (.text t)
  | value => do
    let shown ← value.literal
    if hasAttributeForm value then return .raw shown
    else throw (.render (.attributeNotText shown value.kind))

/-- The attribute for the display of an element.  It does not matter what stands for a display that
cannot be written, since `render` refuses such a plan. -/
def Settings.display (settings : Settings) : AttributeValue :=
  (attributeValue settings.guiClass).toOption.getD (.text [])

/-! ## Elements -/

/-- An element without what is below it.  One of a kind that has no written form cannot be written. -/
def emitOwn (name enabled : Value) (settings : Settings) : Report Markup :=
  match settings, name with
  | .bare _, _ => Report.fail (.render (.unsupportedElement settings.kind))
  | _, .text element => do
    let title ← legalText element name
    let parts ← settings.properties element
    return .branch settings.tag
      [ ("guiclass", settings.display), ("testclass", settings.tag), ("testname", title),
        ("enabled", truthText enabled) ] parts
  | _, _ => Report.fail .notText

/-- The container of what is below an element. -/
def container (content : List Markup) : Markup := .branch "hashTree" [] content

mutual

/-- **An element and the container of what is below it.** -/
def emit : Element → Report (List Markup)
  | .mk name enabled settings children => do
    let own ← emitOwn name enabled settings
    let below ← emitAll children
    return [own, container below]

/-- Some elements, each with its container. -/
def emitAll : List Element → Report (List Markup)
  | [] => return []
  | element :: rest => do
    let first ← emit element
    return first ++ (← emitAll rest)

end

/-- The displays of all elements of a plan can be written. -/
def checkDisplays (plan : Element) : Except Fault Unit :=
  plan.walk.forM fun element => discard (attributeValue element.settings.guiClass)

def planDocument (content : List Markup) : Markup :=
  .branch "jmeterTestPlan" [("version", "1.2"), ("properties", "5.0"), ("jmeter", "5.4.1")]
    [container content]

/-- **The document of some markup.**  A reader has to find something in it that is laid out anew.
Where no raw markup is written that is the markup itself, unless it holds a character that XML
cannot carry. -/
def documentText (markup : Markup) : Except RenderFault Text :=
  let compact := markup.compact
  match Utf8.stray? compact with
  | some stray => .error (.surrogates stray)
  | none =>
    if !markup.isPlain then (Markup.read compact).map Markup.document
    else
      match compact.findIdx? Rune.isIllegal with
      | some index =>
        let (line, column) := compact.placeAfter 1 0 index
        .error (.notWellFormed .invalidToken line column)
      | none => .ok markup.withLineFeeds.document

/-- **The document of a plan.** -/
def render (plan : Element) : Report Text := do
  let content ← emit plan
  Report.ofExcept (checkDisplays plan)
  Report.ofExcept ((documentText (planDocument content)).mapError Fault.render)

end LoadPlan.Plan
