import LoadPlan.Plan.Sampler
import LoadPlan.Plan.Server
import LoadPlan.Security

/-!
# Assembling a plan

* `testPlan` — the root of a plan: its variables, its description, and what all requests have in
  common.
* `threadGroup` — one group of virtual users with everything below it.
* `assemble` — the whole plan.
-/

namespace LoadPlan.Plan

/-! ## The root -/

def switchText (value : Value) : Text := if value.isTruthy then "Enabled" else "Disabled"

/-- The description of a plan. -/
def comments (config : Config) (spec : Specification) (address : Text) : Except Fault Text := do
  let responseTime ← integerText config.responseTimeThreshold
  let throughput ← integerText config.throughputThreshold
  let errorRate ← integerText config.errorRateThreshold
  return Text.join "\n"
    [ "Generated from OpenAPI/Swagger specification",
      "API: " ++ spec.title ++ " " ++ spec.apiVersion,
      "Swagger Version: " ++ spec.version,
      "Base URL: " ++ address,
      "Grouping Strategy: " ++ config.groupingStrategy.name,
      "Assertions: " ++ switchText config.addAssertions,
      "Correlation: " ++ switchText config.addCorrelation,
      "CSV Config: " ++ switchText config.generateCsvConfig,
      "Reporting: " ++ switchText config.enableReporting,
      "Response Time Threshold: " ++ responseTime ++ " ms",
      "Throughput Threshold: " ++ throughput ++ " req/s",
      "Error Rate Threshold: " ++ errorRate ++ "%" ]

/-- A character that the name of a variable keeps, and a low line for any other. -/
def variableRune (r : Rune) : Rune := if r.isAsciiLetter || r.isAsciiDigit then r else '_'

/-- **The variable for the key of a scheme.**  Only schemes whose name is a text have one. -/
def keyVariable (name : Text) : Text :=
  "API_KEY_" ++ (name.map variableRune).flatMap Rune.upper

/-- The variable for the key of a scheme that may have any name. -/
def keyVariableOf : Value → Except Fault Text
  | .text name => .ok (keyVariable name)
  | _ => .error .notText

/-- A variable whose value is a property of the same name. -/
abbrev Variable := Text × Text

/-- A variable whose value is a property of the same name, with a default. -/
def declare (name default : Text) : Variable := (name, propertyRef name default)

def schemeVariables (scheme : Scheme) : Except Fault (List Variable) :=
  match scheme.credential with
  | .apiKey _ => (keyVariableOf scheme.name).map fun name => [declare name "your_api_key_here"]
  | .bearer => .ok [declare "BEARER_TOKEN" "your_bearer_token_here"]
  | .basic =>
    .ok
      [ declare "BASIC_USERNAME" "your_username_here",
        declare "BASIC_PASSWORD" "your_password_here" ]

/-- Adds a variable, unless there is one of its name. -/
def addVariable (declared : List Variable) (added : Variable) : List Variable :=
  if declared.any (·.1 = added.1) then declared else declared ++ [added]

/-- The variables for the credentials of some schemes, each name once. -/
def credentialVariables (schemes : List Scheme) : Except Fault (List Variable) :=
  (schemes.mapM schemeVariables).map fun found => found.flatten.foldl addVariable []

def serverVariables (config : Config) (address : Text) (server : Server) :
    Except Fault (List Variable) := do
  let connectionTimeout ← integerText config.connectionTimeout
  let responseTimeout ← integerText config.responseTimeout
  return [
    declare "BASE_URL" address,
    declare "HOST" server.host,
    declare "PORT" server.port,
    declare "PROTOCOL" server.protocol,
    declare "BASE_PATH" server.basePath,
    declare "CONNECTION_TIMEOUT" connectionTimeout,
    declare "RESPONSE_TIMEOUT" responseTimeout ]

/-- What all requests have in common. -/
def httpDefaults : Element :=
  .of "HTTP Request Defaults"
    (.httpDefaults
      { domain := .text (variableRef "HOST")
        port := .text (variableRef "PORT")
        protocol := .text (variableRef "PROTOCOL")
        connectTimeout := .text (variableRef "CONNECTION_TIMEOUT")
        responseTimeout := .text (variableRef "RESPONSE_TIMEOUT") }) []

/-- **The root of a plan**, as yet without children. -/
structure Root where
  /-- The name, as it is configured. -/
  name : Value
  /-- The settings. -/
  settings : TestPlan

def testPlan (config : Config) (spec : Specification) : Report Root := do
  let address ← Report.ofExcept (baseUrl config spec)
  let server ← Server.ofBaseUrl address
  let serverParts ← Report.ofExcept (serverVariables config address server)
  let schemes ← spec.schemes
  let credentials ← Report.ofExcept (credentialVariables schemes)
  let description ← Report.ofExcept (comments config spec address)
  return {
    name := config.testPlanName
    settings :=
      { comments := .text description
        userVariables := (serverParts ++ credentials).map textPair } }

def Root.withGroups (root : Root) (groups : List Element) : Element :=
  .mk root.name (.bool true) (.testPlan root.settings) (httpDefaults :: groups)

/-! ## Groups -/

/-- The element that sends the credentials of a scheme. -/
def credentialManager (scheme : Scheme) : Except Fault Element := do
  let name ← scheme.name.shown
  match scheme.credential with
  | .apiKey header =>
    let header ← header.shown
    let key ← keyVariableOf scheme.name
    return .of ("API Key Header Manager - " ++ name)
      (.headerManager { headers := [textPair (header, variableRef key)] }) []
  | .bearer =>
    return .of ("Bearer Token Header Manager - " ++ name)
      (.headerManager
        { headers := [textPair ("Authorization", "Bearer " ++ variableRef "BEARER_TOKEN")] }) []
  | .basic =>
    return .of ("HTTP Authorization Manager - " ++ name)
      (.authManager
        { url := .text (variableRef "BASE_URL")
          username := .text (variableRef "BASIC_USERNAME")
          password := .text (variableRef "BASIC_PASSWORD") }) []

/-- The value of a property whose default is a number. -/
def countRef (name : Text) (default : Nat) : Except Fault Value := do
  return .text (propertyRef name (← integerText default))

/-- How long the users of a group send their requests: until a time, or a number of times. -/
def groupLimits (config : Config) : Except Fault ThreadGroup := do
  match config.duration? with
  | some seconds =>
    return {
      loops := .text "-1"
      scheduler := .bool true
      duration := ← countRef "duration" seconds
      delay := .text "0" }
  | none => return { loops := ← countRef "loops" config.loopCount }

/-- How many users a group has, how fast they are started, and how long they send their
requests. -/
def groupSettings (config : Config) : Except Fault ThreadGroup := do
  let limits ← groupLimits config
  let numThreads ← countRef "threads" config.threadCount
  let rampTime ← countRef "rampup" config.rampUpTime
  return { limits with numThreads, rampTime }

/-- The file with test data. -/
def csvDataSet (presets : Presets) : Element :=
  .of "Test Data CSV Config"
    (.csvDataSet
      { filename := .text presets.csvFilename
        variableNames := .text (Text.join "," presets.csvVariableNames) }) []

/-- The headers of every request of a group. -/
def standardHeaders (presets : Presets) (group : Text) : Element :=
  .of ("HTTP Header Manager - " ++ group)
    (.headerManager
      { headers := presets.standardHeaders.map fun (header, value) =>
          textPair (header, value.replace "\x7bgroup\x7d" group) }) []

/-- The displays of the listeners of a group, with their titles. -/
def displays : List (Text × Text) :=
  [ ("ViewResultsFullVisualizer", "View Results Tree"), ("SummaryReport", "Summary Report"),
    ("StatVisualizer", "Aggregate Report") ]

def listeners (group : Text) : List Element :=
  displays.map fun (display, title) =>
    .of (title ++ " - " ++ group) (.resultCollector { guiClass := .text display }) []

/-- The requests of some operations. -/
def samplers (config : Config) (presets : Presets) (resolver : Resolver) :
    List Operation → Report (List Element)
  | [] => return []
  | operation :: rest => do
    let element ← sampler config presets operation resolver
    return element :: (← samplers config presets resolver rest)

/-- **A group of virtual users**: test data, headers, credentials, one request for each operation,
and listeners. -/
def threadGroup (config : Config) (presets : Presets) (spec : Specification) (name : Text)
    (operations : List Operation) : Report Element := do
  let settings ← Report.ofExcept (groupSettings config)
  let schemes ← spec.schemes
  let managers ← Report.ofExcept (schemes.mapM credentialManager)
  let requests ← samplers config presets ⟨spec.document, Resolver.usualDepth⟩ operations
  return .of (name ++ " Tests") (.threadGroup settings)
    ((if config.generateCsvConfig.isTruthy then [csvDataSet presets] else [])
      ++ [standardHeaders presets name] ++ managers ++ requests
      ++ (if config.enableReporting.isTruthy then listeners name else []))

/-- Some groups of virtual users. -/
def threadGroups (config : Config) (presets : Presets) (spec : Specification) :
    Operation.Groups → Report (List Element)
  | [] => return []
  | (name, operations) :: rest => do
    let element ← threadGroup config presets spec name operations
    return element :: (← threadGroups config presets spec rest)

/-- **The plan of a specification.** -/
def assemble (config : Config) (presets : Presets) (spec : Specification)
    (groups : Operation.Groups) : Report Element := do
  let root ← testPlan config spec
  return root.withGroups (← threadGroups config presets spec groups)

end LoadPlan.Plan
