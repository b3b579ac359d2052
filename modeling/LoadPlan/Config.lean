import LoadPlan.Fault
import LoadPlan.Operation.Group
import LoadPlan.Value

/-!
# Configuration

* `Config` — the options of a compilation.
* `Config.usual` — the options that are used unless others are given.
* `Config.ofEntries` — the options in a mapping.  An option has two names there, and of several
  values the last one counts.  Unknown names are passed over.
* `Config.toEntries` — the options as a mapping.
* `Presets` — what goes into every plan, whatever the document and the options say;
  `Presets.usual` — the values that are used unless others are given.

The numbers are checked, in a fixed order.  The other options are used as they are given: whether a
switch is on is asked only where it matters.
-/

namespace LoadPlan

/-- **The options of a compilation.** -/
structure Config where
  /-- The number of virtual users of a group. -/
  threadCount : Nat
  /-- The seconds in which they are started. -/
  rampUpTime : Nat
  /-- How often each of them repeats the requests. -/
  loopCount : Nat
  /-- The seconds after which a test ends; without them the repetitions decide. -/
  duration? : Option Nat
  /-- The address that requests go to, if it is not the one of the document. -/
  baseUrl : Value
  /-- The name of the plan. -/
  testPlanName : Value
  /-- The way to group operations. -/
  groupingStrategy : Strategy
  /-- Whether responses are checked. -/
  addAssertions : Value
  /-- Whether fields of responses are kept for later requests. -/
  addCorrelation : Value
  /-- Whether groups read test data from a file. -/
  generateCsvConfig : Value
  /-- Whether redirections are followed. -/
  followRedirects : Value
  /-- Whether connections are kept. -/
  useKeepAlive : Value
  /-- Whether groups have listeners. -/
  enableReporting : Value
  /-- The milliseconds after which connecting fails. -/
  connectionTimeout : Nat
  /-- The milliseconds after which a response fails. -/
  responseTimeout : Nat
  /-- The milliseconds within which a response is good. -/
  responseTimeThreshold : Nat
  /-- The number of requests per second that is expected. -/
  throughputThreshold : Nat
  /-- The percentage of errors that is accepted. -/
  errorRateThreshold : Nat

namespace Config

/-! ## Reading -/

/-- Whether a key names an option. -/
def names (name other : Text) : Value → Bool
  | .text key => key = name || key = other
  | _ => false

/-- The last value for an option, by either of its names. -/
def given? (entries : Entries) (name other : Text) : Option Value :=
  (entries.reverse.find? fun (key, _) => names name other key).map Prod.snd

/-- The value for an option, or else a usual one. -/
def given (entries : Entries) (name other : Text) (usual : Value) : Value :=
  (given? entries name other).getD usual

/-- The fault for a value, which its message shows. -/
def refuse {α : Type} (shown : Except Fault Text) (fault : Text → ConfigFault) :
    Except Fault α := do
  throw (.config (fault (← shown)))

def positive? : Value → Option Nat
  | .int i => if 0 < i then some i.toNat else none
  | _ => none

/-- An option that has to be a positive integer. -/
def positive (entries : Entries) (name other : Text) (usual : Nat) : Except Fault Nat :=
  match given? entries name other with
  | none => .ok usual
  | some value =>
    match positive? value with
    | some n => .ok n
    | none => refuse value.literal (.notPositive name)

/-- The duration, which may be missing. -/
def durationOf (entries : Entries) : Except Fault (Option Nat) :=
  match given entries "duration" "duration" .null with
  | .null => .ok none
  | value =>
    match positive? value with
    | some n => .ok (some n)
    | none => refuse value.literal .badDuration

def percentage? : Value → Option Nat
  | .int i => if 0 ≤ i ∧ i ≤ 100 then some i.toNat else none
  | _ => none

/-- The percentage of errors that is accepted. -/
def errorRateOf (entries : Entries) : Except Fault Nat :=
  match given? entries "error_rate_threshold" "errorRateThreshold" with
  | none => .ok 5
  | some value =>
    match percentage? value with
    | some n => .ok n
    | none => refuse value.literal .notPercentage

/-- The way to group operations. -/
def strategyOf (entries : Entries) : Except Fault Strategy :=
  match given? entries "grouping_strategy" "groupingStrategy" with
  | none => .ok .byTag
  | some (.text name) =>
    match Strategy.ofName? name with
    | some strategy => .ok strategy
    | none => .error (.config (.unknownStrategy name))
  | some value => refuse value.shown .unknownStrategy

/-- **The options in a mapping.** -/
def ofEntries (entries : Entries) : Except Fault Config := do
  let threadCount ← positive entries "thread_count" "threadCount" 10
  let rampUpTime ← positive entries "ramp_up_time" "rampUpTime" 60
  let loopCount ← positive entries "loop_count" "loopCount" 1
  let connectionTimeout ← positive entries "connection_timeout" "connectionTimeout" 10000
  let responseTimeout ← positive entries "response_timeout" "responseTimeout" 30000
  let responseTimeThreshold ←
    positive entries "response_time_threshold" "responseTimeThreshold" 5000
  let throughputThreshold ← positive entries "throughput_threshold" "throughputThreshold" 100
  let duration? ← durationOf entries
  let errorRateThreshold ← errorRateOf entries
  let groupingStrategy ← strategyOf entries
  return {
    threadCount, rampUpTime, loopCount, duration?, groupingStrategy, connectionTimeout,
    responseTimeout, responseTimeThreshold, throughputThreshold, errorRateThreshold
    baseUrl := given entries "base_url" "baseUrl" (.text [])
    testPlanName := given entries "test_plan_name" "testPlanName" (.text "API Performance Test")
    addAssertions := given entries "add_assertions" "addAssertions" (.bool true)
    addCorrelation := given entries "add_correlation" "addCorrelation" (.bool true)
    generateCsvConfig := given entries "generate_csv_config" "generateCsvConfig" (.bool false)
    followRedirects := given entries "follow_redirects" "followRedirects" (.bool true)
    useKeepAlive := given entries "use_keep_alive" "useKeepAlive" (.bool true)
    enableReporting := given entries "enable_reporting" "enableReporting" (.bool true) }

/-- **The usual options.** -/
def usual : Config where
  threadCount := 10
  rampUpTime := 60
  loopCount := 1
  duration? := none
  baseUrl := .text []
  testPlanName := .text "API Performance Test"
  groupingStrategy := .byTag
  addAssertions := .bool true
  addCorrelation := .bool true
  generateCsvConfig := .bool false
  followRedirects := .bool true
  useKeepAlive := .bool true
  enableReporting := .bool true
  connectionTimeout := 10000
  responseTimeout := 30000
  responseTimeThreshold := 5000
  throughputThreshold := 100
  errorRateThreshold := 5

/-! ## Writing -/

/-- **The options as a mapping.** -/
def toEntries (config : Config) : Entries :=
  let count (n : Nat) : Value := .int n
  [ (.text "thread_count", count config.threadCount),
    (.text "ramp_up_time", count config.rampUpTime),
    (.text "loop_count", count config.loopCount),
    (.text "duration", (config.duration?.map count).getD .null),
    (.text "base_url", config.baseUrl),
    (.text "test_plan_name", config.testPlanName),
    (.text "grouping_strategy", .text config.groupingStrategy.name),
    (.text "add_assertions", config.addAssertions),
    (.text "add_correlation", config.addCorrelation),
    (.text "generate_csv_config", config.generateCsvConfig),
    (.text "follow_redirects", config.followRedirects),
    (.text "use_keep_alive", config.useKeepAlive),
    (.text "enable_reporting", config.enableReporting),
    (.text "connection_timeout", count config.connectionTimeout),
    (.text "response_timeout", count config.responseTimeout),
    (.text "response_time_threshold", count config.responseTimeThreshold),
    (.text "throughput_threshold", count config.throughputThreshold),
    (.text "error_rate_threshold", count config.errorRateThreshold) ]

end Config

/-! ## Presets -/

/-- **What goes into every plan.** -/
structure Presets where
  /-- The headers of every group; `{group}` in a value stands for the name of the group. -/
  standardHeaders : List (Text × Text)
  /-- The fields of responses that are kept for later requests. -/
  correlationFields : List Text
  /-- The codes of responses that count as success. -/
  successCodes : List Text
  /-- The name of the file with test data. -/
  csvFilename : Text
  /-- The variables that the columns of that file go into. -/
  csvVariableNames : List Text

/-- **The usual presets.** -/
def Presets.usual : Presets where
  standardHeaders :=
    [ ("Content-Type", "application/json"), ("Accept", "application/json"),
      ("User-Agent", "JMeter Performance Test - \x7bgroup\x7d") ]
  correlationFields := ["id", "userId", "orderId", "productId", "customerId", "petId"]
  successCodes := ["200", "201", "202", "204"]
  csvFilename := "test-data.csv"
  csvVariableNames := ["userId", "orderId", "productId", "email"]

end LoadPlan
