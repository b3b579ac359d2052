import LoadPlan.Value

/-!
# Plan elements

A test plan is a tree of elements.

* `TestPlan`, `ThreadGroup`, `HttpSampler`, … — the settings of each kind of element.
* `Settings` — the settings of any kind.
* `Element` — an element: name, settings and children.
* `Element.walk` — an element and all below it, each before its children.

Settings are document values: they come from configurations and documents as they are, and whether
they can be written is decided when the plan is written.
-/

namespace LoadPlan.Plan

abbrev Pair := Value × Value

/-- **The root of a plan.** -/
structure TestPlan where
  /-- A description. -/
  comments : Value := .text []
  /-- The variables of the plan. -/
  userVariables : List Pair := []

/-- **What all requests have in common.** -/
structure HttpDefaults where
  /-- The host. -/
  domain : Value := .text []
  /-- The port. -/
  port : Value := .text []
  /-- The protocol. -/
  protocol : Value := .text []
  /-- The encoding of contents. -/
  contentEncoding : Value := .text "UTF-8"
  /-- The milliseconds after which connecting fails. -/
  connectTimeout : Value := .text []
  /-- The milliseconds after which a response fails. -/
  responseTimeout : Value := .text []

/-- **A group of virtual users** that send the same requests. -/
structure ThreadGroup where
  /-- The number of users. -/
  numThreads : Value := .text "1"
  /-- The seconds in which they are started. -/
  rampTime : Value := .text "0"
  /-- How often each of them repeats the requests. -/
  loops : Value := .text "1"
  /-- Whether the duration counts. -/
  scheduler : Value := .bool false
  /-- The seconds after which the test ends. -/
  duration : Value := .text []
  /-- The seconds before the test begins. -/
  delay : Value := .text []
  /-- What happens after a failure. -/
  onSampleError : Value := .text "continue"

/-- **A request.** -/
structure HttpSampler where
  /-- The path. -/
  path : Value := .text "/"
  /-- The method. -/
  method : Value := .text "GET"
  /-- Whether redirections are followed. -/
  followRedirects : Value := .bool true
  /-- Whether the connection is kept. -/
  useKeepalive : Value := .bool true
  /-- The body; nothing for a request with arguments. -/
  body : Value := .null
  /-- The arguments. -/
  arguments : List Pair := []
  /-- The milliseconds after which connecting fails. -/
  connectTimeout : Value := .text []
  /-- The milliseconds after which a response fails. -/
  responseTimeout : Value := .text []

/-- **A check of a response.** -/
structure ResponseAssertion where
  /-- The texts of which one has to be there. -/
  testStrings : List Value := []
  /-- The message of a failure. -/
  customMessage : Value := .text []
  /-- The part of the response that is looked at. -/
  testField : Value := .text "Assertion.response_code"
  /-- The way of comparing: 33 asks for one of several texts. -/
  testType : Value := .int 33
  /-- Whether a failed response counts as a success so far. -/
  assumeSuccess : Value := .bool false

/-- **A check of the time of a response.** -/
structure DurationAssertion where
  /-- The milliseconds that are allowed. -/
  maxDuration : Value := .int 0

/-- **A variable taken from a response.** -/
structure JsonExtractor where
  /-- The name of the variable. -/
  referenceName : Value := .text []
  /-- Where its value stands in the response. -/
  jsonPath : Value := .text []
  /-- Which of several values is taken. -/
  matchNumber : Value := .text "1"
  /-- The value when there is none. -/
  defaultValue : Value := .text "NOT_FOUND"

/-- **Headers of requests.** -/
structure HeaderManager where
  /-- The headers. -/
  headers : List Pair := []

/-- **The credentials of requests.** -/
structure AuthManager where
  /-- The address they are for. -/
  url : Value := .text []
  /-- The name of the user. -/
  username : Value := .text []
  /-- The password. -/
  password : Value := .text []
  /-- The domain. -/
  domain : Value := .text []
  /-- The realm. -/
  realm : Value := .text []

/-- **A file with test data.** -/
structure CsvDataSet where
  /-- The name of the file. -/
  filename : Value := .text []
  /-- The variables that its columns go into. -/
  variableNames : Value := .text []
  /-- What separates the columns. -/
  delimiter : Value := .text ","
  /-- The encoding of the file. -/
  fileEncoding : Value := .text "UTF-8"
  /-- Whether the first line is passed over. -/
  ignoreFirstLine : Value := .bool true
  /-- Whether values stand between quotation marks. -/
  quotedData : Value := .bool false
  /-- Whether reading begins again at the end of the file. -/
  recycle : Value := .bool true
  /-- Who shares the position in the file. -/
  shareMode : Value := .text "shareMode.all"
  /-- Whether a user stops at the end of the file. -/
  stopThread : Value := .bool false

/-- **A listener** for results. -/
structure ResultCollector where
  /-- The kind of display. -/
  guiClass : Value := .text "ViewResultsFullVisualizer"
  /-- The file that results are written to. -/
  filename : Value := .text []

/-- **The settings of an element.** -/
inductive Settings where
  /-- The root of a plan. -/
  | testPlan (settings : TestPlan)
  /-- What all requests have in common. -/
  | httpDefaults (settings : HttpDefaults)
  /-- A group of virtual users. -/
  | threadGroup (settings : ThreadGroup)
  /-- A request. -/
  | httpSampler (settings : HttpSampler)
  /-- A check of a response. -/
  | responseAssertion (settings : ResponseAssertion)
  /-- A check of the time of a response. -/
  | durationAssertion (settings : DurationAssertion)
  /-- A variable taken from a response. -/
  | jsonExtractor (settings : JsonExtractor)
  /-- Headers of requests. -/
  | headerManager (settings : HeaderManager)
  /-- The credentials of requests. -/
  | authManager (settings : AuthManager)
  /-- A file with test data. -/
  | csvDataSet (settings : CsvDataSet)
  /-- A listener for results. -/
  | resultCollector (settings : ResultCollector)
  /-- An element of a kind that has no written form; only the name of the kind is known. -/
  | bare (kind : Text)

/-- The name of a kind of element. -/
def Settings.kind : Settings → Text
  | testPlan _ => "TestPlan"
  | httpDefaults _ => "HttpDefaults"
  | threadGroup _ => "ThreadGroup"
  | httpSampler _ => "HttpSampler"
  | responseAssertion _ => "ResponseAssertion"
  | durationAssertion _ => "DurationAssertion"
  | jsonExtractor _ => "JsonExtractor"
  | headerManager _ => "HeaderManager"
  | authManager _ => "AuthManager"
  | csvDataSet _ => "CsvDataSet"
  | resultCollector _ => "ResultCollector"
  | bare kind => kind

/-- **An element of a plan.** -/
inductive Element where
  /-- Name, whether it is in use, settings, and the elements below it. -/
  | mk (name enabled : Value) (settings : Settings) (children : List Element)

namespace Element

def name : Element → Value
  | mk name _ _ _ => name

def enabled : Element → Value
  | mk _ enabled _ _ => enabled

def settings : Element → Settings
  | mk _ _ settings _ => settings

def children : Element → List Element
  | mk _ _ _ children => children

instance : Inhabited Element := ⟨mk .null .null (.bare "PlanElement") []⟩

def of (name : Text) (settings : Settings) (children : List Element) : Element :=
  mk (.text name) (.bool true) settings children

mutual

/-- **An element and all below it**, each before its children. -/
def walk : Element → List Element
  | mk name enabled settings children =>
    mk name enabled settings children :: walkAll children

/-- Some elements and all below them. -/
def walkAll : List Element → List Element
  | [] => []
  | element :: rest => element.walk ++ walkAll rest

end

end Element

end LoadPlan.Plan
