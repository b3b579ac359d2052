import LoadPlan.Proofs.Number.Decimal
import LoadPlan.Proofs.Plan.Outline

/-!
# Reading a plan back

Nothing that a plan says is lost when it is written.  A reader of the written elements finds every
setting by the name of its property, and every element by its place before its container.

* `Markup.property?` — the property with a name among the properties of an element.
* `Settings.ofParts?` — the settings of an element, from its tag, its display and its properties.
* `elements?` — the elements of a container, from its pairs of element and container.
* `testElements` — what stands in containers at any depth, in the order of the document.
* `Nested` — elements that stand in pairs, each with the container of those below it.
* `Element.cleaned` — what can be read again of an element: its texts without the characters that
  XML cannot carry, and not the arguments of a request with a body, which are not sent.
* **`emit_recovered`** — for a well-typed plan, elements stand in pairs at every level, their order is
  that of `Element.walk`, and reading them gives the plan.
-/

namespace LoadPlan

/-! ## Finding properties -/

namespace Markup

/-- The text that an attribute holds. -/
def attribute? (name : Text) : Markup → Option Text
  | element _ attributes _ =>
    match attributes.lookup name with
    | some (.text t) => some t
    | _ => none
  | _ => none

def content : Markup → List Markup
  | element _ _ content => content
  | _ => []

/-- The text between the tags of an element that holds no elements. -/
def inner? : Markup → Option Text
  | element _ _ [] => some []
  | element _ _ [text t] => some t
  | _ => none

/-- **The property with a name** among the properties of an element. -/
def property? (name : Text) (parts : List Markup) : Option Markup :=
  parts.find? fun part => part.attribute? "name" = some name

lemma property?_cons (name : Text) (part : Markup) (rest : List Markup) :
    property? name (part :: rest) =
      if part.attribute? "name" = some name then some part else property? name rest := by
  by_cases h : part.attribute? "name" = some name <;> simp [property?, h]

lemma attribute?_cons_self (tag name : Text) (t : Text) (more : Attributes) (content : List Markup) :
    (element tag ((name, .text t) :: more) content).attribute? name = some t := by
  simp [attribute?]

lemma attribute?_cons_of_ne (tag : Text) {name other : Text} (hne : name ≠ other)
    (v : AttributeValue) (more : Attributes) (content : List Markup) :
    (element tag ((other, v) :: more) content).attribute? name =
      (element tag more content).attribute? name := by
  simp only [attribute?, List.lookup_cons, beq_false_of_ne hne]

end Markup

open Markup

namespace Plan

@[simp] lemma attribute?_textLeaf (name : Text) (v : Value) :
    (textLeaf name v).attribute? "name" = some name := attribute?_cons_self ..

@[simp] lemma attribute?_emptyProperty (name : Text) :
    (emptyProperty name).attribute? "name" = some name := attribute?_cons_self ..

@[simp] lemma attribute?_truthProperty (name : Text) (v : Value) :
    (truthProperty name v).attribute? "name" = some name := attribute?_cons_self ..

@[simp] lemma attribute?_leaf (tag name t : Text) :
    (Markup.leaf tag [("name", name)] t).attribute? "name" = some name := attribute?_cons_self ..

@[simp] lemma attribute?_partsProperty (name type : Text) (more : Attributes)
    (parts : List Markup) :
    (partsProperty name type more parts).attribute? "name" = some name := attribute?_cons_self ..

@[simp] lemma attribute?_argumentsProperty (name display : Text) (parts : List Markup) :
    (argumentsProperty name display parts).attribute? "name" = some name :=
  attribute?_cons_self ..

@[simp] lemma attribute?_collection (name : Text) (parts : List Markup) :
    (collection name parts).attribute? "name" = some name := attribute?_cons_self ..

@[simp] lemma attribute?_saveConfig : saveConfig.attribute? "name" = none := rfl

@[simp] lemma content_partsProperty (name type : Text) (more : Attributes) (parts : List Markup) :
    (partsProperty name type more parts).content = parts := rfl

@[simp] lemma content_argumentsProperty (name display : Text) (parts : List Markup) :
    (argumentsProperty name display parts).content =
      [collection "Arguments.arguments" parts] := rfl

@[simp] lemma content_collection (name : Text) (parts : List Markup) :
    (collection name parts).content = parts := rfl

@[simp] lemma inner?_textLeaf (name : Text) (v : Value) :
    (textLeaf name v).inner? = some v.asText.legal := rfl

@[simp] lemma inner?_truthProperty (name : Text) (v : Value) :
    (truthProperty name v).inner? = some (truthText v) := rfl

@[simp] lemma inner?_leaf (tag : Text) (attributes : Attributes) (t : Text) :
    (Markup.leaf tag attributes t).inner? = some t := rfl

end Plan

/-! ## Values -/

/-- The integer that a decimal text stands for. -/
def Text.toInt (t : Text) : Int :=
  let (negative, digits) := splitSign t.toChars
  if negative then -(Nat.ofDigitChars 10 digits 0 : Int) else Nat.ofDigitChars 10 digits 0

lemma Text.toInt_ofInt : ∀ i : Int, (Text.ofInt i).toInt = i
  | .ofNat n => by
      rw [Text.toInt, Text.ofInt, Text.ofNat, Text.toChars_ofChars, splitSign_toDigits]
      simp [Nat.ofDigitChars_toDigits]
  | .negSucc n => by
      have hsign : splitSign (Text.toChars (Text.ofInt (.negSucc n))) =
          (true, Nat.toDigits 10 (n + 1)) := by
        show splitSign ((Rune.ofChar '-').toChar :: Text.toChars (Text.ofChars _)) = _
        rw [Rune.toChar_ofChar, Text.toChars_ofChars]
        rfl
      rw [Text.toInt, hsign]
      simp [Nat.ofDigitChars_toDigits, Int.negSucc_eq]

namespace Value

/-- **A value without what XML cannot carry.** -/
def cleaned : Value → Value
  | text t => .text t.legal
  | v => v

lemma cleaned_of_isText : ∀ {v : Value}, v.isText = true → v.cleaned = .text v.asText.legal
  | text _, _ => rfl

end Value

lemma Value.int_toInt_decimal : ∀ {v : Value}, v.isInteger = true →
    Value.int v.decimal.toInt = v
  | .int i, _ => congrArg Value.int (Text.toInt_ofInt i)

namespace Plan

/-- Names and values without what XML cannot carry. -/
def cleanedPairs (pairs : List Pair) : List Pair :=
  pairs.map fun pair => (pair.1.cleaned, pair.2.cleaned)

/-- The truth value that a word stands for. -/
def truth? (t : Text) : Option Value :=
  if t = "true" then some (.bool true) else if t = "false" then some (.bool false) else none

lemma truth?_truthText : ∀ {v : Value}, v.isBool = true → truth? (truthText v) = some v
  | .bool true, _ => rfl
  | .bool false, _ => rfl

/-! ## Properties -/

section

variable (name : Text) (parts : List Markup)

/-- The text of a property. -/
def textAt? : Option Value := ((property? name parts).bind inner?).map Value.text

def truthAt? : Option Value := ((property? name parts).bind inner?).bind truth?

def integerAt? : Option Value := ((property? name parts).bind inner?).map fun t => .int t.toInt

def partsAt? : Option (List Markup) := (property? name parts).map content

end

/-- A name and a value that are properties of one part. -/
def pair? (name value : Text) (part : Markup) : Option Pair := do
  let first ← textAt? name part.content
  let second ← textAt? value part.content
  return (first, second)

/-- The arguments or variables of a property. -/
def argumentsAt? (name : Text) (parts : List Markup) : Option (List Pair) := do
  let inside ← partsAt? name parts
  let arguments ← partsAt? "Arguments.arguments" inside
  arguments.mapM (pair? "Argument.name" "Argument.value")

/-- What is written item by item can be read item by item. -/
lemma mapM_map_eq_some {α β γ : Type} {write : α → β} {read : β → Option γ} {result : α → γ} :
    ∀ {xs : List α}, (∀ x ∈ xs, read (write x) = some (result x)) →
      (xs.map write).mapM read = some (xs.map result)
  | [], _ => rfl
  | x :: xs, h => by
      rw [List.map_cons, List.mapM_cons, h x List.mem_cons_self,
        mapM_map_eq_some fun y hy => h y (List.mem_cons_of_mem x hy)]
      rfl

/-- Written pairs can be read, provided that one can. -/
lemma mapM_pairs_eq_some {write : Pair → Markup} {read : Markup → Option Pair} {pairs : List Pair}
    (hread : ∀ p : Pair, read (write p) =
      some (.text p.1.asText.legal, .text p.2.asText.legal))
    (h : ∀ v ∈ pairTexts pairs, v.isText = true) :
    (pairs.map write).mapM read = some (cleanedPairs pairs) := by
  refine mapM_map_eq_some fun p hp => ?_
  have hname : p.1.isText = true := h p.1 (List.mem_flatMap.mpr ⟨p, hp, by simp⟩)
  have hvalue : p.2.isText = true := h p.2 (List.mem_flatMap.mpr ⟨p, hp, by simp⟩)
  rw [hread, Value.cleaned_of_isText hname, Value.cleaned_of_isText hvalue]

lemma pair?_variableOutline (p : Pair) :
    pair? "Argument.name" "Argument.value" (variableOutline p) =
      some (.text p.1.asText.legal, .text p.2.asText.legal) := by
  simp [pair?, textAt?, variableOutline, property?_cons, Text.ofString_inj]

lemma pair?_argumentOutline (p : Pair) :
    pair? "Argument.name" "Argument.value" (argumentOutline p) =
      some (.text p.1.asText.legal, .text p.2.asText.legal) := by
  simp [pair?, textAt?, argumentOutline, property?_cons, Text.ofString_inj]

lemma pair?_headerOutline (p : Pair) :
    pair? "Header.name" "Header.value" (headerOutline p) =
      some (.text p.1.asText.legal, .text p.2.asText.legal) := by
  simp [pair?, textAt?, headerOutline, property?_cons, Text.ofString_inj]

/-! ## Kinds of elements -/

def TestPlan.ofParts? (parts : List Markup) : Option TestPlan := do
  let comments ← textAt? "TestPlan.comments" parts
  let userVariables ← argumentsAt? "TestPlan.user_defined_variables" parts
  return { comments, userVariables }

def HttpDefaults.ofParts? (parts : List Markup) : Option HttpDefaults := do
  let domain ← textAt? "HTTPSampler.domain" parts
  let port ← textAt? "HTTPSampler.port" parts
  let protocol ← textAt? "HTTPSampler.protocol" parts
  let contentEncoding ← textAt? "HTTPSampler.contentEncoding" parts
  let connectTimeout ← textAt? "HTTPSampler.connect_timeout" parts
  let responseTimeout ← textAt? "HTTPSampler.response_timeout" parts
  return { domain, port, protocol, contentEncoding, connectTimeout, responseTimeout }

def ThreadGroup.ofParts? (parts : List Markup) : Option ThreadGroup := do
  let onSampleError ← textAt? "ThreadGroup.on_sample_error" parts
  let controller ← partsAt? "ThreadGroup.main_controller" parts
  let loops ← textAt? "LoopController.loops" controller
  let numThreads ← textAt? "ThreadGroup.num_threads" parts
  let rampTime ← textAt? "ThreadGroup.ramp_time" parts
  let scheduler ← truthAt? "ThreadGroup.scheduler" parts
  let duration ← textAt? "ThreadGroup.duration" parts
  let delay ← textAt? "ThreadGroup.delay" parts
  return { numThreads, rampTime, loops, scheduler, duration, delay, onSampleError }

/-- The body of a request, which is the value of its only argument. -/
def bodyAt? (parts : List Markup) : Option Value := do
  let inside ← partsAt? "HTTPsampler.Arguments" parts
  let arguments ← partsAt? "Arguments.arguments" inside
  let argument ← arguments.head?
  textAt? "Argument.value" argument.content

/-- What a request sends: a body if it is marked to have one, and arguments otherwise. -/
def sentAt? (parts : List Markup) : Option (Value × List Pair) :=
  if (property? "HTTPSampler.postBodyRaw" parts).isSome then
    (bodyAt? parts).map fun body => (body, [])
  else (argumentsAt? "HTTPsampler.Arguments" parts).map fun arguments => (.null, arguments)

/-- A request. -/
def HttpSampler.ofParts? (parts : List Markup) : Option HttpSampler := do
  let (body, arguments) ← sentAt? parts
  let path ← textAt? "HTTPSampler.path" parts
  let method ← textAt? "HTTPSampler.method" parts
  let followRedirects ← truthAt? "HTTPSampler.follow_redirects" parts
  let useKeepalive ← truthAt? "HTTPSampler.use_keepalive" parts
  let connectTimeout ← textAt? "HTTPSampler.connect_timeout" parts
  let responseTimeout ← textAt? "HTTPSampler.response_timeout" parts
  return {
    path, method, followRedirects, useKeepalive, body, arguments, connectTimeout, responseTimeout }

def ResponseAssertion.ofParts? (parts : List Markup) : Option ResponseAssertion := do
  let strings ← partsAt? "Asserion.test_strings" parts
  let testStrings ← strings.mapM fun part => part.inner?.map Value.text
  let customMessage ← textAt? "Assertion.custom_message" parts
  let testField ← textAt? "Assertion.test_field" parts
  let assumeSuccess ← truthAt? "Assertion.assume_success" parts
  let testType ← integerAt? "Assertion.test_type" parts
  return { testStrings, customMessage, testField, testType, assumeSuccess }

def DurationAssertion.ofParts? (parts : List Markup) : Option DurationAssertion := do
  let maxDuration ← integerAt? "DurationAssertion.duration" parts
  return { maxDuration }

def JsonExtractor.ofParts? (parts : List Markup) : Option JsonExtractor := do
  let referenceName ← textAt? "JSONPostProcessor.referenceNames" parts
  let jsonPath ← textAt? "JSONPostProcessor.jsonPathExprs" parts
  let matchNumber ← textAt? "JSONPostProcessor.match_numbers" parts
  let defaultValue ← textAt? "JSONPostProcessor.defaultValues" parts
  return { referenceName, jsonPath, matchNumber, defaultValue }

def HeaderManager.ofParts? (parts : List Markup) : Option HeaderManager := do
  let entries ← partsAt? "HeaderManager.headers" parts
  let headers ← entries.mapM (pair? "Header.name" "Header.value")
  return { headers }

/-- Credentials, of which there is one entry. -/
def AuthManager.ofParts? (parts : List Markup) : Option AuthManager := do
  let entries ← partsAt? "AuthManager.auth_list" parts
  let entry ← entries.head?
  let url ← textAt? "Authorization.url" entry.content
  let username ← textAt? "Authorization.username" entry.content
  let password ← textAt? "Authorization.password" entry.content
  let domain ← textAt? "Authorization.domain" entry.content
  let realm ← textAt? "Authorization.realm" entry.content
  return { url, username, password, domain, realm }

def CsvDataSet.ofParts? (parts : List Markup) : Option CsvDataSet := do
  let delimiter ← textAt? "delimiter" parts
  let fileEncoding ← textAt? "fileEncoding" parts
  let filename ← textAt? "filename" parts
  let ignoreFirstLine ← truthAt? "ignoreFirstLine" parts
  let quotedData ← truthAt? "quotedData" parts
  let recycle ← truthAt? "recycle" parts
  let shareMode ← textAt? "shareMode" parts
  let stopThread ← truthAt? "stopThread" parts
  let variableNames ← textAt? "variableNames" parts
  return {
    filename, variableNames, delimiter, fileEncoding, ignoreFirstLine, quotedData, recycle
    shareMode, stopThread }

/-- A listener, whose display is an attribute of its element. -/
def ResultCollector.ofParts? (display : Text) (parts : List Markup) : Option ResultCollector := do
  let filename ← textAt? "filename" parts
  return { guiClass := .text display, filename }

/-- **The settings of an element**, from its tag, its display and its properties. -/
def Settings.ofParts? (tag display : Text) (parts : List Markup) : Option Settings :=
  if tag = "TestPlan" then (TestPlan.ofParts? parts).map testPlan
  else if tag = "ConfigTestElement" then (HttpDefaults.ofParts? parts).map httpDefaults
  else if tag = "ThreadGroup" then (ThreadGroup.ofParts? parts).map threadGroup
  else if tag = "HTTPSamplerProxy" then (HttpSampler.ofParts? parts).map httpSampler
  else if tag = "ResponseAssertion" then
    (ResponseAssertion.ofParts? parts).map responseAssertion
  else if tag = "DurationAssertion" then
    (DurationAssertion.ofParts? parts).map durationAssertion
  else if tag = "JSONPostProcessor" then (JsonExtractor.ofParts? parts).map jsonExtractor
  else if tag = "HeaderManager" then (HeaderManager.ofParts? parts).map headerManager
  else if tag = "AuthManager" then (AuthManager.ofParts? parts).map authManager
  else if tag = "CSVDataSet" then (CsvDataSet.ofParts? parts).map csvDataSet
  else if tag = "ResultCollector" then
    (ResultCollector.ofParts? display parts).map resultCollector
  else none

/-- The arguments of a request that are sent: none next to a body. -/
def HttpSampler.sentArguments (sampler : HttpSampler) : List Pair :=
  match sampler.body with
  | .null => sampler.arguments
  | _ => []

/-- **What can be read again of settings.**  Texts lose the characters that XML cannot carry, except
for the display of a listener; the arguments of a request are lost next to a body. -/
def Settings.cleaned : Settings → Settings
  | testPlan s =>
    testPlan
      { comments := s.comments.cleaned
        userVariables := cleanedPairs s.userVariables }
  | httpDefaults s =>
    httpDefaults
      { domain := s.domain.cleaned
        port := s.port.cleaned
        protocol := s.protocol.cleaned
        contentEncoding := s.contentEncoding.cleaned
        connectTimeout := s.connectTimeout.cleaned
        responseTimeout := s.responseTimeout.cleaned }
  | threadGroup s =>
    threadGroup
      { numThreads := s.numThreads.cleaned
        rampTime := s.rampTime.cleaned
        loops := s.loops.cleaned
        scheduler := s.scheduler
        duration := s.duration.cleaned
        delay := s.delay.cleaned
        onSampleError := s.onSampleError.cleaned }
  | httpSampler s =>
    httpSampler
      { path := s.path.cleaned
        method := s.method.cleaned
        followRedirects := s.followRedirects
        useKeepalive := s.useKeepalive
        body := s.body.cleaned
        arguments := cleanedPairs s.sentArguments
        connectTimeout := s.connectTimeout.cleaned
        responseTimeout := s.responseTimeout.cleaned }
  | responseAssertion s =>
    responseAssertion
      { testStrings := s.testStrings.map Value.cleaned
        customMessage := s.customMessage.cleaned
        testField := s.testField.cleaned
        testType := s.testType
        assumeSuccess := s.assumeSuccess }
  | durationAssertion s => durationAssertion { maxDuration := s.maxDuration }
  | jsonExtractor s =>
    jsonExtractor
      { referenceName := s.referenceName.cleaned
        jsonPath := s.jsonPath.cleaned
        matchNumber := s.matchNumber.cleaned
        defaultValue := s.defaultValue.cleaned }
  | headerManager s => headerManager { headers := cleanedPairs s.headers }
  | authManager s =>
    authManager
      { url := s.url.cleaned
        username := s.username.cleaned
        password := s.password.cleaned
        domain := s.domain.cleaned
        realm := s.realm.cleaned }
  | csvDataSet s =>
    csvDataSet
      { filename := s.filename.cleaned
        variableNames := s.variableNames.cleaned
        delimiter := s.delimiter.cleaned
        fileEncoding := s.fileEncoding.cleaned
        ignoreFirstLine := s.ignoreFirstLine
        quotedData := s.quotedData
        recycle := s.recycle
        shareMode := s.shareMode.cleaned
        stopThread := s.stopThread }
  | resultCollector s => resultCollector { guiClass := s.guiClass, filename := s.filename.cleaned }
  | bare kind => bare kind

/-! ## Settings are read back -/

/-- What a request sends is read back: its body, or its arguments. -/
lemma sentAt?_outline (sampler : HttpSampler)
    (hbody : ∀ v ∈ bodyTexts sampler.body, v.isText = true)
    (harguments : ∀ v ∈ pairTexts sampler.arguments, v.isText = true) :
    sentAt? sampler.outline = some (sampler.body.cleaned, cleanedPairs sampler.sentArguments) := by
  unfold HttpSampler.outline HttpSampler.contentOutline HttpSampler.sentArguments
  cases hcase : sampler.body with
  | null =>
      simp [sentAt?, argumentsAt?, partsAt?, argumentsOutline, property?_cons, Text.ofString_inj,
        mapM_pairs_eq_some pair?_argumentOutline harguments, Value.cleaned]
      simp [property?]
  | text t =>
      simp [sentAt?, bodyAt?, partsAt?, textAt?, bodyOutline, property?_cons, Text.ofString_inj,
        Value.cleaned, Value.asText, cleanedPairs]
  | _ =>
      rw [hcase] at hbody
      cases hbody _ (List.mem_singleton_self _)

/-- Properties of other names are not found in what a request sends. -/
lemma property?_contentOutline (sampler : HttpSampler) {name : Text} (rest : List Markup)
    (hbody : name ≠ "HTTPSampler.postBodyRaw") (harguments : name ≠ "HTTPsampler.Arguments") :
    property? name (sampler.contentOutline ++ rest) = property? name rest := by
  unfold HttpSampler.contentOutline
  cases sampler.body <;>
    simp [bodyOutline, argumentsOutline, property?_cons, hbody.symm, harguments.symm]

/-- **Well-typed settings are read back from their outline.** -/
theorem Settings.ofParts?_outline {settings : Settings} (h : settings.IsTyped) :
    Settings.ofParts? settings.tag settings.guiClass.asText settings.outline =
      some settings.cleaned := by
  have htexts := h.texts
  have hswitches := h.switches
  have hintegers := h.integers
  cases settings with
  | testPlan plan =>
      simp only [texts, List.mem_cons, forall_eq_or_imp] at htexts
      simp [ofParts?, tag, outline, cleaned, TestPlan.ofParts?, TestPlan.outline, textAt?,
        argumentsAt?, partsAt?, property?_cons, Text.ofString_inj,
        mapM_pairs_eq_some pair?_variableOutline htexts.2, Value.cleaned_of_isText htexts.1]
  | httpDefaults defaults =>
      simp only [texts, List.mem_cons, forall_eq_or_imp, List.not_mem_nil] at htexts
      obtain ⟨hdomain, hport, hprotocol, hencoding, hconnect, hresponse, -⟩ := htexts
      simp [ofParts?, tag, outline, cleaned, HttpDefaults.ofParts?, HttpDefaults.outline, textAt?,
        argumentsOutline, property?_cons, Text.ofString_inj, Value.cleaned_of_isText, hdomain,
        hport, hprotocol, hencoding, hconnect, hresponse]
  | threadGroup group =>
      simp only [texts, List.mem_cons, forall_eq_or_imp, List.not_mem_nil] at htexts
      obtain ⟨honError, hloops, hthreads, hramp, hduration, hdelay, -⟩ := htexts
      simp [ofParts?, tag, outline, cleaned, ThreadGroup.ofParts?, ThreadGroup.outline, textAt?,
        truthAt?, partsAt?, property?_cons, Text.ofString_inj, Value.cleaned_of_isText,
        truth?_truthText (hswitches _ List.mem_cons_self), honError, hloops, hthreads, hramp,
        hduration, hdelay]
  | httpSampler sampler =>
      simp only [texts, List.mem_append, List.mem_cons, or_imp, forall_and, forall_eq,
        List.not_mem_nil] at htexts
      obtain ⟨⟨⟨hpath, hmethod, hconnect, hresponse, -⟩, hbody⟩, harguments⟩ := htexts
      simp only [switches, List.mem_cons, forall_eq_or_imp, List.not_mem_nil] at hswitches
      obtain ⟨hredirects, hkeepalive, -⟩ := hswitches
      have hsent := sentAt?_outline sampler hbody harguments
      simp [ofParts?, tag, outline, cleaned, HttpSampler.ofParts?, hsent]
      simp [HttpSampler.outline, property?_contentOutline, textAt?, truthAt?, property?_cons,
        Text.ofString_inj, Value.cleaned_of_isText, truth?_truthText, hpath, hmethod, hconnect,
        hresponse, hredirects, hkeepalive]
  | responseAssertion assertion =>
      simp only [texts, List.mem_append, List.mem_cons, or_imp, forall_and, forall_eq,
        List.not_mem_nil] at htexts
      obtain ⟨⟨hmessage, hfield, -⟩, hstrings⟩ := htexts
      have hread : (assertion.testStrings.map testStringOutline).mapM
          (fun part => part.inner?.map Value.text) =
            some (assertion.testStrings.map Value.cleaned) :=
        mapM_map_eq_some fun v hv => by
          simp [testStringOutline, Value.cleaned_of_isText (hstrings v hv)]
      simp [ofParts?, tag, outline, cleaned, ResponseAssertion.ofParts?,
        ResponseAssertion.outline, textAt?, truthAt?, integerAt?, partsAt?, property?_cons,
        Text.ofString_inj, Value.cleaned_of_isText, hmessage, hfield, hread,
        truth?_truthText (hswitches _ List.mem_cons_self),
        Value.int_toInt_decimal (hintegers _ List.mem_cons_self)]
  | durationAssertion assertion =>
      simp [ofParts?, tag, outline, cleaned, DurationAssertion.ofParts?,
        DurationAssertion.outline, integerAt?, property?_cons, Text.ofString_inj, Value.asText,
        Value.legal_decimal,
        Value.int_toInt_decimal (hintegers _ List.mem_cons_self)]
  | jsonExtractor extractor =>
      simp only [texts, List.mem_cons, forall_eq_or_imp, List.not_mem_nil] at htexts
      obtain ⟨hname, hpath, hnumber, hdefault, -⟩ := htexts
      simp [ofParts?, tag, outline, cleaned, JsonExtractor.ofParts?, JsonExtractor.outline, textAt?,
        property?_cons, Text.ofString_inj, Value.cleaned_of_isText, hname, hpath, hnumber, hdefault]
  | headerManager manager =>
      simp [ofParts?, tag, outline, cleaned, HeaderManager.ofParts?, HeaderManager.outline,
        partsAt?, property?_cons, Text.ofString_inj, mapM_pairs_eq_some pair?_headerOutline htexts]
  | authManager manager =>
      simp only [texts, List.mem_cons, forall_eq_or_imp, List.not_mem_nil] at htexts
      obtain ⟨hurl, husername, hpassword, hdomain, hrealm, -⟩ := htexts
      simp [ofParts?, tag, outline, cleaned, AuthManager.ofParts?, AuthManager.outline, textAt?,
        partsAt?, property?_cons, Text.ofString_inj, Value.cleaned_of_isText, hurl, husername,
        hpassword, hdomain, hrealm]
  | csvDataSet data =>
      simp only [texts, List.mem_cons, forall_eq_or_imp, List.not_mem_nil] at htexts
      obtain ⟨hdelimiter, hencoding, hfilename, hshare, hnames, -⟩ := htexts
      simp only [switches, List.mem_cons, forall_eq_or_imp, List.not_mem_nil] at hswitches
      obtain ⟨hignore, hquoted, hrecycle, hstop, -⟩ := hswitches
      simp [ofParts?, tag, outline, cleaned, CsvDataSet.ofParts?, CsvDataSet.outline, textAt?,
        truthAt?, property?_cons, Text.ofString_inj, Value.cleaned_of_isText, truth?_truthText,
        hdelimiter, hencoding, hfilename, hshare, hnames, hignore, hquoted, hrecycle, hstop]
  | resultCollector collector =>
      have hdisplay : collector.guiClass = .text collector.guiClass.asText :=
        Value.eq_text_of_isText h.display
      simp [ofParts?, tag, outline, cleaned, ResultCollector.ofParts?, ResultCollector.outline,
        textAt?, property?_cons, Text.ofString_inj,
        Value.cleaned_of_isText (htexts _ List.mem_cons_self), Settings.guiClass, ← hdisplay]
  | bare _ => cases h.supported

/-! ## Elements -/

def containerTag : Text := "hashTree"

/-- The kinds of elements have tags of their own. -/
lemma Settings.tag_ne_containerTag (settings : Settings) : settings.tag ≠ containerTag := by
  cases settings <;> simp only [tag, containerTag, ne_eq, Text.ofString_inj] <;> decide

/-- **The element that some markup stands for**, when the elements below it are known. -/
def element? (below : List Element) : Markup → Option Element
  | own@(.element tag _ parts) => do
    let display ← own.attribute? "guiclass"
    let name ← own.attribute? "testname"
    let enabled ← (own.attribute? "enabled").bind truth?
    let settings ← Settings.ofParts? tag display parts
    return .mk (.text name) enabled settings below
  | _ => none

mutual

def below? : Markup → Option (List Element)
  | .element tag _ content => if tag = containerTag then elements? content else none
  | _ => none

/-- **The elements of a container**, from its pairs of element and container. -/
def elements? : List Markup → Option (List Element)
  | [] => some []
  | [_] => none
  | own :: box :: content => do
    let below ← below? box
    let first ← element? below own
    let rest ← elements? content
    return first :: rest

end

mutual

/-- What stands in a container, at any depth; something else stands for itself. -/
def testElements : Markup → List Markup
  | .element tag attributes content =>
    if tag = containerTag then allTestElements content else [.element tag attributes content]
  | part => [part]

/-- **What stands in containers at any depth**, in the order of the document. -/
def allTestElements : List Markup → List Markup
  | [] => []
  | part :: parts => testElements part ++ allTestElements parts

end

/-- **Elements in pairs.**  Each is followed by its container, which holds the pairs of the elements
below it and nothing else. -/
inductive Nested : List Element → List Markup → Prop
  /-- Nothing is written for no elements. -/
  | nil : Nested [] []
  /-- An element and its container come before the other elements. -/
  | cons {element : Element} {rest : List Element} {below content : List Markup} :
    element.settings.tag ≠ containerTag → Nested element.children below → Nested rest content →
      Nested (element :: rest) (element.ownOutline :: container below :: content)

namespace Element

mutual

/-- **What can be read again of an element.** -/
def cleaned : Element → Element
  | mk name enabled settings children =>
    mk name.cleaned enabled settings.cleaned (allCleaned children)

def allCleaned : List Element → List Element
  | [] => []
  | first :: rest => first.cleaned :: allCleaned rest

end

end Element

lemma container_eq (content : List Markup) :
    container content = .element containerTag [] content := rfl

lemma element?_ownOutline {element : Element} (h : element.IsTyped) (below : List Element) :
    element? below element.ownOutline =
      some (.mk element.name.cleaned element.enabled element.settings.cleaned below) := by
  have hsettings := Settings.ofParts?_outline h.settings
  have henabled := truth?_truthText h.enabled
  simp [element?, Element.ownOutline, attribute?_cons_self, attribute?_cons_of_ne,
    Text.ofString_inj, hsettings, henabled, Value.cleaned_of_isText h.name]

mutual

/-- **A well-typed plan is read back from its outline.** -/
theorem elements?_outline : ∀ (element : Element), (∀ e ∈ element.walk, e.IsTyped) →
    ∀ (content : List Markup) (rest : List Element), elements? content = some rest →
      elements? (element.outline ++ content) = some (element.cleaned :: rest)
  | .mk name enabled settings children, h, content, rest, hrest => by
      simp only [Element.walk, List.mem_cons, forall_eq_or_imp] at h
      have hbelow : elements? (Element.allOutlines children) =
          some (Element.allCleaned children) := elements?_allOutlines children h.2
      simp only [Element.outline, List.cons_append, List.nil_append, elements?, container_eq, below?,
        if_true, hbelow, element?_ownOutline h.1, hrest]
      rfl

theorem elements?_allOutlines : ∀ (elements : List Element),
    (∀ e ∈ Element.walkAll elements, e.IsTyped) →
      elements? (Element.allOutlines elements) = some (Element.allCleaned elements)
  | [], _ => rfl
  | first :: rest, h => by
      simp only [Element.walkAll, List.mem_append, or_imp, forall_and] at h
      exact elements?_outline first h.1 _ _ (elements?_allOutlines rest h.2)

end

lemma allTestElements_append : ∀ xs ys : List Markup,
    allTestElements (xs ++ ys) = allTestElements xs ++ allTestElements ys
  | [], _ => rfl
  | x :: xs, ys => by
      rw [List.cons_append, allTestElements, allTestElements, allTestElements_append xs ys,
        List.append_assoc]

mutual

/-- What stands in containers is what a walk meets. -/
theorem allTestElements_outline : ∀ element : Element,
    allTestElements element.outline = element.walk.map Element.ownOutline
  | .mk name enabled settings children => by
      have htag := Settings.tag_ne_containerTag settings
      simp only [Element.outline, Element.walk, allTestElements, container_eq, testElements,
        Element.ownOutline, Element.settings, htag, if_false, if_true,
        allTestElements_allOutlines children, List.map_cons, List.append_nil]
      rfl

theorem allTestElements_allOutlines : ∀ elements : List Element,
    allTestElements (Element.allOutlines elements) =
      (Element.walkAll elements).map Element.ownOutline
  | [] => rfl
  | first :: rest => by
      rw [Element.allOutlines, Element.walkAll, allTestElements_append,
        allTestElements_outline first, allTestElements_allOutlines rest, List.map_append]

end

mutual

/-- The outline of a plan is a pair. -/
theorem nested_outline : ∀ (element : Element) {rest : List Element} {content : List Markup},
    Nested rest content → Nested (element :: rest) (element.outline ++ content)
  | .mk _ _ settings children, _, _, hrest =>
    .cons settings.tag_ne_containerTag (nested_allOutlines children) hrest

theorem nested_allOutlines : ∀ elements : List Element,
    Nested elements (Element.allOutlines elements)
  | [] => .nil
  | first :: rest => nested_outline first (nested_allOutlines rest)

end

/-- **Nothing is lost when a plan is written.**  Its elements stand in pairs at every level, their
order is that of a walk, and reading them gives what can be read again of the plan; only an integer
that has no decimal text can keep it from being written. -/
theorem emit_recovered (plan : Element) (h : ∀ e ∈ plan.walk, e.IsTyped) :
    (∃ content, (emit plan).outcome = .ok content ∧ Nested [plan] content ∧
      allTestElements content = plan.walk.map Element.ownOutline ∧
      elements? content = some [plan.cleaned]) ∨
    ((∃ e ∈ plan.walk, ¬ e.HasDecimals) ∧ (emit plan).outcome = .error .tooManyDigits) := by
  by_cases hd : ∀ e ∈ plan.walk, e.HasDecimals
  · refine .inl ⟨plan.outline, emit_outcome plan h hd, ?_, allTestElements_outline plan, ?_⟩
    · simpa using nested_outline plan .nil
    · simpa using elements?_outline plan h [] [] rfl
  · exact .inr ⟨by simpa using hd, emit_outcome_of_long plan h hd⟩

/-- The plan that is hard to write is read back, with its body and without the arguments next to
it. -/
theorem specimen_recovered : ∃ content, (emit specimen).outcome = .ok content ∧
    Nested [specimen] content ∧
    allTestElements content = specimen.walk.map Element.ownOutline ∧
    elements? content = some [specimen.cleaned] :=
  (emit_recovered specimen specimen_isTyped).resolve_right
    fun ⟨⟨e, he, hlong⟩, _⟩ => hlong (specimen_hasDecimals e he)

end Plan

end LoadPlan
