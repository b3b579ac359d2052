import LoadPlan.Proofs.Plan.Typed

/-!
# What is written for a plan

`emit` writes a plan step by step: each setting is looked at, and the first that is not what it
should be ends it.  For well-typed plans none does, and what is written can be said without steps.

* `Settings.outline` — the properties of each kind of element.  Every text in them is a setting
  without the characters that XML cannot carry, or one of the fixed texts of the format.
* `Element.outline` — an element and the container of what is below it.
* `Settings.properties_outcome` — the properties of well-typed settings are their outline.
* **`emit_outcome`** — a well-typed plan is written, and what is written is its outline.
* **`emit_outcome_of_long`** — unless it holds an integer that has no decimal text; then that is what
  ends the writing.
-/

namespace LoadPlan

/-! ## Reports without steps -/

/-- A step that is taken for each item of a list, when each comes to an end. -/
lemma Report.mapM_outcome {α β : Type} {f : α → Report β} {g : α → β} :
    ∀ {xs : List α}, (∀ x ∈ xs, (f x).outcome = .ok (g x)) →
      (xs.mapM f).outcome = .ok (xs.map g)
  | [], _ => rfl
  | x :: xs, h => by
      have hx := h x List.mem_cons_self
      have hxs := Report.mapM_outcome fun y hy => h y (List.mem_cons_of_mem x hy)
      rw [List.mapM_cons, Report.bind_outcome, hx]
      show ((xs.mapM f) >>= fun bs => pure (g x :: bs)).outcome = _
      rw [Report.bind_outcome, hxs]
      rfl

lemma Text.legal_eq_self {t : Text} (h : t.any Rune.isIllegal = false) : t.legal = t := by
  rw [Text.legal, List.filter_eq_self]
  intro r hr
  have hall := List.any_eq_false.mp h r hr
  simpa using hall

lemma Text.isIllegal_of_mem_ofNat {n : Nat} {r : Rune} (h : r ∈ Text.ofNat n) :
    r.isIllegal = false := by
  obtain ⟨c, hc, rfl⟩ := List.mem_map.mp h
  have hdigit : c.isDigit = true := Nat.isDigit_of_mem_toDigits (by decide) (by decide) hc
  have hrange : 48 ≤ (Rune.ofChar c).code ∧ (Rune.ofChar c).code ≤ 57 := by
    simp only [Char.isDigit, Bool.and_eq_true, decide_eq_true_eq] at hdigit
    exact ⟨UInt32.le_iff_toNat_le.mp hdigit.1, UInt32.le_iff_toNat_le.mp hdigit.2⟩
  simp only [Rune.isIllegal, Rune.isSurrogate, Bool.or_eq_false_iff, Bool.and_eq_false_iff,
    decide_eq_false_iff_not]
  omega

lemma Text.isIllegal_of_mem_ofInt : ∀ {i : Int} {r : Rune}, r ∈ Text.ofInt i → r.isIllegal = false
  | .ofNat _, _, h => Text.isIllegal_of_mem_ofNat h
  | .negSucc _, _, h => by
      rcases List.mem_cons.mp h with rfl | h
      · decide
      · exact Text.isIllegal_of_mem_ofNat h

lemma Value.legal_decimal (v : Value) : v.decimal.legal = v.decimal := by
  refine Text.legal_eq_self (List.any_eq_false.mpr fun r hr => ?_)
  cases v with
  | int i => simp [Text.isIllegal_of_mem_ofInt hr]
  | _ => exact nomatch hr

namespace Plan

/-! ## Properties -/

/-- A property that is a text. -/
def textLeaf (name : Text) (value : Value) : Markup :=
  .leaf "stringProp" [("name", name)] value.asText.legal

def variableOutline (pair : Pair) : Markup :=
  partsProperty pair.1.asText.legal "Argument" []
    [ textLeaf "Argument.name" pair.1, textLeaf "Argument.value" pair.2,
      .leaf "stringProp" [("name", "Argument.metadata")] "=" ]

def argumentOutline (pair : Pair) : Markup :=
  partsProperty pair.1.asText.legal "HTTPArgument" []
    [ truthProperty "HTTPArgument.always_encode" (.bool false),
      textLeaf "Argument.name" pair.1, textLeaf "Argument.value" pair.2,
      .leaf "stringProp" [("name", "Argument.metadata")] "=",
      truthProperty "HTTPArgument.use_equals" (.bool true) ]

def argumentsOutline (arguments : List Pair) : Markup :=
  argumentsProperty "HTTPsampler.Arguments" "HTTPArgumentsPanel" (arguments.map argumentOutline)

/-- The body of a request in place of arguments. -/
def bodyOutline (body : Value) : List Markup :=
  [ truthProperty "HTTPSampler.postBodyRaw" (.bool true),
    partsProperty "HTTPsampler.Arguments" "Arguments" []
      [ collection "Arguments.arguments"
          [ partsProperty [] "HTTPArgument" []
              [ truthProperty "HTTPArgument.always_encode" (.bool false),
                textLeaf "Argument.value" body,
                .leaf "stringProp" [("name", "Argument.metadata")] "=" ] ] ] ]

def headerOutline (pair : Pair) : Markup :=
  partsProperty [] "Header" [] [textLeaf "Header.name" pair.1, textLeaf "Header.value" pair.2]

def testStringOutline (value : Value) : Markup :=
  textLeaf (Text.ofInt value.asText.hash) value

section

variable (element : Text)

lemma legalText_outcome : ∀ {v : Value}, v.isText = true →
    (legalText element v).outcome = .ok v.asText.legal
  | .text t, _ => by
      simp only [legalText, Value.asText]
      by_cases hlegal : t.any Rune.isIllegal = true
      · rw [if_pos hlegal]
        rfl
      · rw [if_neg hlegal, Text.legal_eq_self (Bool.eq_false_iff.mpr hlegal)]
        rfl

lemma textProperty_outcome (name : Text) {v : Value} (h : v.isText = true) :
    (textProperty element name v).outcome = .ok (textLeaf name v) := by
  rw [textProperty, Report.bind_outcome, legalText_outcome element h]
  rfl

lemma variableProperty_outcome {p : Pair} (hname : p.1.isText = true)
    (hvalue : p.2.isText = true) :
    (variableProperty element p).outcome = .ok (variableOutline p) := by
  simp only [variableProperty, Report.bind_outcome, legalText_outcome element hname,
    textProperty_outcome element _ hname, textProperty_outcome element _ hvalue, ok_bind]
  rfl

lemma argumentProperty_outcome {p : Pair} (hname : p.1.isText = true)
    (hvalue : p.2.isText = true) :
    (argumentProperty element p).outcome = .ok (argumentOutline p) := by
  simp only [argumentProperty, Report.bind_outcome, legalText_outcome element hname,
    textProperty_outcome element _ hname, textProperty_outcome element _ hvalue, ok_bind]
  rfl

lemma headerProperty_outcome {p : Pair} (hname : p.1.isText = true) (hvalue : p.2.isText = true) :
    (headerProperty element p).outcome = .ok (headerOutline p) := by
  simp only [headerProperty, Report.bind_outcome, textProperty_outcome element _ hname,
    textProperty_outcome element _ hvalue, ok_bind]
  rfl

lemma testString_outcome : ∀ {v : Value}, v.isText = true →
    (testString element v).outcome = .ok (testStringOutline v)
  | .text t, h => textProperty_outcome element (Text.ofInt t.hash) h

/-- Names and values that are written one pair after another. -/
lemma mapM_pairs_outcome {f : Pair → Report Markup} {g : Pair → Markup} {pairs : List Pair}
    (hf : ∀ p : Pair, p.1.isText = true → p.2.isText = true → (f p).outcome = .ok (g p))
    (h : ∀ v ∈ pairTexts pairs, v.isText = true) :
    (pairs.mapM f).outcome = .ok (pairs.map g) := by
  refine Report.mapM_outcome fun p hp => hf p ?_ ?_
  · exact h p.1 (List.mem_flatMap.mpr ⟨p, hp, by simp⟩)
  · exact h p.2 (List.mem_flatMap.mpr ⟨p, hp, by simp⟩)

lemma requestArguments_outcome {arguments : List Pair}
    (h : ∀ v ∈ pairTexts arguments, v.isText = true) :
    (requestArguments element arguments).outcome = .ok (argumentsOutline arguments) := by
  rw [requestArguments, Report.bind_outcome,
    mapM_pairs_outcome (fun _ => argumentProperty_outcome element) h]
  rfl

lemma requestBody_outcome {body : Value} (h : body.isText = true) :
    (requestBody element body).outcome = .ok (bodyOutline body) := by
  rw [requestBody, Report.bind_outcome, textProperty_outcome element _ h]
  rfl

end

/-! ## Kinds of elements -/

/-- The properties of the root of a plan. -/
def TestPlan.outline (plan : TestPlan) : List Markup :=
  [ textLeaf "TestPlan.comments" plan.comments,
    truthProperty "TestPlan.functional_mode" (.bool false),
    truthProperty "TestPlan.tearDown_on_shutdown" (.bool true),
    truthProperty "TestPlan.serialize_threadgroups" (.bool false),
    argumentsProperty "TestPlan.user_defined_variables" "ArgumentsPanel"
      (plan.userVariables.map variableOutline),
    emptyProperty "TestPlan.user_define_classpath" ]

def HttpDefaults.outline (defaults : HttpDefaults) : List Markup :=
  [ argumentsOutline [],
    textLeaf "HTTPSampler.domain" defaults.domain,
    textLeaf "HTTPSampler.port" defaults.port,
    textLeaf "HTTPSampler.protocol" defaults.protocol,
    textLeaf "HTTPSampler.contentEncoding" defaults.contentEncoding,
    emptyProperty "HTTPSampler.path",
    textLeaf "HTTPSampler.connect_timeout" defaults.connectTimeout,
    textLeaf "HTTPSampler.response_timeout" defaults.responseTimeout ]

def ThreadGroup.outline (group : ThreadGroup) : List Markup :=
  [ textLeaf "ThreadGroup.on_sample_error" group.onSampleError,
    partsProperty "ThreadGroup.main_controller" "LoopController"
      (partAttributes "LoopControlPanel" "LoopController" "Loop Controller")
      [ truthProperty "LoopController.continue_forever" (.bool false),
        textLeaf "LoopController.loops" group.loops ],
    textLeaf "ThreadGroup.num_threads" group.numThreads,
    textLeaf "ThreadGroup.ramp_time" group.rampTime,
    truthProperty "ThreadGroup.scheduler" group.scheduler,
    textLeaf "ThreadGroup.duration" group.duration,
    textLeaf "ThreadGroup.delay" group.delay,
    truthProperty "ThreadGroup.same_user_on_next_iteration" (.bool true) ]

/-- Body or arguments of a request. -/
def HttpSampler.contentOutline (sampler : HttpSampler) : List Markup :=
  match sampler.body with
  | .null => [argumentsOutline sampler.arguments]
  | body => bodyOutline body

def HttpSampler.outline (sampler : HttpSampler) : List Markup :=
  sampler.contentOutline ++
    [ emptyProperty "HTTPSampler.domain",
      emptyProperty "HTTPSampler.port",
      emptyProperty "HTTPSampler.protocol",
      .leaf "stringProp" [("name", "HTTPSampler.contentEncoding")] "UTF-8",
      textLeaf "HTTPSampler.path" sampler.path,
      textLeaf "HTTPSampler.method" sampler.method,
      truthProperty "HTTPSampler.follow_redirects" sampler.followRedirects,
      truthProperty "HTTPSampler.auto_redirects" (.bool false),
      truthProperty "HTTPSampler.use_keepalive" sampler.useKeepalive,
      truthProperty "HTTPSampler.DO_MULTIPART_POST" (.bool false),
      emptyProperty "HTTPSampler.embedded_url_re",
      textLeaf "HTTPSampler.connect_timeout" sampler.connectTimeout,
      textLeaf "HTTPSampler.response_timeout" sampler.responseTimeout ]

def ResponseAssertion.outline (assertion : ResponseAssertion) : List Markup :=
  [ collection "Asserion.test_strings" (assertion.testStrings.map testStringOutline),
    textLeaf "Assertion.custom_message" assertion.customMessage,
    textLeaf "Assertion.test_field" assertion.testField,
    truthProperty "Assertion.assume_success" assertion.assumeSuccess,
    .leaf "intProp" [("name", "Assertion.test_type")] assertion.testType.decimal ]

def DurationAssertion.outline (assertion : DurationAssertion) : List Markup :=
  [textLeaf "DurationAssertion.duration" (.text assertion.maxDuration.decimal)]

def JsonExtractor.outline (extractor : JsonExtractor) : List Markup :=
  [ textLeaf "JSONPostProcessor.referenceNames" extractor.referenceName,
    textLeaf "JSONPostProcessor.jsonPathExprs" extractor.jsonPath,
    textLeaf "JSONPostProcessor.match_numbers" extractor.matchNumber,
    textLeaf "JSONPostProcessor.defaultValues" extractor.defaultValue ]

def HeaderManager.outline (manager : HeaderManager) : List Markup :=
  [collection "HeaderManager.headers" (manager.headers.map headerOutline)]

def AuthManager.outline (manager : AuthManager) : List Markup :=
  [ collection "AuthManager.auth_list"
      [ partsProperty [] "Authorization" []
          [ textLeaf "Authorization.url" manager.url,
            textLeaf "Authorization.username" manager.username,
            textLeaf "Authorization.password" manager.password,
            textLeaf "Authorization.domain" manager.domain,
            textLeaf "Authorization.realm" manager.realm ] ] ]

def CsvDataSet.outline (data : CsvDataSet) : List Markup :=
  [ textLeaf "delimiter" data.delimiter,
    textLeaf "fileEncoding" data.fileEncoding,
    textLeaf "filename" data.filename,
    truthProperty "ignoreFirstLine" data.ignoreFirstLine,
    truthProperty "quotedData" data.quotedData,
    truthProperty "recycle" data.recycle,
    textLeaf "shareMode" data.shareMode,
    truthProperty "stopThread" data.stopThread,
    textLeaf "variableNames" data.variableNames ]

def ResultCollector.outline (collector : ResultCollector) : List Markup :=
  [ truthProperty "ResultCollector.error_logging" (.bool false), saveConfig,
    textLeaf "filename" collector.filename ]

/-- **The properties of settings.** -/
def Settings.outline : Settings → List Markup
  | testPlan plan => plan.outline
  | httpDefaults defaults => defaults.outline
  | threadGroup group => group.outline
  | httpSampler sampler => sampler.outline
  | responseAssertion assertion => assertion.outline
  | durationAssertion assertion => assertion.outline
  | jsonExtractor extractor => extractor.outline
  | headerManager manager => manager.outline
  | authManager manager => manager.outline
  | csvDataSet data => data.outline
  | resultCollector collector => collector.outline
  | bare _ => []

/-- The body of a request is written when there is one, and its arguments otherwise. -/
lemma HttpSampler.content_outcome (element : Text) (sampler : HttpSampler)
    (hbody : ∀ v ∈ bodyTexts sampler.body, v.isText = true)
    (harguments : ∀ v ∈ pairTexts sampler.arguments, v.isText = true) :
    (sampler.content element).outcome = .ok sampler.contentOutline := by
  cases hcase : sampler.body with
  | null =>
      rw [HttpSampler.content, HttpSampler.contentOutline, hcase]
      show (requestArguments element sampler.arguments >>= fun a => pure [a]).outcome = _
      rw [Report.bind_outcome, requestArguments_outcome element harguments]
      rfl
  | text t =>
      rw [HttpSampler.content, HttpSampler.contentOutline, hcase]
      exact requestBody_outcome element rfl
  | _ =>
      rw [hcase] at hbody
      cases hbody _ (List.mem_singleton_self _)

/-- **Well-typed settings are written as their outline.** -/
theorem Settings.properties_outcome (element : Text) {settings : Settings} (h : settings.IsTyped)
    (hd : ∀ v ∈ settings.integers, v.hasDecimal = true) :
    (settings.properties element).outcome = .ok settings.outline := by
  have htexts := h.texts
  have hintegers := h.integers
  cases settings with
  | testPlan plan =>
      simp only [texts, List.mem_cons, forall_eq_or_imp] at htexts
      simp only [properties, TestPlan.properties, Report.bind_outcome,
        textProperty_outcome element _ htexts.1,
        mapM_pairs_outcome (fun _ => variableProperty_outcome element) htexts.2, ok_bind]
      rfl
  | httpDefaults defaults =>
      simp only [texts, List.mem_cons, forall_eq_or_imp, List.not_mem_nil] at htexts
      obtain ⟨hdomain, hport, hprotocol, hencoding, hconnect, hresponse, -⟩ := htexts
      have hnone : ∀ v ∈ pairTexts [], v.isText = true := List.forall_mem_nil _
      simp only [properties, HttpDefaults.properties, Report.bind_outcome,
        requestArguments_outcome element hnone, textProperty_outcome element _ hdomain,
        textProperty_outcome element _ hport, textProperty_outcome element _ hprotocol,
        textProperty_outcome element _ hencoding, textProperty_outcome element _ hconnect,
        textProperty_outcome element _ hresponse, ok_bind]
      rfl
  | threadGroup group =>
      simp only [texts, List.mem_cons, forall_eq_or_imp, List.not_mem_nil] at htexts
      obtain ⟨honError, hloops, hthreads, hramp, hduration, hdelay, -⟩ := htexts
      simp only [properties, ThreadGroup.properties, Report.bind_outcome,
        textProperty_outcome element _ honError, textProperty_outcome element _ hloops,
        textProperty_outcome element _ hthreads, textProperty_outcome element _ hramp,
        textProperty_outcome element _ hduration, textProperty_outcome element _ hdelay, ok_bind]
      rfl
  | httpSampler sampler =>
      simp only [texts, List.mem_append, List.mem_cons, or_imp, forall_and, forall_eq,
        List.not_mem_nil] at htexts
      obtain ⟨⟨⟨hpath, hmethod, hconnect, hresponse, -⟩, hbody⟩, harguments⟩ := htexts
      simp only [properties, HttpSampler.properties, Report.bind_outcome,
        HttpSampler.content_outcome element sampler hbody harguments,
        textProperty_outcome element _ hpath, textProperty_outcome element _ hmethod,
        textProperty_outcome element _ hconnect, textProperty_outcome element _ hresponse, ok_bind]
      rfl
  | responseAssertion assertion =>
      simp only [texts, List.mem_append, List.mem_cons, or_imp, forall_and, forall_eq,
        List.not_mem_nil] at htexts
      obtain ⟨⟨hmessage, hfield, -⟩, hstrings⟩ := htexts
      have htype := Value.shown_of_hasDecimal (hintegers _ List.mem_cons_self)
        (hd _ List.mem_cons_self)
      have hall := Report.mapM_outcome fun v hv => testString_outcome element (hstrings v hv)
      simp only [properties, ResponseAssertion.properties, Report.bind_outcome, hall,
        textProperty_outcome element _ hmessage, textProperty_outcome element _ hfield,
        Report.ofExcept_outcome, htype, ok_bind]
      rfl
  | durationAssertion assertion =>
      have hduration := Value.shown_of_hasDecimal (hintegers _ List.mem_cons_self)
        (hd _ List.mem_cons_self)
      simp only [properties, DurationAssertion.properties, Report.bind_outcome,
        Report.ofExcept_outcome, hduration, ok_bind,
        textProperty_outcome element _ (Value.isText_text _)]
      rfl
  | jsonExtractor extractor =>
      simp only [texts, List.mem_cons, forall_eq_or_imp, List.not_mem_nil] at htexts
      obtain ⟨hname, hpath, hnumber, hdefault, -⟩ := htexts
      simp only [properties, JsonExtractor.properties, Report.bind_outcome,
        textProperty_outcome element _ hname, textProperty_outcome element _ hpath,
        textProperty_outcome element _ hnumber, textProperty_outcome element _ hdefault, ok_bind]
      rfl
  | headerManager manager =>
      simp only [properties, HeaderManager.properties, Report.bind_outcome,
        mapM_pairs_outcome (fun _ => headerProperty_outcome element) htexts, ok_bind]
      rfl
  | authManager manager =>
      simp only [texts, List.mem_cons, forall_eq_or_imp, List.not_mem_nil] at htexts
      obtain ⟨hurl, husername, hpassword, hdomain, hrealm, -⟩ := htexts
      simp only [properties, AuthManager.properties, Report.bind_outcome,
        textProperty_outcome element _ hurl, textProperty_outcome element _ husername,
        textProperty_outcome element _ hpassword, textProperty_outcome element _ hdomain,
        textProperty_outcome element _ hrealm, ok_bind]
      rfl
  | csvDataSet data =>
      simp only [texts, List.mem_cons, forall_eq_or_imp, List.not_mem_nil] at htexts
      obtain ⟨hdelimiter, hencoding, hfilename, hshare, hnames, -⟩ := htexts
      simp only [properties, CsvDataSet.properties, Report.bind_outcome,
        textProperty_outcome element _ hdelimiter, textProperty_outcome element _ hencoding,
        textProperty_outcome element _ hfilename, textProperty_outcome element _ hshare,
        textProperty_outcome element _ hnames, ok_bind]
      rfl
  | resultCollector collector =>
      simp only [properties, ResultCollector.properties, Report.bind_outcome,
        textProperty_outcome element _ (htexts _ List.mem_cons_self), ok_bind]
      rfl
  | bare _ => rfl

/-- Well-typed settings with an integer that is too long are not written.  Only two kinds of elements
have integers, and each has one. -/
theorem Settings.properties_outcome_of_long (element : Text) {settings : Settings}
    (h : settings.IsTyped) (hlong : ¬ ∀ v ∈ settings.integers, v.hasDecimal = true) :
    (settings.properties element).outcome = .error .tooManyDigits := by
  have htexts := h.texts
  have hintegers := h.integers
  cases settings with
  | responseAssertion assertion =>
      simp only [texts, List.mem_append, List.mem_cons, or_imp, forall_and, forall_eq,
        List.not_mem_nil] at htexts
      obtain ⟨⟨hmessage, hfield, -⟩, hstrings⟩ := htexts
      simp only [integers, List.mem_singleton, forall_eq] at hintegers hlong
      have htype := Value.shown_of_not_hasDecimal hintegers hlong
      have hall := Report.mapM_outcome fun v hv => testString_outcome element (hstrings v hv)
      simp only [properties, ResponseAssertion.properties, Report.bind_outcome, hall,
        textProperty_outcome element _ hmessage, textProperty_outcome element _ hfield,
        Report.ofExcept_outcome, htype, ok_bind, error_bind]
  | durationAssertion assertion =>
      simp only [integers, List.mem_singleton, forall_eq] at hintegers hlong
      simp only [properties, DurationAssertion.properties, Report.bind_outcome,
        Report.ofExcept_outcome, Value.shown_of_not_hasDecimal hintegers hlong, error_bind]
  | _ => exact absurd (List.forall_mem_nil _) hlong

/-! ## Elements -/

/-- An element without what is below it. -/
def Element.ownOutline (element : Element) : Markup :=
  .branch element.settings.tag
    [ ("guiclass", .text element.settings.guiClass.asText), ("testclass", element.settings.tag),
      ("testname", element.name.asText.legal), ("enabled", truthText element.enabled) ]
    element.settings.outline

namespace Element

mutual

/-- **An element and the container of what is below it.** -/
def outline : Element → List Markup
  | mk name enabled settings children =>
    [(mk name enabled settings children).ownOutline, container (allOutlines children)]

def allOutlines : List Element → List Markup
  | [] => []
  | element :: rest => element.outline ++ allOutlines rest

end

end Element

lemma Settings.display_of_isText {settings : Settings} (h : settings.guiClass.isText = true) :
    settings.display = .text settings.guiClass.asText := by
  rw [Settings.display, Value.eq_text_of_isText h]
  rfl

/-- The steps in which a well-typed element is written. -/
lemma emitOwn_eq {settings : Settings} (h : settings.isSupported = true) (t : Text) (enabled : Value) :
    emitOwn (.text t) enabled settings = (do
      let title ← legalText t (.text t)
      let parts ← settings.properties t
      return Markup.branch settings.tag
        [ ("guiclass", settings.display), ("testclass", settings.tag), ("testname", title),
          ("enabled", truthText enabled) ] parts) := by
  cases settings with
  | bare _ => cases h
  | _ => rfl

section

variable {name enabled : Value} {settings : Settings} {children : List Element}

lemma emitOwn_outcome (h : (Element.mk name enabled settings children).IsTyped)
    (hd : (Element.mk name enabled settings children).HasDecimals) :
    (emitOwn name enabled settings).outcome =
      .ok (Element.mk name enabled settings children).ownOutline := by
  have hname : name.isText = true := h.name
  have hsettings : settings.IsTyped := h.settings
  rw [Value.eq_text_of_isText hname, emitOwn_eq hsettings.supported, Report.bind_outcome,
    legalText_outcome _ (Value.isText_text _), ok_bind, Report.bind_outcome,
    Settings.properties_outcome _ hsettings hd, ok_bind,
    Settings.display_of_isText hsettings.display]
  rfl

lemma emitOwn_outcome_of_long (h : (Element.mk name enabled settings children).IsTyped)
    (hlong : ¬ (Element.mk name enabled settings children).HasDecimals) :
    (emitOwn name enabled settings).outcome = .error .tooManyDigits := by
  have hname : name.isText = true := h.name
  have hsettings : settings.IsTyped := h.settings
  rw [Value.eq_text_of_isText hname, emitOwn_eq hsettings.supported, Report.bind_outcome,
    legalText_outcome _ (Value.isText_text _), ok_bind, Report.bind_outcome,
    Settings.properties_outcome_of_long _ hsettings hlong, error_bind]

end

mutual

/-- **A well-typed plan is written**, and what is written is its outline. -/
theorem emit_outcome : ∀ element : Element, (∀ e ∈ element.walk, e.IsTyped) →
    (∀ e ∈ element.walk, e.HasDecimals) → (emit element).outcome = .ok element.outline
  | .mk name enabled settings children, h, hd => by
      simp only [Element.walk, List.mem_cons, forall_eq_or_imp] at h hd
      rw [emit, Report.bind_outcome, emitOwn_outcome h.1 hd.1, ok_bind, Report.bind_outcome,
        emitAll_outcome children h.2 hd.2, ok_bind]
      rfl

theorem emitAll_outcome : ∀ elements : List Element, (∀ e ∈ Element.walkAll elements, e.IsTyped) →
    (∀ e ∈ Element.walkAll elements, e.HasDecimals) →
    (emitAll elements).outcome = .ok (Element.allOutlines elements)
  | [], _, _ => rfl
  | element :: rest, h, hd => by
      simp only [Element.walkAll, List.mem_append, or_imp, forall_and] at h hd
      rw [emitAll, Report.bind_outcome, emit_outcome element h.1 hd.1, ok_bind,
        Report.bind_outcome, emitAll_outcome rest h.2 hd.2, ok_bind]
      rfl

end

mutual

/-- **A plan with an integer that is too long is not written**, even if it is well-typed. -/
theorem emit_outcome_of_long : ∀ element : Element, (∀ e ∈ element.walk, e.IsTyped) →
    (¬ ∀ e ∈ element.walk, e.HasDecimals) → (emit element).outcome = .error .tooManyDigits
  | .mk name enabled settings children, h, hlong => by
      simp only [Element.walk, List.mem_cons, forall_eq_or_imp, not_and] at h hlong
      rw [emit, Report.bind_outcome]
      by_cases hown : (Element.mk name enabled settings children).HasDecimals
      · rw [emitOwn_outcome h.1 hown, ok_bind, Report.bind_outcome,
          emitAll_outcome_of_long children h.2 (hlong hown), error_bind]
      · rw [emitOwn_outcome_of_long h.1 hown, error_bind]

/-- The first integer that is too long ends the writing. -/
theorem emitAll_outcome_of_long : ∀ elements : List Element,
    (∀ e ∈ Element.walkAll elements, e.IsTyped) →
    (¬ ∀ e ∈ Element.walkAll elements, e.HasDecimals) →
    (emitAll elements).outcome = .error .tooManyDigits
  | [], _, hlong => absurd (List.forall_mem_nil _) hlong
  | element :: rest, h, hlong => by
      simp only [Element.walkAll, List.mem_append, or_imp, forall_and, not_and] at h hlong
      rw [emitAll, Report.bind_outcome]
      by_cases hfirst : ∀ e ∈ element.walk, e.HasDecimals
      · rw [emit_outcome element h.1 hfirst, ok_bind, Report.bind_outcome,
          emitAll_outcome_of_long rest h.2 (hlong hfirst), error_bind]
      · rw [emit_outcome_of_long element h.1 hfirst, error_bind]

end

end Plan

end LoadPlan
