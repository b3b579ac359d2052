import LoadPlan.Proofs.Plan.Outline

/-!
# What is written of any settings

Settings that are not well-typed may still be written: nothing looks at the arguments of a request that has a
body, and where an integer belongs, any value is written that has a text.

* `Value.shownText` — the text that any value is written with.
* `Settings.emittedTexts` — the settings that are written as texts.
* `Settings.written` — the properties of settings, which are those of the outline apart from two.
* **`Settings.properties_eq_ok_iff`** — when there are properties, and what they are.
* **`emitOwn_eq_ok_iff`** — the same for an element without what is below it.
-/

namespace LoadPlan

/-! ## Values -/

/-- **The text that a value is written with** where no text has to stand. -/
def Value.shownText (v : Value) : Text := v.shown.toOption.getD []

lemma Value.shown_eq_ok_iff {v : Value} {t : Text} :
    v.shown = .ok t ↔ v.hasDecimal = true ∧ t = v.shownText := by
  rw [hasDecimal, shownText]
  cases v.shown with
  | error fault => simp [Except.toOption]
  | ok s => simp [Except.toOption, eq_comm]

/-! ## Stages -/

namespace Report

variable {α β : Type}

lemma bind_eq_ok_iff {report : Report α} {next : α → Report β} {b : β} :
    (report >>= next).outcome = .ok b ↔ ∃ a, report.outcome = .ok a ∧ (next a).outcome = .ok b := by
  refine ⟨exists_of_bind, ?_⟩
  rintro ⟨a, ha, hb⟩
  rw [bind_of_ok ha, hb]

lemma pure_eq_ok_iff {a b : α} : (pure a : Report α).outcome = .ok b ↔ b = a :=
  ⟨fun h => (Except.ok.inj h).symm, fun h => congrArg Except.ok h.symm⟩

lemma map_eq_ok_iff {report : Report α} {f : α → β} {b : β} :
    (f <$> report).outcome = .ok b ↔ ∃ a, report.outcome = .ok a ∧ b = f a := by
  rw [map_eq_pure_bind, bind_eq_ok_iff]
  simp only [pure_eq_ok_iff]

/-- Items that are written under a condition each are all written if all of them meet it. -/
lemma mapM_eq_ok_iff {f : α → Report β} {g : α → β} {p : α → Prop}
    (h : ∀ x b, (f x).outcome = .ok b ↔ p x ∧ b = g x) {xs : List α} {bs : List β} :
    (xs.mapM f).outcome = .ok bs ↔ (∀ x ∈ xs, p x) ∧ bs = xs.map g := by
  induction xs generalizing bs with
  | nil => simp
  | cons x xs ih =>
      simp only [List.mapM_cons, bind_eq_ok_iff, pure_eq_ok_iff, h, ih, List.forall_mem_cons, List.map_cons]
      constructor
      · rintro ⟨b, ⟨hx, rfl⟩, bs, ⟨hxs, rfl⟩, rfl⟩
        exact ⟨⟨hx, hxs⟩, rfl⟩
      · rintro ⟨⟨hx, hxs⟩, rfl⟩
        exact ⟨_, ⟨hx, rfl⟩, _, ⟨hxs, rfl⟩, rfl⟩

end Report

namespace Plan

/-! ## Properties -/

section

variable {element : Text} {v : Value} {p : Pair} {part : Markup} {parts : List Markup}

lemma legalText_eq_ok_iff {t : Text} :
    (legalText element v).outcome = .ok t ↔ v.isText = true ∧ t = v.asText.legal := by
  cases v with
  | text s =>
      rw [legalText_outcome element rfl]
      simp [Value.isText, eq_comm]
  | _ => simp [legalText, Report.fail, Value.isText]

lemma textProperty_eq_ok_iff {name : Text} :
    (textProperty element name v).outcome = .ok part ↔ v.isText = true ∧ part = textLeaf name v := by
  simp [textProperty, Report.map_eq_ok_iff, legalText_eq_ok_iff, and_assoc, textLeaf]

lemma variableProperty_eq_ok_iff : (variableProperty element p).outcome = .ok part ↔
    (p.1.isText = true ∧ p.2.isText = true) ∧ part = variableOutline p := by
  simp [variableProperty, Report.bind_eq_ok_iff, Report.map_eq_ok_iff, legalText_eq_ok_iff,
    textProperty_eq_ok_iff, and_assoc, variableOutline]

lemma argumentProperty_eq_ok_iff : (argumentProperty element p).outcome = .ok part ↔
    (p.1.isText = true ∧ p.2.isText = true) ∧ part = argumentOutline p := by
  simp [argumentProperty, Report.bind_eq_ok_iff, Report.map_eq_ok_iff, legalText_eq_ok_iff,
    textProperty_eq_ok_iff, and_assoc, argumentOutline]

lemma headerProperty_eq_ok_iff : (headerProperty element p).outcome = .ok part ↔
    (p.1.isText = true ∧ p.2.isText = true) ∧ part = headerOutline p := by
  simp [headerProperty, Report.bind_eq_ok_iff, Report.map_eq_ok_iff, textProperty_eq_ok_iff, and_assoc,
    headerOutline]

lemma testString_eq_ok_iff : (testString element v).outcome = .ok part ↔
    v.isText = true ∧ part = testStringOutline v := by
  cases v with
  | text t => exact textProperty_eq_ok_iff
  | _ => simp [testString, Report.fail, Value.isText]

lemma forall_pairTexts_iff {pairs : List Pair} {q : Value → Prop} :
    (∀ v ∈ pairTexts pairs, q v) ↔ ∀ p ∈ pairs, q p.1 ∧ q p.2 := by
  simp only [pairTexts, List.mem_flatMap, List.mem_cons, List.not_mem_nil, or_false, forall_exists_index,
    and_imp]
  constructor
  · exact fun h p hp => ⟨h p.1 p hp (.inl rfl), h p.2 p hp (.inr rfl)⟩
  · rintro h v p hp (rfl | rfl)
    · exact (h p hp).1
    · exact (h p hp).2

lemma requestArguments_eq_ok_iff {arguments : List Pair} :
    (requestArguments element arguments).outcome = .ok part ↔
      (∀ v ∈ pairTexts arguments, v.isText = true) ∧ part = argumentsOutline arguments := by
  simp [requestArguments, Report.map_eq_ok_iff,
    Report.mapM_eq_ok_iff (fun _ _ => argumentProperty_eq_ok_iff), forall_pairTexts_iff, and_assoc,
    argumentsOutline]

lemma requestBody_eq_ok_iff {body : Value} : (requestBody element body).outcome = .ok parts ↔
    body.isText = true ∧ parts = bodyOutline body := by
  simp [requestBody, Report.map_eq_ok_iff, textProperty_eq_ok_iff, and_assoc,
    bodyOutline]

end

/-! ## Kinds of elements -/

/-- What a request sends as texts: its body, or its arguments when there is none. -/
def HttpSampler.sentTexts (sampler : HttpSampler) : List Value :=
  match sampler.body with
  | .null => pairTexts sampler.arguments
  | body => [body]

/-- **The settings that are written as texts.** -/
def Settings.emittedTexts : Settings → List Value
  | httpSampler s => s.sentTexts ++ [s.path, s.method, s.connectTimeout, s.responseTimeout]
  | responseAssertion s => s.testStrings ++ [s.customMessage, s.testField]
  | settings => settings.texts

/-- **The properties of settings** as they are written. -/
def Settings.written : Settings → List Markup
  | responseAssertion s =>
    [ collection "Asserion.test_strings" (s.testStrings.map testStringOutline),
      textLeaf "Assertion.custom_message" s.customMessage,
      textLeaf "Assertion.test_field" s.testField,
      truthProperty "Assertion.assume_success" s.assumeSuccess,
      .leaf "intProp" [("name", "Assertion.test_type")] s.testType.shownText ]
  | durationAssertion s => [textLeaf "DurationAssertion.duration" (.text s.maxDuration.shownText)]
  | settings => settings.outline

section

variable {element : Text} {parts : List Markup}

lemma HttpSampler.content_eq_ok_iff {sampler : HttpSampler} :
    (sampler.content element).outcome = .ok parts ↔
      (∀ v ∈ sampler.sentTexts, v.isText = true) ∧ parts = sampler.contentOutline := by
  rw [HttpSampler.content, HttpSampler.sentTexts, HttpSampler.contentOutline]
  cases sampler.body with
  | null =>
      simp [Report.map_eq_ok_iff, requestArguments_eq_ok_iff, and_assoc]
  | _ => simp [requestBody_eq_ok_iff]

/-- **Settings are written** if what is written as texts is texts and the integers can be shown. -/
theorem Settings.properties_eq_ok_iff {settings : Settings} :
    (settings.properties element).outcome = .ok parts ↔
      ((∀ v ∈ settings.emittedTexts, v.isText = true) ∧ ∀ v ∈ settings.integers, v.hasDecimal = true) ∧
        parts = settings.written := by
  cases settings with
  | testPlan plan =>
      simp [properties, TestPlan.properties, emittedTexts, texts, integers, written, outline,
        TestPlan.outline, Report.bind_eq_ok_iff, Report.map_eq_ok_iff, textProperty_eq_ok_iff,
        Report.mapM_eq_ok_iff (fun _ _ => variableProperty_eq_ok_iff), forall_pairTexts_iff, and_assoc]
  | httpDefaults defaults =>
      simp [properties, HttpDefaults.properties, emittedTexts, texts, integers, written, outline,
        HttpDefaults.outline, Report.bind_eq_ok_iff, Report.map_eq_ok_iff, textProperty_eq_ok_iff,
        requestArguments_eq_ok_iff, pairTexts, and_assoc]
  | threadGroup group =>
      simp [properties, ThreadGroup.properties, emittedTexts, texts, integers, written, outline,
        ThreadGroup.outline, Report.bind_eq_ok_iff, Report.map_eq_ok_iff, textProperty_eq_ok_iff, and_assoc]
  | httpSampler sampler =>
      simp [properties, HttpSampler.properties, emittedTexts, integers, written, outline,
        HttpSampler.outline, Report.bind_eq_ok_iff, Report.map_eq_ok_iff, textProperty_eq_ok_iff,
        HttpSampler.content_eq_ok_iff, or_imp, forall_and, and_assoc]
  | responseAssertion assertion =>
      simp [properties, ResponseAssertion.properties, emittedTexts, integers, written, Report.bind_eq_ok_iff,
        Report.map_eq_ok_iff, textProperty_eq_ok_iff, Report.mapM_eq_ok_iff (fun _ _ => testString_eq_ok_iff),
        Value.shown_eq_ok_iff, or_imp, forall_and, and_assoc]
  | durationAssertion assertion =>
      simp [properties, DurationAssertion.properties, emittedTexts, texts, integers, written,
        Report.bind_eq_ok_iff, Report.map_eq_ok_iff, textProperty_eq_ok_iff, Value.shown_eq_ok_iff,
        Value.isText_text, and_assoc]
  | jsonExtractor extractor =>
      simp [properties, JsonExtractor.properties, emittedTexts, texts, integers, written, outline,
        JsonExtractor.outline, Report.bind_eq_ok_iff, Report.map_eq_ok_iff, textProperty_eq_ok_iff, and_assoc]
  | headerManager manager =>
      simp [properties, HeaderManager.properties, emittedTexts, texts, integers, written, outline,
        HeaderManager.outline, Report.map_eq_ok_iff,
        Report.mapM_eq_ok_iff (fun _ _ => headerProperty_eq_ok_iff), forall_pairTexts_iff, and_assoc]
  | authManager manager =>
      simp [properties, AuthManager.properties, emittedTexts, texts, integers, written, outline,
        AuthManager.outline, Report.bind_eq_ok_iff, Report.map_eq_ok_iff, textProperty_eq_ok_iff, and_assoc]
  | csvDataSet data =>
      simp [properties, CsvDataSet.properties, emittedTexts, texts, integers, written, outline,
        CsvDataSet.outline, Report.bind_eq_ok_iff, Report.map_eq_ok_iff, textProperty_eq_ok_iff, and_assoc]
  | resultCollector collector =>
      simp [properties, ResultCollector.properties, emittedTexts, texts, integers, written, outline,
        ResultCollector.outline, Report.map_eq_ok_iff, textProperty_eq_ok_iff, and_assoc]
  | bare _ => simp [properties, emittedTexts, texts, integers, written, outline]

end

/-! ## Elements -/

namespace Element

/-- **An element that can be written** apart from its display. -/
structure IsPrintable (element : Element) : Prop where
  /-- The kind is one of the eleven. -/
  supported : element.settings.isSupported = true
  /-- The name is a text. -/
  name : element.name.isText = true
  /-- What is written as texts is texts. -/
  texts : ∀ v ∈ element.settings.emittedTexts, v.isText = true
  /-- Where integers belong, there are values that have texts. -/
  integers : ∀ v ∈ element.settings.integers, v.hasDecimal = true

/-- **An element as it is written**, without what is below it. -/
def ownWritten (element : Element) : Markup :=
  .branch element.settings.tag
    [ ("guiclass", element.settings.display), ("testclass", element.settings.tag),
      ("testname", element.name.asText.legal), ("enabled", truthText element.enabled) ]
    element.settings.written

mutual

/-- **An element and the container of what is below it**, when it is known how each element is written. -/
def laid (own : Element → Markup) : Element → List Markup
  | mk name enabled settings children =>
    [own (mk name enabled settings children), container (allLaid own children)]

def allLaid (own : Element → Markup) : List Element → List Markup
  | [] => []
  | first :: rest => first.laid own ++ allLaid own rest

end

lemma laid_eq_allLaid (own : Element → Markup) (element : Element) :
    element.laid own = allLaid own [element] := (List.append_nil _).symm

lemma walk_eq_walkAll (element : Element) : element.walk = walkAll [element] := (List.append_nil _).symm

end Element

lemma emitOwn_eq_ok_iff (element : Element) {own : Markup} :
    (emitOwn element.name element.enabled element.settings).outcome = .ok own ↔
      element.IsPrintable ∧ own = element.ownWritten := by
  have hprintable : element.IsPrintable ↔ element.settings.isSupported = true ∧ element.name.isText = true ∧
      (∀ v ∈ element.settings.emittedTexts, v.isText = true) ∧
        ∀ v ∈ element.settings.integers, v.hasDecimal = true :=
    ⟨fun h => ⟨h.1, h.2, h.3, h.4⟩, fun ⟨hs, hn, ht, hi⟩ => ⟨hs, hn, ht, hi⟩⟩
  rw [hprintable, Element.ownWritten]
  by_cases hsupported : element.settings.isSupported = true
  · cases hname : element.name with
    | text t =>
        rw [emitOwn_eq hsupported]
        simp [hsupported, Report.bind_eq_ok_iff, Report.map_eq_ok_iff, legalText_eq_ok_iff,
          Settings.properties_eq_ok_iff, Value.isText, Value.asText, and_assoc]
    | _ =>
        cases hsettings : element.settings with
        | bare kind =>
            rw [hsettings] at hsupported
            cases hsupported
        | _ => simp [emitOwn, Report.fail, Value.isText]
  · obtain ⟨kind, hbare⟩ := Settings.exists_bare hsupported
    simp [hbare, Settings.isSupported, emitOwn, Report.fail]

mutual

/-- **A plan is written** if each of its elements is, and what is written stands in pairs. -/
theorem emit_eq_ok_iff : ∀ (element : Element) {content : List Markup},
    (emit element).outcome = .ok content ↔
      (∀ e ∈ element.walk, e.IsPrintable) ∧ content = element.laid Element.ownWritten
  | .mk name enabled settings children, content => by
      have hown : ∀ {own : Markup}, (emitOwn name enabled settings).outcome = .ok own ↔
          (Element.mk name enabled settings children).IsPrintable ∧
            own = (Element.mk name enabled settings children).ownWritten :=
        emitOwn_eq_ok_iff (.mk name enabled settings children)
      simp [emit, Report.bind_eq_ok_iff, Report.map_eq_ok_iff, hown, emitAll_eq_ok_iff children,
        Element.walk, Element.laid, and_assoc]

theorem emitAll_eq_ok_iff : ∀ (elements : List Element) {content : List Markup},
    (emitAll elements).outcome = .ok content ↔
      (∀ e ∈ Element.walkAll elements, e.IsPrintable) ∧ content = Element.allLaid Element.ownWritten elements
  | [], content => by simp [emitAll, Element.walkAll, Element.allLaid]
  | first :: rest, content => by
      simp [emitAll, Report.bind_eq_ok_iff, Report.map_eq_ok_iff, emit_eq_ok_iff first,
        emitAll_eq_ok_iff rest, Element.walkAll, Element.allLaid, or_imp, forall_and, and_assoc]

end

end Plan

end LoadPlan
