import LoadPlan.Proofs.Compile.Recording
import LoadPlan.Proofs.Plan.Emitting
import LoadPlan.Proofs.Plan.Finding

/-!
# Remarks on characters that are left out

Characters that XML cannot carry are left out of the texts of a plan.  For each name of elements there is one
remark, however many of its texts are concerned.

* `Element.Strips` — an element with such a character in its name or in a setting that is written as a text.
* `reached` — the elements that are written before an integer of too many digits ends the writing.
* **`stripping_reported`** — what is remarked on while a plan is written, and which element is named if one of
them is of a kind that has no written form.
-/

namespace LoadPlan

/-! ## Remarks of several stages -/

namespace Report

variable {α β : Type} {d : Diagnostic}

lemma mem_notes_bind {report : Report α} {next : α → Report β} :
    d ∈ (report >>= next).notes ↔ d ∈ report.notes ∨ ∃ a, report.outcome = .ok a ∧ d ∈ (next a).notes := by
  cases h : report.outcome with
  | error fault => simp [bind_of_error h]
  | ok a => simp [bind_of_ok h]

lemma notes_map {report : Report α} {f : α → β} : (f <$> report).notes = report.notes := by
  rw [map_eq_pure_bind, notes_bind_pure]

lemma mem_notes_mapM {f : α → Report β} {xs : List α} (h : ∀ x ∈ xs, (f x).Returns) :
    d ∈ (xs.mapM f).notes ↔ ∃ x ∈ xs, d ∈ (f x).notes := by
  induction xs with
  | nil => simp
  | cons x xs ih =>
      obtain ⟨a, ha⟩ := h x List.mem_cons_self
      rw [List.mapM_cons, bind_of_ok ha]
      simp only [notes_bind_pure, List.mem_append, ih fun y hy => h y (List.mem_cons_of_mem x hy), List.mem_cons,
        exists_eq_or_imp]

end Report

/-- Whether a text holds a character that XML cannot carry. -/
def Value.isIllegal (v : Value) : Bool := v.asText.any Rune.isIllegal

/-- The decimal text of an integer has no such character. -/
lemma Value.isIllegal_of_shown {v : Value} (h : v.isInteger = true) {t : Text} (ht : v.shown = .ok t) :
    (Value.text t).isIllegal = false := by
  cases v with
  | int i =>
      simp only [shown, literal, integerText_eq_ok_iff] at ht
      obtain ⟨-, rfl⟩ := ht
      rw [isIllegal, asText, List.any_eq_false]
      intro r hr
      simp [Text.isIllegal_of_mem_ofInt hr]
  | _ => cases h

namespace Plan

open Report

section

variable {element : Text} {d : Diagnostic}

lemma mem_notes_legalText {v : Value} :
    d ∈ (legalText element v).notes ↔ v.isIllegal = true ∧ d = strippingRemark element := by
  cases v with
  | text t =>
      rw [legalText, Value.isIllegal, Value.asText]
      split_ifs with h
      · show d ∈ [strippingRemark element] ++ [] ↔ _
        simp [h]
      · simp [h]
  | _ => simp [legalText, fail, Value.isIllegal, Value.asText]

lemma mem_notes_textProperty {name : Text} {v : Value} :
    d ∈ (textProperty element name v).notes ↔ v.isIllegal = true ∧ d = strippingRemark element := by
  rw [textProperty, notes_bind_pure, mem_notes_legalText]

lemma mem_notes_testString {v : Value} (h : v.isText = true) :
    d ∈ (testString element v).notes ↔ v.isIllegal = true ∧ d = strippingRemark element := by
  rw [Value.eq_text_of_isText h]
  exact mem_notes_textProperty

section

variable {p : Pair}

/-- The name of a variable or an argument is written twice. -/
lemma mem_notes_variableProperty (h : p.1.isText = true) : d ∈ (variableProperty element p).notes ↔
    ∃ v ∈ [p.1, p.2], v.isIllegal = true ∧ d = strippingRemark element := by
  simp [variableProperty, mem_notes_bind, notes_map, legalText_eq_ok_iff, textProperty_eq_ok_iff,
    mem_notes_legalText, mem_notes_textProperty, h]

lemma mem_notes_argumentProperty (h : p.1.isText = true) : d ∈ (argumentProperty element p).notes ↔
    ∃ v ∈ [p.1, p.2], v.isIllegal = true ∧ d = strippingRemark element := by
  simp [argumentProperty, mem_notes_bind, notes_map, legalText_eq_ok_iff, textProperty_eq_ok_iff,
    mem_notes_legalText, mem_notes_textProperty, h]

lemma mem_notes_headerProperty (h : p.1.isText = true) : d ∈ (headerProperty element p).notes ↔
    ∃ v ∈ [p.1, p.2], v.isIllegal = true ∧ d = strippingRemark element := by
  simp [headerProperty, mem_notes_bind, notes_map, textProperty_eq_ok_iff, mem_notes_textProperty, h]

end

/-- Names and values that are written one pair after another. -/
lemma mem_notes_pairs {f : Pair → Report Markup} {g : Pair → Markup} {pairs : List Pair}
    (hok : ∀ p : Pair, p.1.isText = true → p.2.isText = true → (f p).outcome = .ok (g p))
    (hnotes : ∀ p : Pair, p.1.isText = true → (d ∈ (f p).notes ↔
      ∃ v ∈ [p.1, p.2], v.isIllegal = true ∧ d = strippingRemark element))
    (h : ∀ v ∈ pairTexts pairs, v.isText = true) : d ∈ (pairs.mapM f).notes ↔
      ∃ v ∈ pairTexts pairs, v.isIllegal = true ∧ d = strippingRemark element := by
  rw [forall_pairTexts_iff] at h
  rw [mem_notes_mapM fun p hp => ⟨g p, hok p (h p hp).1 (h p hp).2⟩]
  simp only [pairTexts, List.mem_flatMap]
  constructor
  · rintro ⟨p, hp, hd⟩
    obtain ⟨v, hv, hd⟩ := (hnotes p (h p hp).1).mp hd
    exact ⟨v, ⟨p, hp, hv⟩, hd⟩
  · rintro ⟨v, ⟨p, hp, hv⟩, hd⟩
    exact ⟨p, hp, (hnotes p (h p hp).1).mpr ⟨v, hv, hd⟩⟩

lemma mem_notes_requestArguments {arguments : List Pair} (h : ∀ v ∈ pairTexts arguments, v.isText = true) :
    d ∈ (requestArguments element arguments).notes ↔
      ∃ v ∈ pairTexts arguments, v.isIllegal = true ∧ d = strippingRemark element := by
  rw [requestArguments, notes_bind_pure]
  exact mem_notes_pairs (fun _ => argumentProperty_outcome element) (fun _ => mem_notes_argumentProperty) h

lemma mem_notes_content {sampler : HttpSampler} (h : ∀ v ∈ sampler.sentTexts, v.isText = true) :
    d ∈ (sampler.content element).notes ↔
      ∃ v ∈ sampler.sentTexts, v.isIllegal = true ∧ d = strippingRemark element := by
  rw [HttpSampler.sentTexts] at h ⊢
  rw [HttpSampler.content]
  cases hbody : sampler.body with
  | null =>
      rw [hbody] at h
      simp only [notes_bind_pure]
      exact mem_notes_requestArguments h
  | _ => simp [requestBody, notes_map, mem_notes_textProperty]

end

/-! ## Elements -/

lemma Settings.mem_texts_of_emittedTexts {settings : Settings} {v : Value} (h : v ∈ settings.emittedTexts) :
    v ∈ settings.texts := by
  cases settings with
  | httpSampler sampler =>
      rw [emittedTexts, HttpSampler.sentTexts, List.mem_append] at h
      rw [texts, List.append_assoc, List.mem_append, or_comm]
      refine h.imp (fun hsent => ?_) id
      cases hbody : sampler.body with
      | null =>
          rw [hbody] at hsent
          exact List.mem_append_right _ hsent
      | _ =>
          rw [hbody] at hsent
          exact List.mem_append_left _ hsent
  | responseAssertion assertion => exact List.mem_append.mpr (List.mem_append.mp h).symm
  | _ => exact h

/-- **What is remarked on the settings of an element** is that a text of them cannot be written as it is. -/
lemma Settings.mem_notes_properties {settings : Settings} {element : Text} {d : Diagnostic}
    (h : settings.IsTyped) : d ∈ (settings.properties element).notes ↔
      ∃ v ∈ settings.emittedTexts, v.isIllegal = true ∧ d = strippingRemark element := by
  have htexts : ∀ v ∈ settings.emittedTexts, v.isText = true :=
    fun v hv => h.texts v (mem_texts_of_emittedTexts hv)
  cases settings with
  | testPlan plan =>
      simp only [emittedTexts, texts, List.forall_mem_cons] at htexts
      have hvariables : d ∈ (plan.userVariables.mapM (variableProperty element)).notes ↔ _ :=
        mem_notes_pairs (fun _ => variableProperty_outcome element) (fun _ => mem_notes_variableProperty) htexts.2
      simp [properties, TestPlan.properties, mem_notes_bind, notes_map, textProperty_eq_ok_iff,
        mem_notes_textProperty, emittedTexts, texts, htexts.1, hvariables]
  | httpDefaults defaults =>
      simp [emittedTexts, texts] at htexts
      simp [properties, HttpDefaults.properties, mem_notes_bind, notes_map, textProperty_eq_ok_iff,
        mem_notes_textProperty, requestArguments_eq_ok_iff, mem_notes_requestArguments, pairTexts, emittedTexts,
        texts, htexts]
  | threadGroup group =>
      simp [emittedTexts, texts] at htexts
      simp [properties, ThreadGroup.properties, mem_notes_bind, notes_map, textProperty_eq_ok_iff,
        mem_notes_textProperty, emittedTexts, texts, htexts]
  | httpSampler sampler =>
      simp only [emittedTexts, List.forall_mem_append, List.forall_mem_cons] at htexts
      have hcontent : d ∈ (sampler.content element).notes ↔ _ := mem_notes_content htexts.1
      simp [properties, HttpSampler.properties, mem_notes_bind, notes_map, textProperty_eq_ok_iff,
        mem_notes_textProperty, HttpSampler.content_eq_ok_iff, emittedTexts, htexts.2, hcontent,
        and_iff_right htexts.1, or_and_right, exists_or]
  | responseAssertion assertion =>
      simp only [emittedTexts, List.forall_mem_append, List.forall_mem_cons] at htexts
      have hstrings : d ∈ (assertion.testStrings.mapM (testString element)).notes ↔
          ∃ v ∈ assertion.testStrings, v.isIllegal = true ∧ d = strippingRemark element := by
        rw [mem_notes_mapM fun v hv => ⟨_, testString_outcome element (htexts.1 v hv)⟩]
        exact exists_congr fun v => and_congr_right fun hv => mem_notes_testString (htexts.1 v hv)
      simp [properties, ResponseAssertion.properties, mem_notes_bind, notes_map, textProperty_eq_ok_iff,
        mem_notes_textProperty, mapM_eq_ok_iff (fun _ _ => testString_eq_ok_iff), emittedTexts, htexts.2,
        hstrings, and_iff_right htexts.1, or_and_right, exists_or]
  | durationAssertion assertion =>
      have hlegal : ∀ t, assertion.maxDuration.shown = .ok t → (Value.text t).isIllegal = false :=
        fun t => Value.isIllegal_of_shown (h.integers _ List.mem_cons_self)
      simp +contextual [properties, DurationAssertion.properties, mem_notes_bind, notes_map,
        mem_notes_textProperty, emittedTexts, texts, hlegal]
  | jsonExtractor extractor =>
      simp [emittedTexts, texts] at htexts
      simp [properties, JsonExtractor.properties, mem_notes_bind, notes_map, textProperty_eq_ok_iff,
        mem_notes_textProperty, emittedTexts, texts, htexts]
  | headerManager manager =>
      have hheaders : d ∈ (manager.headers.mapM (headerProperty element)).notes ↔ _ :=
        mem_notes_pairs (fun _ => headerProperty_outcome element) (fun _ => mem_notes_headerProperty) htexts
      simp [properties, HeaderManager.properties, notes_map, emittedTexts, texts, hheaders]
  | authManager manager =>
      simp [emittedTexts, texts] at htexts
      simp [properties, AuthManager.properties, mem_notes_bind, notes_map, textProperty_eq_ok_iff,
        mem_notes_textProperty, emittedTexts, texts, htexts]
  | csvDataSet data =>
      simp [emittedTexts, texts] at htexts
      simp [properties, CsvDataSet.properties, mem_notes_bind, notes_map, textProperty_eq_ok_iff,
        mem_notes_textProperty, emittedTexts, texts, htexts]
  | resultCollector collector =>
      simp [properties, ResultCollector.properties, notes_map, mem_notes_textProperty, emittedTexts, texts]
  | bare _ => cases h.supported

/-- **An element with a character that XML cannot carry** in its name or in a setting that is written as a text.
The display of a listener is written as it is, and does not count. -/
def Element.Strips (element : Element) : Prop :=
  ∃ v ∈ element.name :: element.settings.emittedTexts, v.isIllegal = true

instance (element : Element) : Decidable element.Strips :=
  inferInstanceAs (Decidable (∃ v ∈ element.name :: element.settings.emittedTexts, v.isIllegal = true))

/-- **What is remarked on an element** is that one of its texts cannot be written as it is. -/
lemma mem_notes_emitStep {element : Element} (h : element.IsTyped) {d : Diagnostic} :
    d ∈ (emitStep element).notes ↔ element.Strips ∧ d = strippingRemark element.name.asText := by
  obtain ⟨t, ht⟩ : ∃ t, element.name = .text t := ⟨_, Value.eq_text_of_isText h.name⟩
  rw [emitStep, discard_eq, notes_bind_pure, Element.Strips, ht, emitOwn_eq h.settings.supported]
  simp [mem_notes_bind, notes_map, legalText_eq_ok_iff, mem_notes_legalText,
    Settings.mem_notes_properties h.settings, Value.isText, Value.asText, or_and_right, ← exists_and_right,
    exists_or, and_assoc]

/-- A well-typed element is written unless it holds an integer of too many digits. -/
lemma returns_emitStep_iff {element : Element} (h : element.IsTyped) :
    (emitStep element).Returns ↔ element.HasDecimals := by
  rw [emitStep, discard_eq, returns_bind_pure]
  refine ⟨?_, fun hd => ⟨element.ownWritten, (emitOwn_eq_ok_iff element).mpr ⟨?_, rfl⟩⟩⟩
  · rintro ⟨own, hown⟩
    exact ((emitOwn_eq_ok_iff element).mp hown).1.integers
  · exact ⟨h.settings.supported, h.name,
      fun v hv => h.settings.texts v (Settings.mem_texts_of_emittedTexts hv), hd⟩

/-- **The elements that are written before an integer of too many digits ends the writing**, with the one that
holds it. -/
def reached : List Element → List Element
  | [] => []
  | element :: rest => element :: if element.HasDecimals then reached rest else []

lemma reached_eq_self {elements : List Element} (h : ∀ e ∈ elements, e.HasDecimals) :
    reached elements = elements := by
  induction elements with
  | nil => rfl
  | cons element rest ih =>
      rw [reached, if_pos (h element List.mem_cons_self), ih fun e he => h e (List.mem_cons_of_mem element he)]

lemma mem_of_mem_reached {element : Element} : ∀ {elements : List Element}, element ∈ reached elements →
    element ∈ elements
  | first :: rest, h => by
      rw [reached, List.mem_cons] at h
      rcases h with rfl | h
      · exact List.mem_cons_self
      · split_ifs at h
        · exact List.mem_cons_of_mem first (mem_of_mem_reached h)
        · cases h

/-- What is remarked on a walk is what is remarked on the elements that it reaches. -/
lemma notes_forM {elements : List Element} (h : ∀ e ∈ elements, e.IsTyped) :
    (forM elements emitStep).notes = (reached elements).flatMap fun e => (emitStep e).notes := by
  induction elements with
  | nil => rfl
  | cons element rest ih =>
      rw [List.forall_mem_cons] at h
      rw [List.forM_cons, reached, List.flatMap_cons]
      split_ifs with hd
      · obtain ⟨a, ha⟩ := (returns_emitStep_iff h.1).mpr hd
        rw [bind_of_ok ha, ih h.2]
      · have hstopped := mt (returns_emitStep_iff h.1).mp hd
        cases houtcome : (emitStep element).outcome with
        | ok a => exact absurd ⟨a, houtcome⟩ hstopped
        | error fault =>
            rw [bind_of_error houtcome]
            exact (List.append_nil _).symm

end Plan

/-- Remarks that are made several times for one thing are recorded like one remark for each. -/
lemma Log.addAll_flatMap {α : Type} {p : α → Prop} [DecidablePred p] {chunk : α → List Diagnostic}
    {remark : α → Diagnostic} {xs : List α} (h : ∀ x ∈ xs, ∀ d, d ∈ chunk x ↔ p x ∧ d = remark x) (log : Log) :
    log.addAll (xs.flatMap chunk) = log.addAll ((xs.filter p).map remark) := by
  induction xs generalizing log with
  | nil => rfl
  | cons x xs ih =>
      rw [List.forall_mem_cons] at h
      rw [List.flatMap_cons, Log.addAll_append, ih h.2, List.filter_cons]
      cases hchunk : chunk x with
      | nil =>
          have hp : ¬ p x := fun hp => by simpa [hchunk, hp] using h.1 (remark x)
          rw [if_neg (by simpa using hp)]
          rfl
      | cons first more =>
          have hall : ∀ d ∈ first :: more, p x ∧ d = remark x := fun d hd => (h.1 d).mp (hchunk ▸ hd)
          obtain ⟨hp, rfl⟩ := hall first List.mem_cons_self
          have hmore : ∀ d ∈ more, d ∈ (log.add (remark x)).items := by
            intro d hd
            rw [(hall d (List.mem_cons_of_mem _ hd)).2]
            exact Log.mem_add.mpr (.inr rfl)
          rw [if_pos (by simpa using hp), List.map_cons, Log.addAll_cons, Log.addAll_of_mem hmore,
            Log.addAll_cons]

namespace Plan

open Report

/-! ## Elements of other kinds -/

section

variable {kind : Text}

lemma attributeValue_ne (v : Value) : attributeValue v ≠ .error (.render (.unsupportedElement kind)) := by
  intro h
  unfold attributeValue at h
  split at h
  · cases h
  · cases hliteral : v.literal with
    | error fault =>
        rw [hliteral] at h
        obtain rfl := (Value.spelled_literal v).eq_of_error hliteral
        cases h
    | ok shown =>
        rw [hliteral, ok_bind] at h
        split_ifs at h <;> cases h

/-- That an element is of another kind is not noticed in its display. -/
lemma checkDisplays_ne (plan : Element) : checkDisplays plan ≠ .error (.render (.unsupportedElement kind)) := by
  intro h
  unfold checkDisplays at h
  obtain ⟨-, e, -, -, -, he⟩ := forM_eq_error_iff.mp h
  exact attributeValue_ne _ (discard_except_eq_error_iff.mp he)

/-- Nor is it noticed in the document. -/
lemma documentText_ne (markup : Markup) : documentText markup ≠ .error (.unsupportedElement kind) := by
  intro h
  simp only [documentText] at h
  split at h
  · cases h
  · split_ifs at h
    · unfold Markup.read at h
      split at h <;> cases h
    · split at h <;> cases h

/-- A plan is refused for an element of another kind while its elements are written. -/
lemma emit_of_render {plan : Element}
    (h : (render plan).outcome = .error (.render (.unsupportedElement kind))) :
    (emit plan).outcome = .error (.render (.unsupportedElement kind)) := by
  rw [render, Report.bind_outcome] at h
  cases hemit : (emit plan).outcome with
  | error fault =>
      rw [hemit, error_bind] at h
      exact congrArg Except.error (Except.error.inj h)
  | ok content =>
      rw [hemit, ok_bind, Report.bind_outcome, ofExcept_outcome] at h
      cases hdisplays : checkDisplays plan with
      | error fault =>
          rw [hdisplays, error_bind] at h
          obtain rfl := Except.error.inj h
          exact absurd hdisplays (checkDisplays_ne plan)
      | ok =>
          rw [hdisplays, ok_bind, ofExcept_outcome] at h
          cases htext : documentText (planDocument content) with
          | ok text =>
              rw [htext] at h
              cases h
          | error fault =>
              rw [htext] at h
              obtain rfl := Fault.render.inj (Except.error.inj h)
              exact absurd htext (documentText_ne _)

/-- Only an element of the kind that is named can be the cause, and no such element can be written. -/
lemma bare_of_emitStep {element : Element}
    (h : (emitStep element).outcome = .error (.render (.unsupportedElement kind))) :
    element.settings = .bare kind := by
  rcases (within_emitOwn _ _ _).fault _ (discard_eq_error_iff.mp h) with hno | ⟨other, hbare, hkind⟩
  · exact False.elim hno
  · rw [hbare, RenderFault.unsupportedElement.inj (Fault.render.inj hkind)]

lemma isSupported_of_returns {element : Element} (h : (emitStep element).Returns) :
    element.settings.isSupported = true := by
  obtain ⟨own, hown⟩ := returns_discard_iff.mp h
  exact ((emitOwn_eq_ok_iff element).mp hown).1.supported

end

/-! ## Plans -/

lemma strippingRemark_injective : Function.Injective strippingRemark :=
  fun _ _ h => congrArg Diagnostic.context h

/-- **The remarks on a plan, and the element that is named.**  For a well-typed plan there is one remark for each
name of elements that characters are left out of, in the order of a walk; nothing else is remarked on, and a
document holds no display that characters would have to be left out of.  Where a plan is refused since an
element of it is of a kind that has no written form, it is the kind of the first such element of a walk that is
named. -/
theorem stripping_reported (plan : Element) :
    ((∀ e ∈ plan.walk, e.IsTyped) →
      (Log.ofNotes (render plan).notes).items =
        (((reached plan.walk).filter (·.Strips)).map (·.name.asText)).eraseDups.map strippingRemark ∧
      ((∀ e ∈ plan.walk, e.HasDecimals) → reached plan.walk = plan.walk) ∧
      ∀ document, (render plan).outcome = .ok document →
        ∀ e ∈ plan.walk, e.HasDecimals ∧ e.HasLegalDisplay) ∧
    ∀ kind, (render plan).outcome = .error (.render (.unsupportedElement kind)) →
      ∃ before e after, plan.walk = before ++ e :: after ∧
        (∀ b ∈ before, b.settings.isSupported = true) ∧ e.settings = .bare kind ∧
        (RenderFault.unsupportedElement kind).message =
          "No serializer for plan element type " ++ e.settings.kind := by
  refine ⟨fun h => ⟨?_, reached_eq_self, fun document hdocument e he => ⟨?_, ?_⟩⟩, fun kind hkind => ?_⟩
  · have hchunks : ∀ e ∈ reached plan.walk, ∀ d, d ∈ (emitStep e).notes ↔
        e.Strips ∧ d = strippingRemark e.name.asText :=
      fun e he d => mem_notes_emitStep (h e (mem_of_mem_reached he))
    rw [notes_render, notes_forM h, Log.ofNotes, Log.addAll_flatMap hchunks, ← Log.ofNotes,
      Log.ofNotes_eq_eraseDups, ← eraseDups_map strippingRemark_injective, List.map_map]
    rfl
  · exact ((documentText_of_render hdocument).1 e he).integers
  · exact hasLegalDisplay_of_render (fun e he => (h e he).settings.display) hdocument e he
  · have hemit := discard_eq_error_iff.mpr (emit_of_render hkind)
    rw [discard_emit, outcome_forM, forM_eq_error_iff] at hemit
    obtain ⟨before, e, after, hwalk, hbefore, he⟩ := hemit
    have hbare := bare_of_emitStep he
    refine ⟨before, e, after, hwalk, fun b hb => isSupported_of_returns ⟨(), hbefore b hb⟩, hbare, ?_⟩
    rw [hbare]
    rfl

/-- A plan with elements of two kinds that have no written form, the first of them one level deeper. -/
def mixed : Element :=
  .of "Plan" (.testPlan {})
    [.of "Users" (.threadGroup {}) [.of "a" (.bare "Timer") []], .of "b" (.bare "PlanElement") []]

/-- Characters are left out of two elements of the plan that is hard to write.  Of the plan with elements of two
other kinds, the kind that is named is that of the first of them, and not that of the second. -/
theorem specimen_stripped :
    (Log.ofNotes (render specimen).notes).items = ["Users", "Send"].map strippingRemark ∧
      (render mixed).outcome = .error (.render (.unsupportedElement "Timer")) ∧
      (mixed.walk.filter (!·.settings.isSupported)).map (·.settings.kind) = ["Timer", "PlanElement"] ∧
      ∃ before e after, mixed.walk = before ++ e :: after ∧
        (∀ b ∈ before, b.settings.isSupported = true) ∧ e.settings = .bare "Timer" ∧
        (RenderFault.unsupportedElement "Timer").message =
          "No serializer for plan element type " ++ e.settings.kind := by
  obtain ⟨hitems, hwhole, -⟩ := (stripping_reported specimen).1 specimen_isTyped
  have hnames : ((specimen.walk.filter (·.Strips)).map (·.name.asText)).eraseDups = ["Users", "Send"] := by
    decide
  have hnamed : (render mixed).outcome = .error (.render (.unsupportedElement "Timer")) := rfl
  refine ⟨?_, hnamed, rfl, (stripping_reported mixed).2 "Timer" hnamed⟩
  rw [hitems, hwhole specimen_hasDecimals, hnames]

/-- A listener whose display cannot stand in a document. -/
def unshown : Element := .of "n" (.resultCollector { guiClass := .text "a\u0001" }) []

/-- **Nothing is remarked on a display**, and there is no document. -/
theorem unshown_silent : unshown.IsTyped ∧ unshown.settings.guiClass.isIllegal = true ∧
    (Log.ofNotes (render unshown).notes).items = [] ∧ ∀ document, (render unshown).outcome ≠ .ok document := by
  have htyped : ∀ e ∈ unshown.walk, e.IsTyped := by decide
  refine ⟨by decide, by decide, ?_, fun document hdocument => ?_⟩
  · rfl
  · have hlegal := hasLegalDisplay_of_render (fun e he => (htyped e he).settings.display) hdocument
    revert hlegal
    decide

end Plan

end LoadPlan
