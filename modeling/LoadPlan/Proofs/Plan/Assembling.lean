import LoadPlan.Proofs.Operation.Extracting
import LoadPlan.Proofs.Plan.Ready

/-!
# Sound specifications have plans

Assembling the plan of a sound specification with a sound configuration comes to an end, and the plan can
be written.

* `Config.IsSound` — a configuration with texts for the name of the plan and for the address, and with
  numbers that are not too long.
* `Specification.IsSound` — a specification in a sound document, with an address.
* **`yields_sampler`** — a sound operation has a request.
* **`yields_assemble`** — a sound specification has a plan that can be written.
-/

namespace LoadPlan

/-! ## Sound configurations and specifications -/

/-- The numbers of a configuration. -/
def Config.numbers (config : Config) : List Nat :=
  [ config.threadCount, config.rampUpTime, config.loopCount, config.connectionTimeout,
    config.responseTimeout, config.responseTimeThreshold, config.throughputThreshold,
    config.errorRateThreshold ] ++ config.duration?.toList

/-- **A sound configuration.** -/
structure Config.IsSound (config : Config) : Prop where
  /-- The name of the plan is a text. -/
  name : config.testPlanName.isText = true
  /-- The address is a text, which may be empty. -/
  address : config.baseUrl.isText = true
  /-- Numbers are not too long. -/
  numbers : ∀ n ∈ config.numbers, IsShort n

lemma Config.isSound_usual : Config.usual.IsSound := by
  have hnumbers : ∀ n ∈ Config.usual.numbers, (n : Int).natAbs < Nat.pow 2 15 := by decide
  exact ⟨rfl, rfl, fun n hn => isShort_of_lt (hnumbers n hn) (by decide)⟩

/-- **A specification in a sound document.** -/
structure Specification.IsSound (spec : Specification) : Prop where
  /-- The document is sound. -/
  document : spec.document.IsSound Value.maxNodes
  /-- The paths are sound. -/
  paths : (Value.map spec.paths).IsSound Value.maxNodes
  /-- The security schemes are sound. -/
  schemes : (Value.map spec.securitySchemes).IsSound Value.maxNodes
  /-- The security schemes have texts for names. -/
  schemeNames : (Value.map spec.securitySchemes).hasTextKeys = true
  /-- The address is a text. -/
  address : spec.defaultBaseUrl.isText = true

namespace Plan

/-! ## Requests -/

/-- A value that can be sent has a text. -/
lemma yields_argumentText {v : Value} (h : v.IsSendable) : Yields (fun _ => True) (argumentText v) := by
  unfold argumentText
  split
  · exact .ok trivial
  · exact h.yields

lemma yields_reference {parameter : Parameter} (h : parameter.sample.IsSendable) :
    Yields (fun _ => True) parameter.reference := by
  unfold Parameter.reference
  split
  · exact .ok trivial
  · exact (yields_argumentText h).map fun _ _ => trivial

/-- The fields of a sample that can be sent. -/
lemma yields_formFields : ∀ {fields : List (Value × Value)}, (Value.map fields).IsSendable →
    Yields (fun pairs => ∀ pair ∈ pairs, IsTextPair pair) (formFields fields)
  | [], _ => .ok (List.forall_mem_nil _)
  | (name, value) :: rest, h => by
      obtain ⟨hencodable, hspellable⟩ := h
      rw [Value.isEncodable, Value.entriesEncodable, Bool.and_eq_true, Bool.and_eq_true] at hencodable
      rw [Value.isSpellable, Value.entriesSpellable, Bool.and_eq_true, Bool.and_eq_true] at hspellable
      refine (yields_argumentText ⟨hencodable.2.1, hspellable.2.1⟩).bind fun text _ => ?_
      refine (yields_formFields ⟨hencodable.2.2, hspellable.2.2⟩).bind fun others hothers => .ok ?_
      exact List.forall_mem_cons.mpr ⟨⟨hencodable.1, rfl⟩, hothers⟩

/-- The values of some parameters that can be sent. -/
lemma yields_arguments {parameters : List Parameter} (h : ∀ p ∈ parameters, p.sample.IsSendable)
    (keep : Parameter → Bool) :
    Yields (fun _ => True) ((parameters.filter keep).mapM argument) := by
  refine (Yields.mapM fun parameter hparameter => ?_).imp fun _ (_ : ∀ _ ∈ _, True) => trivial
  exact (yields_reference (h parameter (List.mem_of_mem_filter hparameter))).map fun _ _ => trivial

/-- A payload whose fields and headers are texts. -/
structure Payload.IsReady (payload : Payload) : Prop where
  /-- The fields of the form are texts. -/
  form : ∀ pair ∈ payload.form, IsTextPair pair
  /-- The headers are texts. -/
  headers : ∀ pair ∈ payload.headers, IsTextPair pair

lemma isTextPair_map (pairs : List (Text × Text)) : ∀ pair ∈ pairs.map textPair, IsTextPair pair :=
  List.forall_mem_map.mpr fun pair _ => isTextPair_textPair pair

lemma isTextPair_formHeader : ∀ pair ∈ [formHeader], IsTextPair pair :=
  List.forall_mem_singleton.mpr ⟨rfl, rfl⟩

section

variable {resolver : Resolver} {operation : Operation} {presets : Presets}
variable {config : Config}

lemma yields_sampledPayload (hdocument : resolver.document.IsSound Value.maxNodes)
    (hdepth : resolver.maxDepth = Resolver.usualDepth) (h : operation.IsSound Value.maxNodes) :
    (sampledPayload operation resolver).Yields Payload.IsReady := by
  unfold sampledPayload
  split
  · exact .pure ⟨List.forall_mem_nil _, List.forall_mem_nil _⟩
  · rename_i raw hraw
    refine (resolver.yields_sample hdocument hdepth (h.body raw hraw) []).bind fun schema hschema => ?_
    refine (Report.Yields.ofExcept hschema).bind fun sample hsample => ?_
    split
    · refine (Report.Yields.ofExcept (yields_formFields hsample.toIsSendable)).bind ?_
      exact fun fields hfields => .pure ⟨hfields, isTextPair_formHeader⟩
    · have hbody := hsample.toIsSendable.yields
      rw [hsample.safe] at hbody
      refine (Report.Yields.ofExcept hbody).bind fun body _ => .pure ?_
      exact ⟨List.forall_mem_nil _, List.forall_mem_nil _⟩

lemma yields_payload (hdocument : resolver.document.IsSound Value.maxNodes)
    (hdepth : resolver.maxDepth = Resolver.usualDepth) (h : operation.IsSound Value.maxNodes) :
    (payload operation resolver).Yields Payload.IsReady := by
  unfold payload
  split
  · refine (yields_sampledPayload hdocument hdepth h).bind fun sampled hsampled => ?_
    split
    · have hsamples : ∀ p ∈ operation.parametersIn "formData", p.sample.IsSendable :=
        fun p hp => h.samples p (List.mem_of_mem_filter hp)
      refine (Report.Yields.ofExcept (yields_arguments hsamples _)).bind fun fields _ => .pure ?_
      refine ⟨isTextPair_map fields, List.forall_mem_append.mpr ⟨hsampled.headers, ?_⟩⟩
      split
      · exact List.forall_mem_nil _
      · exact isTextPair_formHeader
    · exact .pure hsampled
  · exact .pure ⟨List.forall_mem_nil _, List.forall_mem_nil _⟩

/-- What is below a request can be written. -/
lemma isReady_samplerChildren (hthreshold : IsShort config.responseTimeThreshold)
    {headers : List Pair} (hheaders : ∀ pair ∈ headers, IsTextPair pair) :
    ∀ e ∈ samplerChildren config presets headers, e.IsReady := by
  have hassertions : ∀ e ∈ assertions config presets, e.IsReady := by
    rw [assertions, List.forall_mem_cons, List.forall_mem_singleton]
    have hcodes : ∀ v ∈ presets.successCodes.map Value.text, v.isText = true :=
      List.forall_mem_map.mpr fun code _ => rfl
    constructor
    · refine isReady_mk rfl ⟨rfl, ⟨_, rfl, by decide⟩, ?_, ?_⟩ (List.forall_mem_nil _)
      · exact List.forall_mem_cons.mpr ⟨rfl, List.forall_mem_cons.mpr ⟨rfl, hcodes⟩⟩
      · exact List.forall_mem_singleton.mpr ⟨33, rfl, isShort_of_lt (e := 6) (by decide) (by decide)⟩
    · refine isReady_mk rfl ⟨rfl, ⟨_, rfl, by decide⟩, List.forall_mem_nil _, ?_⟩
        (List.forall_mem_nil _)
      exact List.forall_mem_singleton.mpr ⟨_, rfl, hthreshold⟩
  refine forall_mem_samplerChildren (isReady_headerManager hheaders) hassertions fun field _ => ?_
  exact isReady_of_texts rfl (by rintro collector ⟨⟩) rfl rfl

/-- The request of an operation can be written, when what it sends can be. -/
lemma isReady_sampler {settings : HttpSampler} {name : Text} {children : List Element}
    (htexts : ∀ v ∈ (Settings.httpSampler settings).texts, v.isText = true)
    (hchildren : ∀ e ∈ children, e.IsReady) :
    (Element.of name (.httpSampler settings) children).IsReady :=
  isReady_mk rfl ⟨rfl, ⟨_, rfl, by decide⟩, htexts, List.forall_mem_nil _⟩ hchildren

/-- **A sound operation has a request**, which can be written. -/
theorem yields_sampler (hthreshold : IsShort config.responseTimeThreshold)
    (hdocument : resolver.document.IsSound Value.maxNodes)
    (hdepth : resolver.maxDepth = Resolver.usualDepth) (h : operation.IsSound Value.maxNodes) :
    (sampler config presets operation resolver).Yields Element.IsReady := by
  have hsamples : ∀ location, ∀ p ∈ operation.parametersIn location, p.sample.IsSendable :=
    fun location p hp => h.samples p (List.mem_of_mem_filter hp)
  refine (Report.Yields.ofExcept (yields_arguments (hsamples "query") _)).bind fun query _ => ?_
  refine (yields_payload hdocument hdepth h).bind fun sent hsent => ?_
  refine (Report.Yields.ofExcept (yields_arguments (hsamples "header") _)).bind fun headers _ => ?_
  refine .pure (isReady_sampler ?_ (isReady_samplerChildren hthreshold ?_))
  · have hbody : ∀ v ∈ bodyTexts ((sent.body?.map Value.text).getD .null), v.isText = true := by
      cases sent.body? with
      | none => exact List.forall_mem_nil _
      | some body => exact List.forall_mem_singleton.mpr rfl
    have harguments : ∀ pair ∈ (if sent.body?.isSome then sent.form
        else query.map textPair ++ sent.form), IsTextPair pair := by
      split
      · exact hsent.form
      · exact List.forall_mem_append.mpr ⟨isTextPair_map query, hsent.form⟩
    rw [Settings.texts, List.forall_mem_append, List.forall_mem_append]
    refine ⟨⟨?_, hbody⟩, isText_pairTexts harguments⟩
    rw [← List.all_eq_true]
    rfl
  · exact List.forall_mem_append.mpr ⟨hsent.headers, isTextPair_map headers⟩

lemma yields_samplers (hthreshold : IsShort config.responseTimeThreshold)
    (hdocument : resolver.document.IsSound Value.maxNodes)
    (hdepth : resolver.maxDepth = Resolver.usualDepth) : ∀ {operations : List Operation},
      (∀ operation ∈ operations, operation.IsSound Value.maxNodes) →
        (samplers config presets resolver operations).Yields fun elements =>
          ∀ e ∈ elements, e.IsReady
  | [], _ => .pure (List.forall_mem_nil _)
  | operation :: rest, h => by
      rw [List.forall_mem_cons] at h
      refine (yields_sampler hthreshold hdocument hdepth h.1).bind fun element helement => ?_
      refine (yields_samplers hthreshold hdocument hdepth h.2).bind fun others hothers => .pure ?_
      exact List.forall_mem_cons.mpr ⟨helement, hothers⟩

end

end Plan

/-! ## Security schemes -/

/-- **A sound scheme**: its name is a text, and the name of the header of a key can be shown. -/
structure Scheme.IsSound (scheme : Scheme) : Prop where
  /-- The name is a text. -/
  name : ∃ name, scheme.name = .text name
  /-- The header of a key can be shown. -/
  header : ∀ header, scheme.credential = .apiKey header → header.isSpellable = true

section

variable {limit : Nat} {scheme : Entries}

lemma isSpellable_of_credential? (h : (Value.map scheme).IsSound limit) {type http : Text}
    {credential : Credential} (hcredential : credential? scheme type http = some credential) :
    ∀ header, credential = .apiKey header → header.isSpellable = true := by
  rintro header rfl
  unfold credential? at hcredential
  dsimp only at hcredential
  split_ifs at hcredential
  · obtain rfl := Credential.apiKey.inj (Option.some.inj hcredential)
    exact (h.getD "name").spellable
  · cases hcredential
  · cases hcredential

lemma yields_schemeDetail (h : (Value.map scheme).IsSound limit) (type http : Text) :
    Yields (fun _ => True) (schemeDetail scheme type http) := by
  unfold schemeDetail
  split_ifs
  · split
    · exact (h.get? ‹_›).1.yields_shown.bind fun _ _ => .ok trivial
    · exact .ok trivial
  · exact .ok trivial
  · exact .ok trivial

lemma yields_schemesOf : ∀ {entries : List (Value × Value)}, (Value.map entries).IsSound limit →
    (Value.map entries).hasTextKeys = true →
      (schemesOf entries).Yields fun schemes => ∀ scheme ∈ schemes, scheme.IsSound
  | [], _, _ => .pure (List.forall_mem_nil _)
  | (name, value) :: rest, h, hnames => by
      obtain ⟨-, hvalue, hrest⟩ := h.of_cons_entries
      rw [Value.hasTextKeys, List.all_cons, Bool.and_eq_true] at hnames
      obtain ⟨name, rfl⟩ : ∃ t, name = .text t := ⟨_, Value.eq_text_of_isText hnames.1⟩
      have ih := yields_schemesOf hrest hnames.2
      rw [schemesOf]
      split
      · exact ih
      · rename_i scheme hscheme
        have hsound := hvalue.entries? hscheme
        refine (Report.Yields.ofExcept (yields_shownAt hsound "type")).bind fun type _ => ?_
        refine (Report.Yields.ofExcept (yields_shownAt hsound "scheme")).bind fun http _ => ?_
        dsimp only
        split
        · rename_i credential hcredential
          refine ih.bind fun others hothers => .pure ?_
          refine List.forall_mem_cons.mpr ⟨⟨⟨name, rfl⟩, ?_⟩, hothers⟩
          exact isSpellable_of_credential? hsound hcredential
        · refine Report.Yields.bind (motive := fun _ => True) ?_ fun _ _ => ih
          refine (Report.Yields.ofExcept (yields_schemeDetail hsound _ _)).bind fun detail _ => ?_
          exact .pure trivial

lemma yields_schemes {spec : Specification} (h : spec.IsSound) :
    spec.schemes.Yields fun schemes => ∀ scheme ∈ schemes, scheme.IsSound :=
  yields_schemesOf h.schemes h.schemeNames

end

namespace Plan

variable {config : Config} {presets : Presets} {spec : Specification}

/-- What sends the credentials of a sound scheme can be written. -/
lemma yields_credentialManager {scheme : Scheme} (h : scheme.IsSound) :
    Yields Element.IsReady (credentialManager scheme) := by
  obtain ⟨name, hname⟩ := h.name
  unfold credentialManager
  rw [hname]
  refine Yields.bind (motive := fun _ => True) (.ok trivial) fun shown _ => ?_
  split
  · rename_i header hcredential
    have hshown := (Value.spelled_shown header).exists_of_true (h.header header hcredential)
    refine (Yields.of_exists hshown).bind fun header _ => .ok ?_
    exact isReady_headerManager (isTextPair_map [(header, variableRef (keyVariable name))])
  · exact .ok (isReady_headerManager (isTextPair_map
      [("Authorization", "Bearer " ++ variableRef "BEARER_TOKEN")]))
  · exact .ok (isReady_of_texts rfl (by rintro collector ⟨⟩) rfl rfl)

lemma yields_schemeVariables {scheme : Scheme} (h : scheme.IsSound) :
    Yields (fun _ => True) (schemeVariables scheme) := by
  obtain ⟨name, hname⟩ := h.name
  unfold schemeVariables
  rw [hname]
  split <;> exact .ok trivial

/-! ## Groups of virtual users -/

lemma yields_countRef (name : Text) {default : Nat} (h : IsShort default) :
    Yields (fun v => v.isText = true) (countRef name default) :=
  (yields_integerText h).bind fun _ _ => .ok rfl

/-- What limits a group of virtual users is said in texts. -/
structure ThreadGroup.IsLimited (limits : ThreadGroup) : Prop where
  /-- How often requests are repeated. -/
  loops : limits.loops.isText = true
  /-- How long. -/
  duration : limits.duration.isText = true
  /-- When the test begins. -/
  delay : limits.delay.isText = true
  /-- What happens after a failure. -/
  onSampleError : limits.onSampleError.isText = true

lemma yields_groupLimits (h : config.IsSound) :
    Yields ThreadGroup.IsLimited (groupLimits config) := by
  have hnumbers := h.numbers
  rw [Config.numbers, List.forall_mem_append] at hnumbers
  unfold groupLimits
  split
  · rename_i seconds hseconds
    have hshort : IsShort seconds := hnumbers.2 seconds (by rw [hseconds]; exact List.mem_cons_self)
    exact (yields_countRef "duration" hshort).bind fun duration hduration =>
      .ok ⟨rfl, hduration, rfl, rfl⟩
  · have hshort : IsShort config.loopCount := hnumbers.1 _ (by simp)
    exact (yields_countRef "loops" hshort).bind fun loops hloops => .ok ⟨hloops, rfl, rfl, rfl⟩

lemma yields_groupSettings (h : config.IsSound) :
    Yields (fun settings => (Settings.threadGroup settings).IsReady) (groupSettings config) := by
  have hthreads : IsShort config.threadCount := h.numbers _ (by simp [Config.numbers])
  have hramp : IsShort config.rampUpTime := h.numbers _ (by simp [Config.numbers])
  refine (yields_groupLimits h).bind fun limits hlimits => ?_
  refine (yields_countRef "threads" hthreads).bind fun numThreads hnumThreads => ?_
  refine (yields_countRef "rampup" hramp).bind fun rampTime hrampTime => .ok ?_
  refine ⟨rfl, ⟨_, rfl, by decide⟩, ?_, List.forall_mem_nil _⟩
  simp only [Settings.texts, List.forall_mem_cons, hnumThreads, hrampTime, hlimits.loops,
    hlimits.duration, hlimits.delay, hlimits.onSampleError, List.not_mem_nil, false_implies,
    implies_true, and_self]

lemma isReady_csvDataSet : (csvDataSet presets).IsReady :=
  isReady_of_texts rfl (by rintro collector ⟨⟩) rfl rfl

lemma isReady_standardHeaders (group : Text) : (standardHeaders presets group).IsReady :=
  isReady_headerManager (List.forall_mem_map.mpr fun _ _ => isTextPair_textPair _)

lemma isReady_listeners (group : Text) : ∀ e ∈ listeners group, e.IsReady := by
  have hdisplays : ∀ entry ∈ displays, ∀ r ∈ entry.1, r.isIllegal = false := by decide
  rw [listeners, List.forall_mem_map]
  intro entry hentry
  exact isReady_mk rfl ⟨rfl, ⟨_, rfl, hdisplays entry hentry⟩,
    List.forall_mem_singleton.mpr rfl, List.forall_mem_nil _⟩ (List.forall_mem_nil _)

lemma yields_threadGroup (hconfig : config.IsSound) (hspec : spec.IsSound) (name : Text)
    {operations : List Operation}
    (h : ∀ operation ∈ operations, operation.IsSound Value.maxNodes) :
    (threadGroup config presets spec name operations).Yields Element.IsReady := by
  have hthreshold : IsShort config.responseTimeThreshold :=
    hconfig.numbers _ (by simp [Config.numbers])
  refine (Report.Yields.ofExcept (yields_groupSettings hconfig)).bind fun settings hsettings => ?_
  refine (yields_schemes hspec).bind fun schemes hschemes => ?_
  refine (Report.Yields.ofExcept (Yields.mapM fun scheme hscheme =>
    yields_credentialManager (hschemes scheme hscheme))).bind fun managers hmanagers => ?_
  refine (yields_samplers hthreshold hspec.document rfl h).bind fun requests hrequests => .pure ?_
  refine isReady_mk rfl hsettings ?_
  simp only [List.forall_mem_append]
  refine ⟨⟨⟨⟨?_, ?_⟩, hmanagers⟩, hrequests⟩, ?_⟩
  · split
    · exact List.forall_mem_singleton.mpr isReady_csvDataSet
    · exact List.forall_mem_nil _
  · exact List.forall_mem_singleton.mpr (isReady_standardHeaders name)
  · split
    · exact isReady_listeners name
    · exact List.forall_mem_nil _

lemma yields_threadGroups (hconfig : config.IsSound) (hspec : spec.IsSound) :
    ∀ {groups : Operation.Groups},
      (∀ group ∈ groups, ∀ operation ∈ group.2, operation.IsSound Value.maxNodes) →
        (threadGroups config presets spec groups).Yields fun elements => ∀ e ∈ elements, e.IsReady
  | [], _ => .pure (List.forall_mem_nil _)
  | (name, operations) :: rest, h => by
      rw [List.forall_mem_cons] at h
      refine (yields_threadGroup hconfig hspec name h.1).bind fun element helement => ?_
      refine (yields_threadGroups hconfig hspec h.2).bind fun others hothers => .pure ?_
      exact List.forall_mem_cons.mpr ⟨helement, hothers⟩

/-! ## The root -/

lemma yields_baseUrl (hconfig : config.IsSound) (hspec : spec.IsSound) :
    Yields (fun _ => True) (baseUrl config spec) := by
  have htext : (if config.baseUrl.isTruthy then config.baseUrl else spec.defaultBaseUrl).isText =
      true := by
    split
    · exact hconfig.address
    · exact hspec.address
  unfold baseUrl
  rw [Value.eq_text_of_isText htext]
  exact .ok trivial

lemma yields_server (address : Text) : (Server.ofBaseUrl address).Yields fun _ => True := by
  unfold Server.ofBaseUrl
  dsimp only
  split
  · exact .pure trivial
  · exact .pure trivial

lemma yields_serverVariables (h : config.IsSound) (address : Text) (server : Server) :
    Yields (fun _ => True) (serverVariables config address server) := by
  have hconnection : IsShort config.connectionTimeout := h.numbers _ (by simp [Config.numbers])
  have hresponse : IsShort config.responseTimeout := h.numbers _ (by simp [Config.numbers])
  refine (yields_integerText hconnection).bind fun _ _ => ?_
  exact (yields_integerText hresponse).bind fun _ _ => .ok trivial

lemma yields_comments (h : config.IsSound) (address : Text) :
    Yields (fun _ => True) (comments config spec address) := by
  have hresponse : IsShort config.responseTimeThreshold := h.numbers _ (by simp [Config.numbers])
  have hthroughput : IsShort config.throughputThreshold := h.numbers _ (by simp [Config.numbers])
  have herror : IsShort config.errorRateThreshold := h.numbers _ (by simp [Config.numbers])
  refine (yields_integerText hresponse).bind fun _ _ => ?_
  refine (yields_integerText hthroughput).bind fun _ _ => ?_
  exact (yields_integerText herror).bind fun _ _ => .ok trivial

/-- **A root whose name and settings can be written.** -/
structure Root.IsReady (root : Root) : Prop where
  /-- The name is a text. -/
  name : root.name.isText = true
  /-- The settings can be written. -/
  settings : (Settings.testPlan root.settings).IsReady

lemma yields_testPlan (hconfig : config.IsSound) (hspec : spec.IsSound) :
    (testPlan config spec).Yields Root.IsReady := by
  refine (Report.Yields.ofExcept (yields_baseUrl hconfig hspec)).bind fun address _ => ?_
  refine (yields_server address).bind fun server _ => ?_
  refine (Report.Yields.ofExcept (yields_serverVariables hconfig address server)).bind ?_
  intro serverParts _
  refine (yields_schemes hspec).bind fun schemes hschemes => ?_
  have hcredentials : Yields (fun _ => True) (credentialVariables schemes) :=
    (Yields.mapM fun scheme hscheme => yields_schemeVariables (hschemes scheme hscheme)).map
      fun _ _ => trivial
  refine (Report.Yields.ofExcept hcredentials).bind fun credentials _ => ?_
  refine (Report.Yields.ofExcept (yields_comments hconfig address)).bind fun description _ => ?_
  refine .pure ⟨hconfig.name, rfl, ⟨_, rfl, by decide⟩, ?_, List.forall_mem_nil _⟩
  exact List.forall_mem_cons.mpr ⟨rfl, isText_pairTexts (isTextPair_map _)⟩

lemma isReady_httpDefaults : httpDefaults.IsReady :=
  isReady_of_texts rfl (by rintro collector ⟨⟩) rfl rfl

/-- **A sound specification has a plan**, which can be written. -/
theorem yields_assemble (hconfig : config.IsSound) (hspec : spec.IsSound) {groups : Operation.Groups}
    (h : ∀ group ∈ groups, ∀ operation ∈ group.2, operation.IsSound Value.maxNodes) :
    (assemble config presets spec groups).Yields Element.IsReady := by
  refine (yields_testPlan hconfig hspec).bind fun root hroot => ?_
  refine (yields_threadGroups hconfig hspec h).bind fun elements helements => .pure ?_
  exact isReady_mk hroot.name hroot.settings
    (List.forall_mem_cons.mpr ⟨isReady_httpDefaults, helements⟩)

end Plan

end LoadPlan
