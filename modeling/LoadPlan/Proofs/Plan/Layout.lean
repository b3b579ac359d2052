import LoadPlan.Proofs.Compile.Remarks
import LoadPlan.Proofs.Plan.Census

/-!
# How plans are laid out

What stands where in a plan that is assembled, and what is remarked on the way.  Statements about the
elements of a plan begin here, so that none of them goes through the assembly again.

* `Element.isManager`, `Element.headers`, `Element.requests`, `Element.variableNames` — what is looked for in
  a plan.
* `Element.IsApart` — a file with test data, or a listener.
* `requestOf`, `remarksOn` — the request of an operation, and what is remarked for it.
* `IsMadeOf` — a group of virtual users that is made for a group of operations.
* `IsMadeOf.cases_children`, `IsMadeOf.exists_manager` — what is right below it.
* **`layout_of_assemble`** — the root of a plan, its groups, and its remarks.
* `secured` — a document with operations and security schemes.
-/

namespace LoadPlan

namespace Plan

namespace Element

/-- Whether an element sets headers or credentials. -/
def isManager (element : Element) : Bool :=
  match element.settings with
  | .headerManager _ | .authManager _ => true
  | _ => false

/-- The headers that an element sets itself. -/
def headers (element : Element) : List Pair :=
  match element.settings with
  | .headerManager manager => manager.headers
  | _ => []

/-- **The names of the variables that an element declares**: the root of a plan declares some, and no other
element does. -/
def variableNames (element : Element) : List Value :=
  match element.settings with
  | .testPlan settings => settings.userVariables.map Prod.fst
  | _ => []

/-- The requests right below an element. -/
def requests (element : Element) : List Element := element.children.filter isRequest

/-- **An element that stands apart from requests**: a file with test data or a listener, and nothing below
it. -/
def IsApart (element : Element) : Prop :=
  element.children = [] ∧ ((∃ settings, element.settings = .csvDataSet settings) ∨
    ∃ settings, element.settings = .resultCollector settings)

lemma IsApart.isManager {element : Element} (h : element.IsApart) : element.isManager = false := by
  obtain ⟨-, ⟨settings, hsettings⟩ | ⟨settings, hsettings⟩⟩ := h
  · rw [Element.isManager, hsettings]
  · rw [Element.isManager, hsettings]

end Element

lemma isManager_of_isRequest {element : Element} (h : element.isRequest = true) :
    element.isManager = false := by
  unfold Element.isRequest at h
  split at h
  · rename_i heq
    rw [Element.isManager, heq]
  · cases h

/-! ## Groups of virtual users -/

section

variable (config : Config) (presets : Presets) (spec : Specification)

/-- **The request of an operation** of a specification. -/
def requestOf (operation : Operation) : Report Element :=
  sampler config presets operation ⟨spec.document, Resolver.usualDepth⟩

/-- What is remarked for some groups of operations: for each group on the schemes, and then for each of its
requests. -/
def remarksOn (groups : Operation.Groups) : List Diagnostic :=
  groups.flatMap fun group =>
    spec.schemes.notes ++ group.2.flatMap fun operation =>
      (requestOf config presets spec operation).notes

/-- **A group of virtual users that is made for a group of operations.** -/
structure IsMadeOf (group : Text × List Operation) (element : Element) : Prop where
  /-- It serves the operations. -/
  serves : Serves group element
  /-- The standard headers are followed by what sends the credentials, and that by the requests.  What
  stands in front of them and behind them stands apart. -/
  layout : ∃ schemes data managers listeners, spec.schemes.outcome = .ok schemes ∧
    List.Forall₂ Sends schemes managers ∧
    element.children =
      data ++ standardHeaders presets group.1 :: (managers ++ (element.requests ++ listeners)) ∧
    ∀ e ∈ data ++ listeners, e.IsApart
  /-- There is one request for each operation, made for it alone. -/
  requests : List.Forall₂ (fun operation request =>
    (requestOf config presets spec operation).outcome = .ok request) group.2 element.requests

end

section

variable {config : Config} {presets : Presets} {spec : Specification}

lemma isApart_of_mem_data (config : Config) (presets : Presets) :
    ∀ e ∈ (if config.generateCsvConfig.isTruthy then [csvDataSet presets] else []), e.IsApart := by
  intro e he
  split at he
  · obtain rfl := List.mem_singleton.mp he
    exact ⟨rfl, .inl ⟨_, rfl⟩⟩
  · cases he

lemma isApart_of_mem_back (config : Config) (name : Text) :
    ∀ e ∈ (if config.enableReporting.isTruthy then listeners name else []), e.IsApart := by
  intro e he
  split at he
  · obtain ⟨display, -, rfl⟩ := List.mem_map.mp he
    exact ⟨rfl, .inr ⟨_, rfl⟩⟩
  · cases he

/-- **A group of virtual users is made for the operations that it is assembled from.** -/
lemma isMadeOf_of_threadGroup {name : Text} {operations : List Operation} {element : Element}
    (h : (threadGroup config presets spec name operations).outcome = .ok element) :
    IsMadeOf config presets spec (name, operations) element := by
  have hserves := serves_of_threadGroup h
  obtain ⟨settings, schemes, managers, requests, hschemes, hmanagers, hrequests, rfl⟩ :=
    parts_of_threadGroup h
  have hmade := forall₂_samplers hrequests
  have hfront := isAside_of_mem_front config presets hmanagers name
  have hback := isAside_of_mem_back config name
  have hown : (Element.of (name ++ " Tests") (.threadGroup settings) _).requests = requests :=
    filter_isRequest hfront hback
      (forall_mem_of_forall₂ hmade fun _ _ hm => isRequest_of_requests (requests_of_sampler hm))
  refine ⟨hserves, ⟨schemes, _, managers, _, hschemes,
    (forall₂_of_mapM hmanagers).imp fun _ _ => sends_of_credentialManager, ?_,
    List.forall_mem_append.mpr ⟨isApart_of_mem_data config presets,
      isApart_of_mem_back config name⟩⟩, ?_⟩
  · rw [hown]
    simp only [Element.of, Element.children, List.append_assoc, List.cons_append, List.nil_append]
  · rw [hown]
    exact hmade

/-- **What is right below a group of virtual users**: an element that stands apart, the standard headers, what
sends the credentials of a scheme, or the request of an operation. -/
lemma IsMadeOf.cases_children {group : Text × List Operation} {element : Element} {schemes : List Scheme}
    (h : IsMadeOf config presets spec group element) (hschemes : spec.schemes.outcome = .ok schemes) :
    ∀ e ∈ element.children, e.IsApart ∨ e = standardHeaders presets group.1 ∨
      (∃ scheme ∈ schemes, Sends scheme e) ∨
        ∃ operation ∈ group.2, (requestOf config presets spec operation).outcome = .ok e := by
  obtain ⟨_, data, managers, listeners, hfound, hsends, hchildren, hapart⟩ := h.layout
  obtain rfl := Except.ok.inj (hschemes.symm.trans hfound)
  rw [List.forall_mem_append] at hapart
  rw [hchildren, List.forall_mem_append, List.forall_mem_cons, List.forall_mem_append,
    List.forall_mem_append]
  exact ⟨fun e he => .inl (hapart.1 e he), .inr (.inl rfl),
    fun e he => .inr (.inr (.inl (exists_of_forall₂ hsends e he))),
    fun e he => .inr (.inr (.inr (exists_of_forall₂ h.requests e he))),
    fun e he => .inl (hapart.2 e he)⟩

/-- Every group sends the credentials of every scheme. -/
lemma IsMadeOf.exists_manager {group : Text × List Operation} {element : Element} {schemes : List Scheme}
    (h : IsMadeOf config presets spec group element) (hschemes : spec.schemes.outcome = .ok schemes) :
    ∀ scheme ∈ schemes, ∃ manager ∈ element.children, Sends scheme manager := by
  obtain ⟨_, data, managers, listeners, hfound, hsends, hchildren, -⟩ := h.layout
  obtain rfl := Except.ok.inj (hschemes.symm.trans hfound)
  intro scheme hscheme
  obtain ⟨manager, hmanager, hmade⟩ := exists_of_forall₂ hsends.flip scheme hscheme
  refine ⟨manager, ?_, hmade⟩
  rw [hchildren]
  exact List.mem_append_right _ (List.mem_cons_of_mem _ (List.mem_append_left _ hmanager))

/-! ## Remarks -/

lemma notes_samplers {resolver : Resolver} : ∀ {operations : List Operation} {elements : List Element},
    (samplers config presets resolver operations).outcome = .ok elements →
      (samplers config presets resolver operations).notes =
        operations.flatMap fun operation => (sampler config presets operation resolver).notes
  | [], _, _ => rfl
  | operation :: rest, elements, h => by
      rw [samplers] at h ⊢
      obtain ⟨element, -, h, hnotes₁⟩ := Report.parts_of_bind h
      obtain ⟨others, hothers, -, hnotes₂⟩ := Report.parts_of_bind h
      rw [hnotes₁, hnotes₂, notes_samplers hothers, Report.pure_notes, List.append_nil,
        List.flatMap_cons]

lemma notes_threadGroup {name : Text} {operations : List Operation} {element : Element}
    (h : (threadGroup config presets spec name operations).outcome = .ok element) :
    (threadGroup config presets spec name operations).notes = spec.schemes.notes ++
      operations.flatMap fun operation => (requestOf config presets spec operation).notes := by
  rw [threadGroup] at h ⊢
  obtain ⟨settings, -, h, hnotes₁⟩ := Report.parts_of_bind h
  obtain ⟨schemes, -, h, hnotes₂⟩ := Report.parts_of_bind h
  obtain ⟨managers, -, h, hnotes₃⟩ := Report.parts_of_bind h
  obtain ⟨requests, hrequests, -, hnotes₄⟩ := Report.parts_of_bind h
  rw [hnotes₁, hnotes₂, hnotes₃, hnotes₄, notes_samplers hrequests, Report.pure_notes,
    List.append_nil]
  rfl

/-! ## Plans -/

lemma layout_of_threadGroups : ∀ {groups : Operation.Groups} {elements : List Element},
    (threadGroups config presets spec groups).outcome = .ok elements →
      List.Forall₂ (IsMadeOf config presets spec) groups elements ∧
      (threadGroups config presets spec groups).notes = remarksOn config presets spec groups
  | [], elements, h => by
      obtain rfl := Except.ok.inj h
      exact ⟨.nil, rfl⟩
  | (name, operations) :: rest, elements, h => by
      rw [threadGroups] at h ⊢
      obtain ⟨element, helement, h, hnotes₁⟩ := Report.parts_of_bind h
      obtain ⟨others, hothers, h, hnotes₂⟩ := Report.parts_of_bind h
      obtain rfl := Except.ok.inj h
      obtain ⟨hmade, hremarks⟩ := layout_of_threadGroups hothers
      refine ⟨.cons (isMadeOf_of_threadGroup helement) hmade, ?_⟩
      rw [hnotes₁, hnotes₂, notes_threadGroup helement, hremarks, Report.pure_notes, List.append_nil]
      rfl

/-- **The root of a plan** is made from its address and from the schemes, and that is what is remarked on. -/
lemma parts_of_testPlan {root : Root} (h : (testPlan config spec).outcome = .ok root) :
    ∃ address server parts schemes declared description, baseUrl config spec = .ok address ∧
      serverVariables config address server = .ok parts ∧ spec.schemes.outcome = .ok schemes ∧
      credentialVariables schemes = .ok declared ∧
      root = ⟨config.testPlanName, .text description, (parts ++ declared).map textPair⟩ ∧
      (testPlan config spec).notes = (Server.ofBaseUrl address).notes ++ spec.schemes.notes := by
  rw [testPlan] at h ⊢
  obtain ⟨address, haddress, h, hnotes₁⟩ := Report.parts_of_bind h
  obtain ⟨server, -, h, hnotes₂⟩ := Report.parts_of_bind h
  obtain ⟨parts, hparts, h, hnotes₃⟩ := Report.parts_of_bind h
  obtain ⟨schemes, hschemes, h, hnotes₄⟩ := Report.parts_of_bind h
  obtain ⟨declared, hdeclared, h, hnotes₅⟩ := Report.parts_of_bind h
  obtain ⟨description, -, h, hnotes₆⟩ := Report.parts_of_bind h
  obtain rfl := Except.ok.inj h
  refine ⟨address, server, parts, schemes, declared, description, haddress, hparts, hschemes, hdeclared,
    rfl, ?_⟩
  rw [hnotes₁, hnotes₂, hnotes₃, hnotes₄, hnotes₅, hnotes₆]
  simp only [Report.ofExcept_notes, Report.pure_notes, List.nil_append, List.append_nil]

/-- **The layout of a plan**: its root, one group of virtual users for each group of operations, and what is
remarked, for the root and then for the groups. -/
theorem layout_of_assemble {groups : Operation.Groups} {plan : Element}
    (h : (assemble config presets spec groups).outcome = .ok plan) :
    ∃ root elements, (testPlan config spec).outcome = .ok root ∧ plan = root.withGroups elements ∧
      List.Forall₂ (IsMadeOf config presets spec) groups elements ∧
      (assemble config presets spec groups).notes =
        (testPlan config spec).notes ++ remarksOn config presets spec groups := by
  rw [assemble] at h ⊢
  obtain ⟨root, hroot, h, hnotes₁⟩ := Report.parts_of_bind h
  obtain ⟨elements, helements, h, hnotes₂⟩ := Report.parts_of_bind h
  obtain rfl := Except.ok.inj h
  obtain ⟨hmade, hremarks⟩ := layout_of_threadGroups helements
  refine ⟨root, elements, hroot, rfl, hmade, ?_⟩
  rw [hnotes₁, hnotes₂, hremarks, Report.pure_notes, List.append_nil]

/-- The requests and the groups that are found in a plan are those of its layout. -/
lemma filter_walk_of_assemble {groups : Operation.Groups} {root : Root} {elements : List Element}
    (h : (assemble config presets spec groups).outcome = .ok (root.withGroups elements)) :
    (root.withGroups elements).walk.filter Element.isRequest = elements.flatMap Element.requests ∧
      (root.withGroups elements).walk.filter Element.isThreadGroup = elements := by
  obtain ⟨found, hchildren, -, hrequests, hgroups⟩ := (covers_of_assemble h).filter_walk
  obtain rfl : elements = found := (List.cons.inj hchildren).2
  exact ⟨hrequests, hgroups⟩

end

end Plan

/-! ## An example -/

/-- The same configuration with another way to group operations. -/
def Config.groupedBy (config : Config) (strategy : Strategy) : Config :=
  { config with groupingStrategy := strategy }

/-- A document with three operations.  Its schemes are a key in a header, one that is not supported, and a
token; one of the operations has a parameter that goes into the header of the key. -/
def secured : List Char :=
  List.flatMap String.toList
    [ "\x7b\"paths\":\x7b\"/a\":\x7b\"get\":\x7b\"tags\":[\"x\"],",
      "\"parameters\":[\x7b\"in\":\"header\",\"name\":\"X-Key\"\x7d]\x7d\x7d,",
      "\"/b\":\x7b\"get\":\x7b\"tags\":[\"y\"]\x7d,\"post\":\x7b\"tags\":[\"x\"]\x7d\x7d\x7d,",
      "\"components\":\x7b\"securitySchemes\":\x7b",
      "\"key\":\x7b\"type\":\"apiKey\",\"in\":\"header\",\"name\":\"X-Key\"\x7d,",
      "\"login\":\x7b\"type\":\"oauth2\"\x7d,",
      "\"token\":\x7b\"type\":\"http\",\"scheme\":\"bearer\"\x7d\x7d\x7d\x7d" ]

/-- The document has a plan for each way to group its operations. -/
lemma assemble_secured : ∃ spec operations,
    Specification.read Yaml.reader secured none (.text []) = .ok spec ∧ spec.operations = .ok operations ∧
      operations.length = 3 ∧ spec.HasSchemeNames ∧
      (supportedIn spec.securitySchemes).length = 2 ∧ (unsupportedIn spec.securitySchemes).length = 1 ∧
      ∀ strategy, ∃ plan, (Plan.assemble (Config.usual.groupedBy strategy) .usual spec
        (Operation.group strategy operations)).outcome = .ok plan ∧ plan.variableNames.length = 9 := by
  have hchecked : (do
      let spec ← Specification.read Yaml.reader secured none (.text [])
      let operations ← spec.operations
      let byTag ← (Plan.assemble (Config.usual.groupedBy .byTag) .usual spec
        (Operation.group .byTag operations)).outcome
      let byPath ← (Plan.assemble (Config.usual.groupedBy .byPath) .usual spec
        (Operation.group .byPath operations)).outcome
      return decide (operations.length = 3 ∧ spec.HasSchemeNames ∧
        (supportedIn spec.securitySchemes).length = 2 ∧
        (unsupportedIn spec.securitySchemes).length = 1 ∧ byTag.variableNames.length = 9 ∧
        byPath.variableNames.length = 9)).toOption = some true := by decide +kernel
  have hrun := eq_ok_of_toOption hchecked
  obtain ⟨spec, hspec, hrun⟩ := exists_of_except_bind hrun
  obtain ⟨operations, hoperations, hrun⟩ := exists_of_except_bind hrun
  obtain ⟨byTag, hbyTag, hrun⟩ := exists_of_except_bind hrun
  obtain ⟨byPath, hbyPath, hrun⟩ := exists_of_except_bind hrun
  obtain ⟨hcount, hnames, hsupported, hunsupported, hbyTagNames, hbyPathNames⟩ :=
    of_decide_eq_true (Except.ok.inj hrun)
  refine ⟨spec, operations, hspec, hoperations, hcount, hnames, hsupported, hunsupported, fun strategy => ?_⟩
  cases strategy with
  | byTag => exact ⟨byTag, hbyTag, hbyTagNames⟩
  | byPath => exact ⟨byPath, hbyPath, hbyPathNames⟩

end LoadPlan
