import LoadPlan.Proofs.Plan.Layout

/-!
# Header parameters

Headers are set in two places: those of a group for all of its requests, and those of a request for itself.
Where both set a header of one name, the one of the request counts.  A parameter of an operation that goes
into a header must therefore not have the name of a header of the group.

The names of the standard headers and of the header for authorization are known in advance, and parameters
of these names are left out.  The header for a key is named by the document and is not known in advance: a
parameter of its name is sent, and the key is not.

* `sameHeader`, `comesFrom` — headers of one name, and the header that a parameter is sent in.
* `KeepsHeaders` — the header parameters of an operation override nothing.
* `Specification.keyHeaders` — the headers that keys are sent in.
* **`headers_kept_iff`** — header parameters override the headers for keys that they share a name with, and
  no other header.
* **`headers_not_kept`** — a document with such a parameter.
-/

namespace LoadPlan

/-- The header that a key is sent in. -/
def Credential.keyHeader? : Credential → Option Text
  | apiKey header => header.shown.toOption
  | _ => none

/-- The headers that the keys of a specification are sent in. -/
def Specification.keyHeaders (spec : Specification) : List Text :=
  (spec.schemes.outcome.toOption.getD []).filterMap fun scheme => scheme.credential.keyHeader?

namespace Plan

/-- Whether two headers have one name, in whatever case it is written. -/
def sameHeader (header other : Pair) : Bool :=
  match header.1, other.1 with
  | .text name, .text otherName => name.lower = otherName.lower
  | _, _ => false

/-- Whether a header is what a parameter is sent in: it has its name and its value. -/
def comesFrom (parameter : Parameter) (header : Pair) : Bool :=
  match header, parameter.reference with
  | (.text name, .text value), .ok reference => name = parameter.name && value = reference
  | _, _ => false

/-- The headers that are set right below an element. -/
def Element.headersBelow (element : Element) : List Pair := element.children.flatMap headers

/-- **The header parameters of an operation override nothing.**  What one of them is sent in is neither the
header for authorization nor a header that is set right below the group. -/
def KeepsHeaders (group : Element) (operation : Operation) (request : Element) : Prop :=
  ∀ parameter ∈ operation.parametersIn "header", ∀ header ∈ request.headersBelow,
    comesFrom parameter header = true →
      parameter.name.lower ≠ "authorization" ∧
        ∀ other ∈ group.headersBelow, sameHeader header other = false

instance (group : Element) (operation : Operation) (request : Element) :
    Decidable (KeepsHeaders group operation request) :=
  inferInstanceAs (Decidable (∀ parameter ∈ operation.parametersIn "header",
    ∀ header ∈ request.headersBelow, comesFrom parameter header = true →
      parameter.name.lower ≠ "authorization" ∧
        ∀ other ∈ group.headersBelow, sameHeader header other = false))

/-- No request of the groups of a plan overrides a header of its group. -/
def KeepAllHeaders (groups : Operation.Groups) (elements : List Element) : Prop :=
  List.Forall₂ (fun (group : Text × List Operation) element =>
    List.Forall₂ (KeepsHeaders element) group.2 element.requests) groups elements

instance (groups : Operation.Groups) (elements : List Element) :
    Decidable (KeepAllHeaders groups elements) :=
  inferInstanceAs (Decidable (List.Forall₂ (fun (group : Text × List Operation) element =>
    List.Forall₂ (KeepsHeaders element) group.2 element.requests) groups elements))

/-- The parameters of an operation that are sent in headers. -/
def headerParameters (presets : Presets) (operation : Operation) : List Parameter :=
  (operation.parametersIn "header").filter fun parameter =>
    !parameter.name.isEmpty && !(managedHeaders presets).contains parameter.name.lower

/-! ## The headers of a request -/

section

variable {config : Config} {presets : Presets} {operation : Operation} {resolver : Resolver}

/-- A parameter is sent as a reference, which begins with a dollar sign. -/
lemma dollar_of_reference {parameter : Parameter} {value : Text} (h : parameter.reference = .ok value) :
    ∃ rest, value = ('$' : Rune) :: rest := by
  unfold Parameter.reference at h
  split at h
  · obtain rfl := Except.ok.inj h
    exact ⟨_, rfl⟩
  · cases htext : argumentText parameter.sample with
    | error fault =>
        rw [htext] at h
        cases h
    | ok text =>
        rw [htext] at h
        obtain rfl := Except.ok.inj h
        exact ⟨_, rfl⟩

lemma comesFrom_iff {parameter : Parameter} {header : Pair} : comesFrom parameter header = true ↔
    ∃ value, parameter.reference = .ok value ∧ header = textPair (parameter.name, value) := by
  constructor
  · intro h
    unfold comesFrom at h
    split at h
    · rename_i name value reference hreference
      rw [Bool.and_eq_true, decide_eq_true_eq, decide_eq_true_eq] at h
      obtain ⟨rfl, rfl⟩ := h
      exact ⟨_, hreference, rfl⟩
    · cases h
  · rintro ⟨value, hvalue, rfl⟩
    simp only [comesFrom, textPair, hvalue, decide_true, Bool.and_self]

/-- The header of a form is not one that a parameter is sent in. -/
lemma comesFrom_formHeader (parameter : Parameter) : comesFrom parameter formHeader = false := by
  rw [← Bool.not_eq_true, comesFrom_iff]
  rintro ⟨value, hvalue, heq⟩
  obtain ⟨rest, rfl⟩ := dollar_of_reference hvalue
  obtain ⟨-, hform⟩ := Prod.mk.inj heq
  exact absurd (List.cons.inj (Value.text.inj hform)).1 (by decide)

/-- A body brings no header but that of a form. -/
lemma eq_formHeader_of_sampledPayload {sent : Payload}
    (h : (sampledPayload operation resolver).outcome = .ok sent) :
    ∀ header ∈ sent.headers, header = formHeader := by
  unfold sampledPayload at h
  split at h
  · obtain rfl := Except.ok.inj h
    exact List.forall_mem_nil _
  · obtain ⟨schema, -, h⟩ := Report.exists_of_bind h
    obtain ⟨sample, -, h⟩ := Report.exists_of_bind h
    split at h
    · obtain ⟨fields, -, h⟩ := Report.exists_of_bind h
      obtain rfl := Except.ok.inj h
      exact List.forall_mem_singleton.mpr rfl
    · obtain ⟨body, -, h⟩ := Report.exists_of_bind h
      obtain rfl := Except.ok.inj h
      exact List.forall_mem_nil _

/-- What an operation sends brings no header but that of a form. -/
lemma eq_formHeader_of_payload {sent : Payload} (h : (payload operation resolver).outcome = .ok sent) :
    ∀ header ∈ sent.headers, header = formHeader := by
  unfold payload at h
  split at h
  · obtain ⟨sampled, hsampled, h⟩ := Report.exists_of_bind h
    have hheaders := eq_formHeader_of_sampledPayload hsampled
    split at h
    · obtain ⟨fields, -, h⟩ := Report.exists_of_bind h
      obtain rfl := Except.ok.inj h
      refine List.forall_mem_append.mpr ⟨hheaders, ?_⟩
      split
      · exact List.forall_mem_nil _
      · exact List.forall_mem_singleton.mpr rfl
    · obtain rfl := Except.ok.inj h
      exact hheaders
  · obtain rfl := Except.ok.inj h
    exact List.forall_mem_nil _

/-- One argument is made for each parameter that is sent in a header. -/
lemma forall₂_headerArguments {found : List (Text × Text)}
    (h : headerArguments presets operation = .ok found) :
    List.Forall₂ (fun parameter header => comesFrom parameter header = true)
      (headerParameters presets operation) (found.map textPair) := by
  refine List.forall₂_map_right_iff.mpr ((forall₂_of_mapM h).imp fun parameter pair hpair => ?_)
  unfold argument at hpair
  cases hvalue : parameter.reference with
  | error fault =>
      rw [hvalue] at hpair
      cases hpair
  | ok value =>
      rw [hvalue] at hpair
      obtain rfl := Except.ok.inj hpair
      exact comesFrom_iff.mpr ⟨value, hvalue, rfl⟩

/-- Of what is below a request, only one element sets headers. -/
lemma headersBelow_sampler (name : Text) (settings : HttpSampler) (headers : List Pair) :
    (Element.of name (.httpSampler settings) (samplerChildren config presets headers)).headersBelow =
      headers := by
  have hchecks : (if config.addAssertions.isTruthy then assertions config presets else []).flatMap
      Element.headers = [] := by
    split_ifs <;> rfl
  have hextractors : (if config.addCorrelation.isTruthy then
      presets.correlationFields.map extractor else []).flatMap Element.headers = [] := by
    split_ifs
    · rw [List.flatMap_map]
      exact List.flatMap_eq_nil_iff.mpr fun field _ => rfl
    · rfl
  show (samplerChildren config presets headers).flatMap Element.headers = headers
  rw [samplerChildren, List.flatMap_append, List.flatMap_append, hchecks, hextractors,
    List.append_nil, List.append_nil]
  cases headers with
  | nil => rfl
  | cons header rest => exact List.append_nil _

/-- **The headers of a request** are those that its body brings, followed by one for each parameter that is
sent in a header. -/
lemma headersBelow_of_sampler {request : Element}
    (h : (sampler config presets operation resolver).outcome = .ok request) :
    ∃ own sent, request.headersBelow = own ++ sent ∧ (∀ header ∈ own, header = formHeader) ∧
      List.Forall₂ (fun parameter header => comesFrom parameter header = true)
        (headerParameters presets operation) sent := by
  obtain ⟨query, -, h⟩ := Report.exists_of_bind h
  obtain ⟨payload, hpayload, h⟩ := Report.exists_of_bind h
  obtain ⟨headers, hheaders, h⟩ := Report.exists_of_bind h
  obtain rfl := Except.ok.inj h
  exact ⟨payload.headers, headers.map textPair, headersBelow_sampler _ _ _,
    eq_formHeader_of_payload hpayload, forall₂_headerArguments hheaders⟩

/-- Of the parameters of an operation, those are sent in headers that have a name of their own. -/
lemma mem_headerParameters {parameter : Parameter} : parameter ∈ headerParameters presets operation ↔
    parameter ∈ operation.parametersIn "header" ∧ parameter.name ≠ [] ∧
      parameter.name.lower ∉ managedHeaders presets := by
  simp only [headerParameters, List.mem_filter, Bool.and_eq_true, Bool.not_eq_true',
    List.isEmpty_eq_false_iff, List.contains_eq_mem, decide_eq_false_iff_not]

/-- A header that comes from a parameter is there because the parameter is sent. -/
lemma mem_headerParameters_of_comesFrom {request : Element} {parameter : Parameter} {header : Pair}
    (h : (sampler config presets operation resolver).outcome = .ok request)
    (hparameter : parameter ∈ operation.parametersIn "header") (hheader : header ∈ request.headersBelow)
    (hfrom : comesFrom parameter header = true) : parameter ∈ headerParameters presets operation := by
  obtain ⟨own, sent, hheaders, hown, hsent⟩ := headersBelow_of_sampler h
  rw [hheaders, List.mem_append] at hheader
  rcases hheader with hheader | hheader
  · rw [hown header hheader, comesFrom_formHeader] at hfrom
    cases hfrom
  · -- another parameter may be sent in the same header, but it has the same name
    obtain ⟨other, hother, hsame⟩ := exists_of_forall₂ hsent header hheader
    obtain ⟨value, -, rfl⟩ := comesFrom_iff.mp hfrom
    obtain ⟨otherValue, -, heq⟩ := comesFrom_iff.mp hsame
    have hname : parameter.name = other.name := Value.text.inj (Prod.mk.inj heq).1
    rw [mem_headerParameters] at hother ⊢
    rw [hname]
    exact ⟨hparameter, hother.2⟩

end

/-! ## The headers of a group -/

section

variable {config : Config} {presets : Presets} {spec : Specification}

/-- The header of a manager is that for authorization, or one for a key. -/
lemma headers_of_sends {scheme : Scheme} {manager : Element} (h : Sends scheme manager) :
    ∀ header ∈ manager.headers, ∃ name value : Text, header = textPair (name, value) ∧
      (name = "Authorization" ∨ scheme.credential.keyHeader? = some name) := by
  cases h with
  | key hheader =>
      refine List.forall_mem_singleton.mpr ⟨_, _, rfl, .inr ?_⟩
      rw [Credential.keyHeader?, hheader]
      rfl
  | token => exact List.forall_mem_singleton.mpr ⟨_, _, rfl, .inl rfl⟩
  | login => exact List.forall_mem_nil _

/-- The header for a key is set by its manager. -/
lemma exists_header_of_sends {scheme : Scheme} {manager : Element} {name : Text}
    (h : Sends scheme manager) (hname : scheme.credential.keyHeader? = some name) :
    ∃ value, textPair (name, value) ∈ manager.headers := by
  cases h with
  | key hheader =>
      rw [Credential.keyHeader?, hheader] at hname
      obtain rfl := Option.some.inj hname
      exact ⟨_, List.mem_cons_self⟩
  | token => cases hname
  | login => cases hname

lemma headers_eq_nil {element : Element} (h : element.isManager = false) : element.headers = [] := by
  unfold Element.isManager at h
  unfold Element.headers
  split at h
  · cases h
  · cases h
  · rename_i hother _
    split
    · rename_i manager heq
      exact absurd heq (hother manager)
    · rfl

lemma lower_authorization : Text.lower "Authorization" = "authorization" := by decide +kernel

/-- What is set for a group is known in advance, or it is the header for a key. -/
lemma name_of_mem_headersBelow {group : Text × List Operation} {element : Element}
    (h : IsMadeOf config presets spec group element) : ∀ header ∈ element.headersBelow,
      ∃ name value : Text, header = textPair (name, value) ∧
        (name.lower ∈ managedHeaders presets ∨ name ∈ spec.keyHeaders) := by
  obtain ⟨schemes, _, _, _, hschemes, -⟩ := h.layout
  intro header hheader
  obtain ⟨child, hchild, hheader⟩ := List.mem_flatMap.mp hheader
  rcases h.cases_children hschemes child hchild with hapart | rfl | ⟨scheme, hscheme, hmade⟩ |
    ⟨operation, -, hrequest⟩
  · rw [headers_eq_nil hapart.isManager] at hheader
    cases hheader
  · obtain ⟨⟨name, value⟩, hstandard, rfl⟩ := List.mem_map.mp hheader
    exact ⟨name, _, rfl, .inl (List.mem_append_left _ (List.mem_map.mpr ⟨_, hstandard, rfl⟩))⟩
  · obtain ⟨name, value, rfl, rfl | hkey⟩ := headers_of_sends hmade header hheader
    · refine ⟨_, value, rfl, .inl (List.mem_append_right _ ?_)⟩
      rw [lower_authorization]
      exact List.mem_singleton_self _
    · refine ⟨name, value, rfl, .inr ?_⟩
      rw [Specification.keyHeaders, hschemes]
      exact List.mem_filterMap.mpr ⟨scheme, hscheme, hkey⟩
  · have hother := isManager_of_isRequest (isRequest_of_requests (requests_of_sampler hrequest))
    rw [headers_eq_nil hother] at hheader
    cases hheader

/-- Every group sets the headers for keys. -/
lemma exists_mem_headersBelow {group : Text × List Operation} {element : Element}
    (h : IsMadeOf config presets spec group element) : ∀ name ∈ spec.keyHeaders,
      ∃ value, textPair (name, value) ∈ element.headersBelow := by
  obtain ⟨schemes, _, _, _, hschemes, -⟩ := h.layout
  intro name hname
  rw [Specification.keyHeaders, hschemes] at hname
  obtain ⟨scheme, hscheme, hkey⟩ := List.mem_filterMap.mp hname
  obtain ⟨manager, hmanager, hmade⟩ := h.exists_manager hschemes scheme hscheme
  obtain ⟨value, hvalue⟩ := exists_header_of_sends hmade hkey
  exact ⟨value, List.mem_flatMap.mpr ⟨manager, hmanager, hvalue⟩⟩

/-! ## Requests in their group -/

/-- **What a parameter is sent in** has no name that is known in advance, and where it overrides a header of
the group, that is the header for a key. -/
lemma overrides_of_comesFrom {group : Text × List Operation} {element request : Element}
    {operation : Operation} (h : IsMadeOf config presets spec group element)
    (hrequest : (requestOf config presets spec operation).outcome = .ok request) :
    ∀ parameter ∈ operation.parametersIn "header", ∀ header ∈ request.headersBelow,
      comesFrom parameter header = true → parameter.name.lower ∉ managedHeaders presets ∧
        ∀ other ∈ element.headersBelow, sameHeader header other = true →
          ∃ name ∈ spec.keyHeaders, parameter.name.lower = name.lower := by
  intro parameter hparameter header hheader hfrom
  have hmem := mem_headerParameters_of_comesFrom hrequest hparameter hheader hfrom
  have hfree := (mem_headerParameters.mp hmem).2.2
  refine ⟨hfree, fun other hother hsame => ?_⟩
  obtain ⟨value, -, rfl⟩ := comesFrom_iff.mp hfrom
  obtain ⟨name, otherValue, rfl, hname⟩ := name_of_mem_headersBelow h other hother
  have heq : parameter.name.lower = name.lower := of_decide_eq_true hsame
  rcases hname with hmanaged | hkey
  · rw [heq] at hfree
    exact absurd hmanaged hfree
  · exact ⟨name, hkey, heq⟩

/-- A request overrides no header of its group, if none of the parameters that it sends in headers has the
name of the header for a key, and only then. -/
lemma keepsHeaders_iff {group : Text × List Operation} {element request : Element}
    {operation : Operation} (h : IsMadeOf config presets spec group element)
    (hrequest : (requestOf config presets spec operation).outcome = .ok request) :
    KeepsHeaders element operation request ↔
      ∀ parameter ∈ headerParameters presets operation, ∀ name ∈ spec.keyHeaders,
        parameter.name.lower ≠ name.lower := by
  constructor
  · intro hkeeps parameter hparameter name hname
    obtain ⟨own, sent, hheaders, -, hsent⟩ := headersBelow_of_sampler hrequest
    obtain ⟨header, hheader, hfrom⟩ := exists_of_forall₂ hsent.flip parameter hparameter
    obtain ⟨other, hother⟩ := exists_mem_headersBelow h name hname
    have hkept := (hkeeps parameter (mem_headerParameters.mp hparameter).1 header
      (hheaders ▸ List.mem_append_right own hheader) hfrom).2 _ hother
    obtain ⟨value, -, rfl⟩ := comesFrom_iff.mp hfrom
    exact of_decide_eq_false hkept
  · intro hdistinct parameter hparameter header hheader hfrom
    obtain ⟨hfree, hoverrides⟩ :=
      overrides_of_comesFrom h hrequest parameter hparameter header hheader hfrom
    constructor
    · intro heq
      rw [heq] at hfree
      exact hfree (List.mem_append_right _ (List.mem_singleton_self _))
    · intro other hother
      rw [← Bool.not_eq_true]
      intro hsame
      obtain ⟨name, hname, heq⟩ := hoverrides other hother hsame
      exact hdistinct parameter (mem_headerParameters_of_comesFrom hrequest hparameter hheader hfrom)
        name hname heq

variable (presets) (spec)

/-- **The headers of a request** beside those of its group. -/
structure SetsHeaders (group : Element) (operation : Operation) (request : Element) : Prop where
  /-- It has those that its body brings, followed by one for each parameter that is sent in a header. -/
  headers : ∃ own sent, request.headersBelow = own ++ sent ∧ (∀ header ∈ own, header = formHeader) ∧
    List.Forall₂ (fun parameter header => comesFrom parameter header = true)
      (headerParameters presets operation) sent
  /-- What a parameter is sent in is neither the header for authorization nor a standard header; where it
  overrides a header of the group, that is the header for a key. -/
  overrides : ∀ parameter ∈ operation.parametersIn "header", ∀ header ∈ request.headersBelow,
    comesFrom parameter header = true → parameter.name.lower ∉ managedHeaders presets ∧
      ∀ other ∈ group.headersBelow, sameHeader header other = true →
        ∃ name ∈ spec.keyHeaders, parameter.name.lower = name.lower
  /-- Nothing is overridden exactly if no parameter that is sent has the name of the header for a key. -/
  keeps : KeepsHeaders group operation request ↔
    ∀ parameter ∈ headerParameters presets operation, ∀ name ∈ spec.keyHeaders,
      parameter.name.lower ≠ name.lower

variable {presets} {spec}

end

/-- **Header parameters override headers for keys, and no others.**  In a plan that is assembled, each request
of each group has the headers that it has to have; it keeps those of its group, if none of its parameters
has the name of the header for a key. -/
theorem headers_kept_iff {config : Config} {presets : Presets} {spec : Specification}
    {groups : Operation.Groups} {plan : Element}
    (h : (assemble config presets spec groups).outcome = .ok plan) :
    ∃ elements, plan.children = httpDefaults :: elements ∧
      List.Forall₂ (fun group element => List.Forall₂ (SetsHeaders presets spec element) group.2
        element.requests) groups elements := by
  obtain ⟨root, elements, -, rfl, hmade, -⟩ := layout_of_assemble h
  refine ⟨elements, rfl, hmade.imp fun group element helement => ?_⟩
  exact helement.requests.imp fun operation request hrequest =>
    ⟨headersBelow_of_sampler hrequest, overrides_of_comesFrom helement hrequest,
      keepsHeaders_iff helement hrequest⟩

theorem headers_kept_iff_secured : ∃ spec operations plan elements,
    Specification.read Yaml.reader secured none (.text []) = .ok spec ∧ spec.operations = .ok operations ∧
      (assemble (Config.usual.groupedBy .byTag) .usual spec (Operation.group .byTag operations)).outcome =
        .ok plan ∧
      plan.children = httpDefaults :: elements ∧
      List.Forall₂ (fun group element => List.Forall₂ (SetsHeaders .usual spec element) group.2
        element.requests) (Operation.group .byTag operations) elements := by
  obtain ⟨spec, operations, hspec, hoperations, -, -, -, -, hplans⟩ := assemble_secured
  obtain ⟨plan, hplan, -⟩ := hplans .byTag
  obtain ⟨elements, hchildren, hheaders⟩ := headers_kept_iff hplan
  exact ⟨spec, operations, plan, elements, hspec, hoperations, hplan, hchildren, hheaders⟩

/-- **A header for a key can be overridden**: in the plan of the example, a request has a parameter of its
name. -/
theorem headers_not_kept : ∃ spec operations plan,
    Specification.read Yaml.reader secured none (.text []) = .ok spec ∧ spec.operations = .ok operations ∧
      (assemble .usual .usual spec (Operation.group .byTag operations)).outcome = .ok plan ∧
      ¬ KeepAllHeaders (Operation.group .byTag operations) plan.children.tail := by
  have hchecked : (do
      let spec ← Specification.read Yaml.reader secured none (.text [])
      let operations ← spec.operations
      let plan ← (assemble .usual .usual spec (Operation.group .byTag operations)).outcome
      return decide (¬ KeepAllHeaders (Operation.group .byTag operations)
        plan.children.tail)).toOption = some true := by decide +kernel
  have hrun := eq_ok_of_toOption hchecked
  obtain ⟨spec, hspec, hrun⟩ := exists_of_except_bind hrun
  obtain ⟨operations, hoperations, hrun⟩ := exists_of_except_bind hrun
  obtain ⟨plan, hplan, hrun⟩ := exists_of_except_bind hrun
  exact ⟨spec, operations, plan, hspec, hoperations, hplan, of_decide_eq_true (Except.ok.inj hrun)⟩

end Plan

end LoadPlan
