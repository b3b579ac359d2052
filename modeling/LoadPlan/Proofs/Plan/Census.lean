import LoadPlan.Proofs.Compile.Success
import LoadPlan.Proofs.Operation.Grouping
import LoadPlan.Proofs.Plan.Credentials
import Mathlib.Data.List.Forall2

/-!
# Every operation is requested once

Operations go through three loops on their way into a plan: they are put into groups, a group of
virtual users is made for each group, and a request for each operation of it.

* `Element.isRequest`, `Element.isThreadGroup` — the elements that are counted.
* `Element.IsAside` — an element with neither of these at or below it.
* `Requests` — an element requests an operation.
* `Serves` — a group of virtual users sends the requests of a group of operations, one for each.
* `Covers` — a plan has a group of virtual users for each group of operations.
* `covers_of_assemble` — a plan that is assembled covers the groups that go into it.
* **`operations_kept`** — groups are what they have to be, plans cover them, and what a compilation
  counts is in the plan.
-/

namespace LoadPlan

namespace Plan

/-! ## What is counted -/

namespace Element

/-- Whether an element is a request. -/
def isRequest (element : Element) : Bool :=
  match element.settings with
  | .httpSampler _ => true
  | _ => false

/-- Whether an element is a group of virtual users. -/
def isThreadGroup (element : Element) : Bool :=
  match element.settings with
  | .threadGroup _ => true
  | _ => false

/-- **An element with neither requests nor groups** at or below it. -/
def IsAside (element : Element) : Prop :=
  ∀ e ∈ element.walk, e.isRequest = false ∧ e.isThreadGroup = false

lemma walkAll_eq_flatMap (elements : List Element) : walkAll elements = elements.flatMap walk := by
  induction elements with
  | nil => rfl
  | cons element rest ih => rw [walkAll, ih, List.flatMap_cons]

lemma self_mem_walk (element : Element) : element ∈ element.walk := by
  cases element with
  | mk name enabled settings children => exact List.mem_cons_self

/-- What holds of an element, and at and below each of its children, holds at and below it. -/
lemma forall_mem_walk {motive : Element → Prop} {element : Element} (h : motive element)
    (hbelow : ∀ child ∈ element.children, ∀ e ∈ child.walk, motive e) :
    ∀ e ∈ element.walk, motive e := by
  obtain ⟨name, enabled, settings, children⟩ := element
  intro e he
  rw [walk, List.mem_cons] at he
  rcases he with rfl | he
  · exact h
  · rw [walkAll_eq_flatMap] at he
    obtain ⟨child, hchild, he⟩ := List.mem_flatMap.mp he
    exact hbelow child hchild e he

lemma walk_of (name : Text) (settings : Settings) :
    (Element.of name settings []).walk = [Element.of name settings []] := rfl

end Element

/-! ## Requests -/

/-- **An element requests an operation**: it is a request of its method to its path below that of
the server, possibly with a query, and nothing else that is counted is below it. -/
structure Requests (operation : Operation) (element : Element) : Prop where
  /-- Method and path are those of the operation. -/
  request : ∃ (settings : HttpSampler) (query : Text),
    element.settings = .httpSampler settings ∧ settings.method = .text operation.method.name ∧
      settings.path =
        .text (variableRef "BASE_PATH" ++ templatePath operation.path ++ query) ∧
      (query = [] ∨ ∃ rest, query = ('?' : Rune) :: rest)
  /-- What is below it is not counted. -/
  below : ∀ e ∈ element.children, e.IsAside

/-- **A group of virtual users serves a group of operations**: it has their name, and its requests
are those of the operations, one for each. -/
structure Serves (group : Text × List Operation) (element : Element) : Prop where
  /-- The name is made of that of the group. -/
  name : element.name = .text (group.1 ++ " Tests")
  /-- It is a group of virtual users. -/
  isThreadGroup : element.isThreadGroup = true
  /-- It has a request for each operation. -/
  requests : List.Forall₂ Requests group.2 (element.children.filter Element.isRequest)
  /-- Nothing else below it is counted. -/
  others : ∀ e ∈ element.children, e.isRequest = false → e.IsAside

/-- **A plan covers groups of operations**: below its root are what all requests have in common and
a group of virtual users for each group. -/
structure Covers (groups : Operation.Groups) (plan : Element) : Prop where
  /-- It begins with the root of a plan. -/
  isRoot : ∃ root, plan.settings = .testPlan root
  /-- Below the root are groups that serve the groups. -/
  children : ∃ elements, plan.children = httpDefaults :: elements ∧
    List.Forall₂ Serves groups elements

section

variable {config : Config} {presets : Presets}

lemma isAside_of {name : Text} {settings : Settings}
    (hrequest : (Element.of name settings []).isRequest = false)
    (hgroup : (Element.of name settings []).isThreadGroup = false) :
    (Element.of name settings []).IsAside := by
  intro e he
  rw [Element.walk_of, List.mem_singleton] at he
  subst he
  exact ⟨hrequest, hgroup⟩

/-- What holds of the headers of a request, of its checks and of its extractors holds of all that is right
below it. -/
lemma forall_mem_samplerChildren {motive : Element → Prop} {headers : List Pair}
    (hheaders : motive (.of "Request Headers" (.headerManager { headers }) []))
    (hchecks : ∀ e ∈ assertions config presets, motive e)
    (hextractors : ∀ field ∈ presets.correlationFields, motive (extractor field)) :
    ∀ e ∈ samplerChildren config presets headers, motive e := by
  rw [samplerChildren, List.forall_mem_append, List.forall_mem_append]
  refine ⟨⟨?_, ?_⟩, ?_⟩
  · split_ifs
    · exact List.forall_mem_nil _
    · exact List.forall_mem_singleton.mpr hheaders
  · split_ifs
    · exact hchecks
    · exact List.forall_mem_nil _
  · split_ifs
    · exact List.forall_mem_map.mpr hextractors
    · exact List.forall_mem_nil _

lemma isAside_of_mem_samplerChildren {headers : List Pair} :
    ∀ e ∈ samplerChildren config presets headers, e.IsAside := by
  refine forall_mem_samplerChildren (isAside_of rfl rfl) ?_ fun field _ => isAside_of rfl rfl
  rw [assertions, List.forall_mem_cons, List.forall_mem_singleton]
  exact ⟨isAside_of rfl rfl, isAside_of rfl rfl⟩

/-- The path of a request is that of its operation, up to a query. -/
lemma requestPath_eq (operation : Operation) (query : List (Text × Text)) (hasBody : Bool) :
    ∃ rest : Text, requestPath operation query hasBody =
        variableRef "BASE_PATH" ++ templatePath operation.path ++ rest ∧
      (rest = [] ∨ ∃ more, rest = ('?' : Rune) :: more) := by
  unfold requestPath
  split
  · exact ⟨('?' : Rune) :: queryText query, by simp only [List.append_assoc]; rfl, .inr ⟨_, rfl⟩⟩
  · exact ⟨[], (List.append_nil _).symm, .inl rfl⟩

/-- **The request of an operation requests it.** -/
lemma requests_of_sampler {operation : Operation} {resolver : Resolver} {element : Element}
    (h : (sampler config presets operation resolver).outcome = .ok element) :
    Requests operation element := by
  obtain ⟨query, -, h⟩ := Report.exists_of_bind h
  obtain ⟨sent, -, h⟩ := Report.exists_of_bind h
  obtain ⟨headers, -, h⟩ := Report.exists_of_bind h
  obtain rfl := Except.ok.inj h
  obtain ⟨rest, hpath, hrest⟩ := requestPath_eq operation query sent.body?.isSome
  exact ⟨⟨_, rest, rfl, rfl, congrArg Value.text hpath, hrest⟩, isAside_of_mem_samplerChildren⟩

/-- The requests of some operations are made one by one. -/
lemma forall₂_samplers {resolver : Resolver} : ∀ {operations : List Operation}
    {elements : List Element}, (samplers config presets resolver operations).outcome = .ok elements →
      List.Forall₂ (fun operation element =>
        (sampler config presets operation resolver).outcome = .ok element) operations elements
  | [], elements, h => by
      obtain rfl := Except.ok.inj h
      exact .nil
  | operation :: rest, elements, h => by
      rw [samplers] at h
      obtain ⟨element, helement, h⟩ := Report.exists_of_bind h
      obtain ⟨others, hothers, h⟩ := Report.exists_of_bind h
      obtain rfl := Except.ok.inj h
      exact .cons helement (forall₂_samplers hothers)

lemma requests_of_samplers {resolver : Resolver} {operations : List Operation}
    {elements : List Element} (h : (samplers config presets resolver operations).outcome = .ok elements) :
    List.Forall₂ Requests operations elements :=
  (forall₂_samplers h).imp fun _ _ => requests_of_sampler

lemma isRequest_of_requests {operation : Operation} {element : Element}
    (h : Requests operation element) : element.isRequest = true := by
  obtain ⟨settings, query, hsettings, -⟩ := h.request
  rw [Element.isRequest, hsettings]

/-- What holds of an element for the item that it stands next to holds of all elements. -/
lemma forall_mem_of_forall₂ {α : Type} {relation : α → Element → Prop} {motive : Element → Prop}
    {items : List α} {elements : List Element} (h : List.Forall₂ relation items elements)
    (hmotive : ∀ item element, relation item element → motive element) :
    ∀ e ∈ elements, motive e := by
  induction h with
  | nil => exact List.forall_mem_nil _
  | cons hfirst _ ih => exact List.forall_mem_cons.mpr ⟨hmotive _ _ hfirst, ih⟩

/-! ## Groups of virtual users -/

/-- An element stands next to one of the items. -/
lemma exists_of_forall₂ {α β : Type} {relation : α → β → Prop} {items : List α} {elements : List β}
    (h : List.Forall₂ relation items elements) : ∀ e ∈ elements, ∃ item ∈ items, relation item e := by
  induction h with
  | nil => exact List.forall_mem_nil _
  | cons hfirst _ ih =>
      refine List.forall_mem_cons.mpr ⟨⟨_, List.mem_cons_self, hfirst⟩, fun e he => ?_⟩
      obtain ⟨item, hitem, hrelation⟩ := ih e he
      exact ⟨item, List.mem_cons_of_mem _ hitem, hrelation⟩

/-- What is found for some items is found for one of them. -/
lemma exists_of_mapM {α β : Type} {f : α → Except Fault β} {xs : List α} {ys : List β}
    (h : xs.mapM f = .ok ys) : ∀ y ∈ ys, ∃ x ∈ xs, f x = .ok y :=
  exists_of_forall₂ (forall₂_of_mapM h)

lemma isAside_of_credentialManager {scheme : Scheme} {element : Element}
    (h : credentialManager scheme = .ok element) : element.IsAside := by
  cases sends_of_credentialManager h <;> exact isAside_of rfl rfl

lemma isAside_of_mem_listeners {name : Text} : ∀ e ∈ listeners name, e.IsAside := by
  intro e he
  obtain ⟨display, -, rfl⟩ := List.mem_map.mp he
  exact isAside_of rfl rfl

/-- What stands in front of the requests of a group is not counted. -/
lemma isAside_of_mem_front (config : Config) (presets : Presets) {schemes : List Scheme}
    {managers : List Element} (h : schemes.mapM credentialManager = .ok managers) (name : Text) :
    ∀ e ∈ (if config.generateCsvConfig.isTruthy then [csvDataSet presets] else []) ++
      [standardHeaders presets name] ++ managers, e.IsAside := by
  intro e he
  rw [List.mem_append, List.mem_append, List.mem_singleton] at he
  rcases he with (he | rfl) | he
  · split at he
    · obtain rfl := List.mem_singleton.mp he
      exact isAside_of rfl rfl
    · cases he
  · exact isAside_of rfl rfl
  · obtain ⟨scheme, -, hscheme⟩ := exists_of_mapM h e he
    exact isAside_of_credentialManager hscheme

/-- What stands behind the requests of a group is not counted. -/
lemma isAside_of_mem_back (config : Config) (name : Text) :
    ∀ e ∈ (if config.enableReporting.isTruthy then listeners name else []), e.IsAside := by
  intro e he
  split at he
  · exact isAside_of_mem_listeners e he
  · cases he

lemma isRequest_of_isAside {element : Element} (h : element.IsAside) : element.isRequest = false :=
  (h element element.self_mem_walk).1

/-- Among requests and elements that are not counted, the requests are those. -/
lemma filter_isRequest {before requests after : List Element} (hbefore : ∀ e ∈ before, e.IsAside)
    (hafter : ∀ e ∈ after, e.IsAside) (hrequests : ∀ e ∈ requests, e.isRequest = true) :
    (before ++ requests ++ after).filter Element.isRequest = requests := by
  rw [List.filter_append, List.filter_append, List.filter_eq_self.mpr hrequests,
    List.filter_eq_nil_iff.mpr, List.filter_eq_nil_iff.mpr, List.nil_append, List.append_nil]
  · intro e he
    rw [isRequest_of_isAside (hafter e he)]
    exact Bool.false_ne_true
  · intro e he
    rw [isRequest_of_isAside (hbefore e he)]
    exact Bool.false_ne_true

variable {spec : Specification}

/-- **What a group of virtual users is made of.** -/
lemma parts_of_threadGroup {name : Text} {operations : List Operation} {element : Element}
    (h : (threadGroup config presets spec name operations).outcome = .ok element) :
    ∃ (settings : ThreadGroup) (schemes : List Scheme) (managers requests : List Element),
      spec.schemes.outcome = .ok schemes ∧ schemes.mapM credentialManager = .ok managers ∧
      (samplers config presets ⟨spec.document, Resolver.usualDepth⟩ operations).outcome =
        .ok requests ∧
      element = .of (name ++ " Tests") (.threadGroup settings)
        ((if config.generateCsvConfig.isTruthy then [csvDataSet presets] else []) ++
          [standardHeaders presets name] ++ managers ++ requests ++
            (if config.enableReporting.isTruthy then listeners name else [])) := by
  obtain ⟨settings, -, h⟩ := Report.exists_of_bind h
  obtain ⟨schemes, hschemes, h⟩ := Report.exists_of_bind h
  obtain ⟨managers, hmanagers, h⟩ := Report.exists_of_bind h
  obtain ⟨requests, hrequests, h⟩ := Report.exists_of_bind h
  exact ⟨settings, schemes, managers, requests, hschemes, hmanagers, hrequests,
    (Except.ok.inj h).symm⟩

/-- **A group of virtual users serves the operations that it is made for.** -/
lemma serves_of_threadGroup {name : Text} {operations : List Operation} {element : Element}
    (h : (threadGroup config presets spec name operations).outcome = .ok element) :
    Serves (name, operations) element := by
  obtain ⟨settings, schemes, managers, requests, -, hmanagers, hrequests, rfl⟩ :=
    parts_of_threadGroup h
  have hpairs := requests_of_samplers hrequests
  have hrequest := forall_mem_of_forall₂ hpairs fun _ _ => isRequest_of_requests
  have hfront := isAside_of_mem_front config presets hmanagers name
  have hback := isAside_of_mem_back config name
  refine ⟨rfl, rfl, ?_, fun e he hother => ?_⟩
  · show List.Forall₂ Requests operations ((_ ++ requests ++ _).filter Element.isRequest)
    rw [filter_isRequest hfront hback hrequest]
    exact hpairs
  · rcases List.mem_append.mp he with he | he
    · rcases List.mem_append.mp he with he | he
      · exact hfront e he
      · exact absurd hother (by rw [hrequest e he]; decide)
    · exact hback e he

lemma serves_of_threadGroups : ∀ {groups : Operation.Groups} {elements : List Element},
    (threadGroups config presets spec groups).outcome = .ok elements →
      List.Forall₂ Serves groups elements
  | [], elements, h => by
      obtain rfl := Except.ok.inj h
      exact .nil
  | (name, operations) :: rest, elements, h => by
      rw [threadGroups] at h
      obtain ⟨element, helement, h⟩ := Report.exists_of_bind h
      obtain ⟨others, hothers, h⟩ := Report.exists_of_bind h
      obtain rfl := Except.ok.inj h
      exact .cons (serves_of_threadGroup helement) (serves_of_threadGroups hothers)

/-- **A plan that is assembled covers the groups that go into it.** -/
theorem covers_of_assemble {groups : Operation.Groups} {plan : Element}
    (h : (assemble config presets spec groups).outcome = .ok plan) : Covers groups plan := by
  obtain ⟨root, -, h⟩ := Report.exists_of_bind h
  obtain ⟨elements, helements, h⟩ := Report.exists_of_bind h
  obtain rfl := Except.ok.inj h
  exact ⟨⟨_, rfl⟩, elements, rfl, serves_of_threadGroups helements⟩

end

/-! ## What is found in a plan -/

/-- A walk finds the element itself, if it is looked for, and what is found below it. -/
lemma filter_walk (test : Element → Bool) (element : Element) :
    element.walk.filter test = (if test element then [element] else []) ++
      element.children.flatMap fun e => e.walk.filter test := by
  obtain ⟨name, enabled, settings, children⟩ := element
  rw [Element.walk, List.filter_cons, Element.walkAll_eq_flatMap, List.filter_flatMap]
  split_ifs <;> rfl

/-- What is found in each element is the element itself or nothing. -/
lemma flatMap_eq_filter {found : Element → List Element} {test : Element → Bool} :
    ∀ {elements : List Element}, (∀ e ∈ elements, found e = if test e then [e] else []) →
      elements.flatMap found = elements.filter test
  | [], _ => rfl
  | element :: rest, h => by
      rw [List.forall_mem_cons] at h
      rw [List.flatMap_cons, h.1, flatMap_eq_filter h.2, List.filter_cons]
      split_ifs <;> rfl

lemma Element.IsAside.filter_walk {element : Element} (h : element.IsAside) :
    element.walk.filter Element.isRequest = [] ∧ element.walk.filter Element.isThreadGroup = [] := by
  constructor
  · exact List.filter_eq_nil_iff.mpr fun e he => by simp [(h e he).1]
  · exact List.filter_eq_nil_iff.mpr fun e he => by simp [(h e he).2]

/-- In a request, the request is found and nothing else. -/
lemma Requests.filter_walk {operation : Operation} {element : Element}
    (h : Requests operation element) : element.walk.filter Element.isRequest = [element] ∧
      element.walk.filter Element.isThreadGroup = [] := by
  obtain ⟨settings, query, hsettings, -⟩ := h.request
  have hgroup : element.isThreadGroup = false := by rw [Element.isThreadGroup, hsettings]
  have hbelow := fun e he => (h.below e he).filter_walk
  rw [Plan.filter_walk, Plan.filter_walk, isRequest_of_requests h, hgroup,
    List.flatMap_eq_nil_iff.mpr fun e he => (hbelow e he).1,
    List.flatMap_eq_nil_iff.mpr fun e he => (hbelow e he).2]
  exact ⟨rfl, rfl⟩

/-- In a group of virtual users, the group and its requests are found. -/
lemma Serves.filter_walk {group : Text × List Operation} {element : Element}
    (h : Serves group element) :
    element.walk.filter Element.isRequest = element.children.filter Element.isRequest ∧
      element.walk.filter Element.isThreadGroup = [element] := by
  have hself : element.isRequest = false := by
    have hgroup := h.isThreadGroup
    unfold Element.isThreadGroup at hgroup
    unfold Element.isRequest
    split at hgroup
    · rename_i heq
      rw [heq]
    · cases hgroup
  have hchildren : ∀ e ∈ element.children,
      e.walk.filter Element.isRequest = (if e.isRequest then [e] else []) ∧
        e.walk.filter Element.isThreadGroup = [] := by
    intro e he
    cases hrequest : e.isRequest with
    | true =>
        exact forall_mem_of_forall₂ h.requests (fun _ _ => Requests.filter_walk) e
          (List.mem_filter.mpr ⟨he, hrequest⟩)
    | false => exact (h.others e he hrequest).filter_walk
  constructor
  · rw [Plan.filter_walk, hself, flatMap_eq_filter fun e he => (hchildren e he).1]
    rfl
  · rw [Plan.filter_walk, h.isThreadGroup,
      List.flatMap_eq_nil_iff.mpr fun e he => (hchildren e he).2]
    rfl

/-- **In a plan that covers groups**, the groups of virtual users are found with the requests that are
right below them. -/
lemma Covers.filter_walk {groups : Operation.Groups} {plan : Element} (h : Covers groups plan) :
    ∃ elements, plan.children = httpDefaults :: elements ∧ List.Forall₂ Serves groups elements ∧
      plan.walk.filter Element.isRequest =
        elements.flatMap (fun element => element.children.filter Element.isRequest) ∧
      plan.walk.filter Element.isThreadGroup = elements := by
  obtain ⟨root, hroot⟩ := h.isRoot
  obtain ⟨elements, hchildren, hserves⟩ := h.children
  have hrequest : plan.isRequest = false := by rw [Element.isRequest, hroot]
  have hgroup : plan.isThreadGroup = false := by rw [Element.isThreadGroup, hroot]
  have haside : httpDefaults.IsAside := isAside_of rfl rfl
  have hdefaults := haside.filter_walk
  have helements := forall_mem_of_forall₂ hserves fun _ _ => Serves.filter_walk
  refine ⟨elements, hchildren, hserves, ?_, ?_⟩
  · rw [Plan.filter_walk, hrequest, hchildren, List.flatMap_cons, hdefaults.1,
      List.flatMap_congr fun e he => (helements e he).1]
    rfl
  · rw [Plan.filter_walk, hgroup, hchildren, List.flatMap_cons, hdefaults.2,
      List.flatMap_congr fun e he => (helements e he).2]
    exact List.flatMap_singleton' elements

/-- **A plan that covers groups** has one group of virtual users for each, and one request for each of
their operations. -/
lemma Covers.countP {groups : Operation.Groups} {plan : Element} (h : Covers groups plan) :
    plan.walk.countP Element.isRequest = (groups.flatMap Prod.snd).length ∧
      plan.walk.countP Element.isThreadGroup = groups.length := by
  obtain ⟨elements, -, hserves, hrequests, hgroups⟩ := h.filter_walk
  rw [List.countP_eq_length_filter, List.countP_eq_length_filter, hrequests, hgroups]
  refine ⟨?_, hserves.length_eq.symm⟩
  clear h hrequests hgroups
  induction hserves with
  | nil => rfl
  | cons hfirst _ ih =>
      rw [List.flatMap_cons, List.length_append, ih, ← hfirst.requests.length_eq, List.flatMap_cons,
        List.length_append]

end Plan

/-! ## Compilation -/

open Plan

/-- What a compilation counts is in the plan that it writes. -/
lemma compileSpec_counts {presets : Presets} {config : Config} {spec : Specification}
    {result : Compilation} (h : compileSpec presets config spec = .ok result)
    (hsuccess : result.success = true) : ∃ operations plan,
      spec.operations = .ok operations ∧
      (assemble config presets spec (Operation.group config.groupingStrategy operations)).outcome =
        .ok plan ∧
      (render plan).outcome = .ok (result.xml?.getD []) ∧
      result.operationCount = plan.walk.countP Element.isRequest ∧
      result.groupCount = plan.walk.countP Element.isThreadGroup := by
  obtain ⟨operations, hoperations, h⟩ := exists_of_except_bind h
  split at h
  · obtain rfl := Except.ok.inj h
    cases hsuccess
  · cases htext : (planText presets config spec
        (Operation.group config.groupingStrategy operations)).outcome with
    | error fault =>
        simp only [Compilation.ofReport, htext] at h
        cases h
    | ok xml =>
        simp only [Compilation.ofReport, htext] at h
        obtain rfl := Except.ok.inj h
        obtain ⟨plan, hplan, hrender⟩ := Report.exists_of_bind htext
        obtain ⟨hrequests, hgroups⟩ := Covers.countP (covers_of_assemble hplan)
        rw [Operation.length_flatMap_group] at hrequests
        exact ⟨operations, plan, hoperations, hplan, hrender, hrequests.symm, hgroups.symm⟩

/-- A document that is read has a specification. -/
lemma read_of_readOrFail {reader : YamlReader} {config : Config} {source : List Char}
    {declared : Option Text} {spec : Specification}
    (h : readOrFail reader config source declared = .ok (.ok spec)) :
    Specification.read reader source declared config.baseUrl = .ok spec := by
  unfold readOrFail at h
  split at h
  · rename_i read hread
    rw [hread, Except.ok.inj (Except.ok.inj h)]
  · cases h
  · cases h

/-- Without a specification there is a failure. -/
lemma failed_of_readOrFail {reader : YamlReader} {config : Config} {source : List Char}
    {declared : Option Text} {result : Compilation}
    (h : readOrFail reader config source declared = .ok (.error result)) :
    ∃ fault, result = .failed fault := by
  unfold readOrFail at h
  split at h
  · cases h
  · rename_i fault _
    exact ⟨fault, (Except.error.inj (Except.ok.inj h)).symm⟩
  · cases h

/-- **No operation is lost, doubled or moved to another group** on the way to the plan.  The groups of
operations are what they have to be; a plan that is assembled begins with what all requests have in
common, goes on with a group of virtual users for each group of operations, and in it are the
requests of these operations, one for each and in their order; and the numbers that a successful
compilation reports are those of the requests and of the groups of virtual users in its plan. -/
theorem operations_kept :
    (∀ (strategy : Strategy) (operations : List Operation),
      Operation.IsGrouping strategy operations (Operation.group strategy operations)) ∧
    (∀ (config : Config) (presets : Presets) (spec : Specification) (groups : Operation.Groups)
      (plan : Element), (assemble config presets spec groups).outcome = .ok plan →
        Covers groups plan) ∧
    (∀ (reader : YamlReader) (presets : Presets) (options : Options) (source? : Option (List Char))
      (declared : Option Text) (result : Compilation),
      compileWith reader presets options source? declared = .ok result → result.success = true →
        ∃ config spec operations plan,
          options.config = .ok config ∧
          Specification.read reader (sourceText source?) declared config.baseUrl = .ok spec ∧
          spec.operations = .ok operations ∧
          (assemble config presets spec
            (Operation.group config.groupingStrategy operations)).outcome = .ok plan ∧
          (render plan).outcome = .ok (result.xml?.getD []) ∧
          result.operationCount = plan.walk.countP Element.isRequest ∧
          result.groupCount = plan.walk.countP Element.isThreadGroup) := by
  refine ⟨fun strategy => Operation.isGrouping_group strategy, fun _ _ _ _ _ => covers_of_assemble,
    fun reader presets options source? declared result h hsuccess => ?_⟩
  obtain ⟨config, hconfig, h⟩ := exists_of_except_bind h
  obtain ⟨read, hread, h⟩ := exists_of_except_bind h
  cases read with
  | error failed =>
      obtain rfl := Except.ok.inj h
      obtain ⟨fault, rfl⟩ := failed_of_readOrFail hread
      cases hsuccess
  | ok spec =>
      obtain ⟨operations, plan, hrest⟩ := compileSpec_counts h hsuccess
      exact ⟨config, spec, operations, plan, hconfig, read_of_readOrFail hread, hrest⟩

/-- The document with two groups has a plan with two requests in two groups of virtual users. -/
theorem operations_kept_twoPaths : ∃ result plan,
    compileWith Yaml.reader .usual groupedByPath (some twoPaths) none = .ok result ∧
      (render plan).outcome = .ok (result.xml?.getD []) ∧
      plan.walk.countP Element.isRequest = 2 ∧ plan.walk.countP Element.isThreadGroup = 2 := by
  obtain ⟨result, hresult, hsuccess, hoperations, hgroups⟩ := compileWith_twoPaths
  obtain ⟨_, _, _, plan, -, -, -, -, hrender, hrequests, hthreadGroups⟩ :=
    operations_kept.2.2 Yaml.reader .usual groupedByPath (some twoPaths) none result hresult hsuccess
  exact ⟨result, plan, hresult, hrender, hrequests.symm.trans hoperations,
    hthreadGroups.symm.trans hgroups⟩

end LoadPlan
