import LoadPlan.Proofs.Outcome
import LoadPlan.Proofs.Plan.Census

/-!
# What a switch decides

Four options of a configuration say whether a plan has checks, extractors, test data and listeners.
Here a plan is compared with the one that is made when all four are on, and the two runs of the
assembly are compared step by step: whatever one of them does, the other does as well, except that
it may leave out elements of the kinds that are switched off.

* `Report.Agree` — two runs make the same remarks, and both come to an end or neither does.
* `Config.withEverything`, `Config.leavesOut` — all four switches on, and the kinds of elements that
  a configuration switches off.
* `Element.without` — an element without what is below it of certain kinds.
* `IsComplete` — every request has its checks and extractors, every group its data and listeners.
* **`agree_assemble`** — the switches leave out what they name, and nothing else depends on them.
-/

namespace LoadPlan

/-! ## Two runs -/

namespace Report

variable {α β γ δ : Type}

/-- **Two runs agree**: they make the same remarks in the same order, and they stop with the same
fault or have related results. -/
structure Agree (related : α → β → Prop) (first : Report α) (second : Report β) : Prop where
  /-- The remarks are the same. -/
  notes : first.notes = second.notes
  /-- The ends are the same. -/
  ends : SameEnd related first.outcome second.outcome

lemma Agree.pure {related : α → β → Prop} {a : α} {b : β} (h : related a b) :
    Agree related (pure a) (pure b) :=
  ⟨rfl, h⟩

/-- What follows runs that agree agrees, if it does for all related results. -/
lemma Agree.bind {related : α → β → Prop} {target : γ → δ → Prop} {first : Report α}
    {second : Report β} {next : α → Report γ} {other : β → Report δ}
    (h : Agree related first second)
    (hnext : ∀ a b, related a b → Agree target (next a) (other b)) :
    Agree target (first >>= next) (second >>= other) := by
  obtain ⟨hnotes, hends⟩ := h
  cases hfirst : first.outcome with
  | error fault =>
      cases hsecond : second.outcome with
      | error fault' =>
          rw [hfirst, hsecond] at hends
          rw [bind_of_error hfirst, bind_of_error hsecond]
          exact ⟨hnotes, hends⟩
      | ok b => rw [hfirst, hsecond] at hends; exact hends.elim
  | ok a =>
      cases hsecond : second.outcome with
      | error fault => rw [hfirst, hsecond] at hends; exact hends.elim
      | ok b =>
          rw [hfirst, hsecond] at hends
          have hlater := hnext a b hends
          rw [bind_of_ok hfirst, bind_of_ok hsecond]
          exact ⟨by rw [hnotes, hlater.notes], hlater.ends⟩

/-- The same run before two that agree. -/
lemma Agree.after {target : γ → δ → Prop} (report : Report α) {next : α → Report γ}
    {other : α → Report δ}
    (hnext : ∀ a, report.outcome = .ok a → Agree target (next a) (other a)) :
    Agree target (report >>= next) (report >>= other) := by
  cases h : report.outcome with
  | error fault =>
      rw [bind_of_error h, bind_of_error h]
      exact ⟨rfl, rfl⟩
  | ok a =>
      have hlater := hnext a h
      rw [bind_of_ok h, bind_of_ok h]
      exact ⟨by rw [hlater.notes], hlater.ends⟩

/-- What is known of each result of one run is known of the results of both. -/
lemma Agree.and_right {related : α → β → Prop} {motive : β → Prop} {first : Report α}
    {second : Report β} (h : Agree related first second)
    (hsecond : ∀ b, second.outcome = .ok b → motive b) :
    Agree (fun a b => related a b ∧ motive b) first second := by
  refine ⟨h.notes, ?_⟩
  have hends := h.ends
  cases hfirst : first.outcome with
  | error fault =>
      cases hother : second.outcome with
      | error fault' => rw [hfirst, hother] at hends; exact hends
      | ok b => rw [hfirst, hother] at hends; exact hends.elim
  | ok a =>
      cases hother : second.outcome with
      | error fault => rw [hfirst, hother] at hends; exact hends.elim
      | ok b =>
          rw [hfirst, hother] at hends
          exact ⟨hends, hsecond b hother⟩

end Report

open Plan

/-! ## Switches -/

/-- **The same configuration with all four switches on.** -/
def Config.withEverything (config : Config) : Config :=
  { config with
    addAssertions := .bool true
    addCorrelation := .bool true
    generateCsvConfig := .bool true
    enableReporting := .bool true }

/-- **The kinds of elements that a configuration switches off.** -/
def Config.leavesOut (config : Config) : Settings → Bool
  | .responseAssertion _ | .durationAssertion _ => !config.addAssertions.isTruthy
  | .jsonExtractor _ => !config.addCorrelation.isTruthy
  | .csvDataSet _ => !config.generateCsvConfig.isTruthy
  | .resultCollector _ => !config.enableReporting.isTruthy
  | _ => false

namespace Plan

namespace Element

mutual

/-- **An element without what is below it of certain kinds.** -/
def without (drop : Settings → Bool) : Element → Element
  | mk name enabled settings children => mk name enabled settings (allWithout drop children)

def allWithout (drop : Settings → Bool) : List Element → List Element
  | [] => []
  | element :: rest =>
    if drop element.settings then allWithout drop rest
    else element.without drop :: allWithout drop rest

end

variable {drop : Settings → Bool}

@[simp] lemma without_of (name : Text) (settings : Settings) (children : List Element) :
    (Element.of name settings children).without drop =
      Element.of name settings (allWithout drop children) := rfl

lemma allWithout_cons_of_keep {element : Element} (h : drop element.settings = false)
    (rest : List Element) :
    allWithout drop (element :: rest) = element.without drop :: allWithout drop rest := by
  rw [allWithout, h]
  rfl

lemma allWithout_append (xs ys : List Element) :
    allWithout drop (xs ++ ys) = allWithout drop xs ++ allWithout drop ys := by
  induction xs with
  | nil => rfl
  | cons x xs ih =>
      rw [List.cons_append, allWithout, allWithout, ih]
      split_ifs
      · rfl
      · rfl

/-- Elements of kinds that are left out are left out. -/
lemma allWithout_eq_nil {elements : List Element} (h : ∀ e ∈ elements, drop e.settings = true) :
    allWithout drop elements = [] := by
  induction elements with
  | nil => rfl
  | cons element rest ih =>
      rw [allWithout, h element List.mem_cons_self, if_pos rfl]
      exact ih fun e he => h e (List.mem_cons_of_mem element he)

/-- Elements of other kinds with nothing below them stay as they are. -/
lemma allWithout_eq_self {elements : List Element}
    (h : ∀ e ∈ elements, drop e.settings = false ∧ e.children = []) :
    allWithout drop elements = elements := by
  induction elements with
  | nil => rfl
  | cons element rest ih =>
      obtain ⟨hkeep, hbare⟩ := h element List.mem_cons_self
      have hsame : element.without drop = element := by
        obtain ⟨name, enabled, settings, children⟩ := element
        obtain rfl : children = [] := hbare
        rfl
      rw [allWithout_cons_of_keep hkeep, hsame,
        ih fun e he => h e (List.mem_cons_of_mem element he)]

/-- What is put in under a condition is what is put in without it, unless it is left out. -/
lemma allWithout_switched {on : Bool} {elements : List Element}
    (h : ∀ e ∈ elements, drop e.settings = !on ∧ e.children = []) :
    (if on = true then elements else []) = allWithout drop elements := by
  cases on with
  | true => exact (allWithout_eq_self h).symm
  | false => exact (allWithout_eq_nil fun e he => (h e he).1).symm

/-- The description of a plan is blanked out; all else stays. -/
def withoutComments : Element → Element
  | mk name enabled (.testPlan settings) children =>
    mk name enabled (.testPlan { settings with comments := .null }) children
  | element => element

end Element

/-! ## Complete plans -/

def Settings.isCheck : Settings → Bool
  | responseAssertion _ | durationAssertion _ => true
  | _ => false

def Settings.isExtractor : Settings → Bool
  | jsonExtractor _ => true
  | _ => false

def Settings.isDataSet : Settings → Bool
  | csvDataSet _ => true
  | _ => false

def Settings.isListener : Settings → Bool
  | resultCollector _ => true
  | _ => false

/-- The elements right below another that are of a kind. -/
def Element.childrenOf (element : Element) (kind : Settings → Bool) : List Element :=
  element.children.filter fun e => kind e.settings

/-- **A request with its checks and extractors**: a check of the status, one of the time, and one
extractor for each field that is kept. -/
structure IsChecked (config : Config) (presets : Presets) (request : Element) : Prop where
  /-- There is one pair of checks. -/
  checks : request.childrenOf Settings.isCheck = assertions config presets
  /-- There is one extractor for each field. -/
  extractors : request.childrenOf Settings.isExtractor = presets.correlationFields.map extractor

/-- **A group with its data and listeners**: one file with test data, and three listeners. -/
structure IsObserved (presets : Presets) (group : Element) : Prop where
  /-- There is one file with test data. -/
  dataSet : group.childrenOf Settings.isDataSet = [csvDataSet presets]
  /-- There is one listener for each display, under the name of the group. -/
  listeners : ∃ name : Text, group.name = .text (name ++ " Tests") ∧
    group.childrenOf Settings.isListener = listeners name
  /-- There are three displays. -/
  three : (group.childrenOf Settings.isListener).length = 3

/-- **A plan in which nothing is left out.** -/
structure IsComplete (config : Config) (presets : Presets) (plan : Element) : Prop where
  /-- Every request has its checks and extractors. -/
  requests : ∀ e ∈ plan.walk, e.isRequest = true → IsChecked config presets e
  /-- Every group has its data and listeners. -/
  groups : ∀ e ∈ plan.walk, e.isThreadGroup = true → IsObserved presets e

/-! ## What is made for an operation -/

section

variable {config : Config} {presets : Presets} {spec : Specification}

lemma children_of_mem_assertions : ∀ e ∈ assertions config presets, e.children = [] := by
  intro e he
  simp only [assertions, List.mem_cons, List.not_mem_nil, or_false] at he
  rcases he with rfl | rfl <;> rfl

/-- **What is below a request**: the switches leave out their kinds, and the headers stay. -/
lemma samplerChildren_eq (headers : List Pair) :
    samplerChildren config presets headers =
      Element.allWithout config.leavesOut
        (samplerChildren config.withEverything presets headers) := by
  have hheaders : Element.allWithout config.leavesOut
      (if headers.isEmpty then [] else [.of "Request Headers" (.headerManager { headers }) []]) =
        if headers.isEmpty then [] else [.of "Request Headers" (.headerManager { headers }) []] := by
    refine Element.allWithout_eq_self ?_
    intro e he
    split at he
    · cases he
    · obtain rfl := List.mem_singleton.mp he
      exact ⟨rfl, rfl⟩
  have hchecks : (if config.addAssertions.isTruthy = true then assertions config presets else []) =
      Element.allWithout config.leavesOut (assertions config presets) := by
    refine Element.allWithout_switched ?_
    intro e he
    refine ⟨?_, children_of_mem_assertions e he⟩
    simp only [assertions, List.mem_cons, List.not_mem_nil, or_false] at he
    rcases he with rfl | rfl <;> rfl
  have hextractors : (if config.addCorrelation.isTruthy = true then
      presets.correlationFields.map extractor else []) =
        Element.allWithout config.leavesOut (presets.correlationFields.map extractor) := by
    refine Element.allWithout_switched ?_
    intro e he
    obtain ⟨field, -, rfl⟩ := List.mem_map.mp he
    exact ⟨rfl, rfl⟩
  rw [samplerChildren, samplerChildren, Element.allWithout_append, Element.allWithout_append,
    hheaders, hchecks, hextractors]
  rfl

/-- An element is what another is without the kinds that are switched off, and is not itself of
such a kind. -/
def LeftBy (config : Config) (element full : Element) : Prop :=
  config.leavesOut full.settings = false ∧ element = full.without config.leavesOut

/-- The same for several elements. -/
def AllLeftBy (config : Config) (elements full : List Element) : Prop :=
  elements = Element.allWithout config.leavesOut full

/-- **The request of an operation**, in two runs. -/
lemma agree_sampler (operation : Operation) (resolver : Resolver) :
    Report.Agree (LeftBy config) (sampler config presets operation resolver)
      (sampler config.withEverything presets operation resolver) := by
  refine Report.Agree.after _ fun query _ => ?_
  refine Report.Agree.after _ fun sent _ => ?_
  refine Report.Agree.after _ fun headers _ => ?_
  refine Report.Agree.pure ⟨rfl, ?_⟩
  rw [Element.without_of, ← samplerChildren_eq]
  rfl

lemma agree_samplers (resolver : Resolver) (operations : List Operation) :
    Report.Agree (AllLeftBy config) (samplers config presets resolver operations)
      (samplers config.withEverything presets resolver operations) := by
  induction operations with
  | nil => exact Report.Agree.pure rfl
  | cons operation rest ih =>
      refine (agree_sampler operation resolver).bind ?_
      rintro element full ⟨hkeep, rfl⟩
      refine ih.bind ?_
      rintro elements others rfl
      exact Report.Agree.pure (Element.allWithout_cons_of_keep hkeep others).symm

/-! ## What is made for a group -/

/-- Credentials are sent by managers of headers and of authorization. -/
lemma manager_cases {schemes : List Scheme} {managers : List Element}
    (h : schemes.mapM credentialManager = .ok managers) : ∀ e ∈ managers,
      ((∃ manager, e.settings = .headerManager manager) ∨
        ∃ manager, e.settings = .authManager manager) ∧ e.children = [] := by
  intro e he
  obtain ⟨scheme, -, hscheme⟩ := exists_of_mapM h e he
  cases sends_of_credentialManager hscheme with
  | key => exact ⟨.inl ⟨_, rfl⟩, rfl⟩
  | token => exact ⟨.inl ⟨_, rfl⟩, rfl⟩
  | login => exact ⟨.inr ⟨_, rfl⟩, rfl⟩

lemma allWithout_managers {schemes : List Scheme} {managers : List Element}
    (h : schemes.mapM credentialManager = .ok managers) :
    Element.allWithout config.leavesOut managers = managers := by
  refine Element.allWithout_eq_self ?_
  intro e he
  obtain ⟨⟨manager, hmanager⟩ | ⟨manager, hmanager⟩, hbare⟩ := manager_cases h e he
  · rw [hmanager]
    exact ⟨rfl, hbare⟩
  · rw [hmanager]
    exact ⟨rfl, hbare⟩

/-- **A group of virtual users**, in two runs. -/
lemma agree_threadGroup (name : Text) (operations : List Operation) :
    Report.Agree (LeftBy config) (threadGroup config presets spec name operations)
      (threadGroup config.withEverything presets spec name operations) := by
  have hdata : (if config.generateCsvConfig.isTruthy = true then [csvDataSet presets] else []) =
      Element.allWithout config.leavesOut [csvDataSet presets] := by
    refine Element.allWithout_switched ?_
    intro e he
    obtain rfl := List.mem_singleton.mp he
    exact ⟨rfl, rfl⟩
  have hlisteners : (if config.enableReporting.isTruthy = true then listeners name else []) =
      Element.allWithout config.leavesOut (listeners name) := by
    refine Element.allWithout_switched ?_
    intro e he
    obtain ⟨display, -, rfl⟩ := List.mem_map.mp he
    exact ⟨rfl, rfl⟩
  refine Report.Agree.after _ fun settings _ => ?_
  refine Report.Agree.after _ fun schemes _ => ?_
  refine Report.Agree.after _ fun managers hmanagers => ?_
  refine (agree_samplers _ operations).bind ?_
  rintro requests full rfl
  refine Report.Agree.pure ⟨rfl, ?_⟩
  rw [Element.without_of, hdata, hlisteners]
  simp only [Element.allWithout_append, allWithout_managers hmanagers]
  rfl

lemma agree_threadGroups (groups : Operation.Groups) :
    Report.Agree (AllLeftBy config) (threadGroups config presets spec groups)
      (threadGroups config.withEverything presets spec groups) := by
  induction groups with
  | nil => exact Report.Agree.pure rfl
  | cons group rest ih =>
      obtain ⟨name, operations⟩ := group
      refine (agree_threadGroup name operations).bind ?_
      rintro element full ⟨hkeep, rfl⟩
      refine ih.bind ?_
      rintro elements others rfl
      exact Report.Agree.pure (Element.allWithout_cons_of_keep hkeep others).symm

/-! ## The whole plan -/

/-- The description is the one thing that tells which switches are on. -/
lemma agree_comments (address : Text) :
    Report.Agree (fun _ _ => True) (Report.ofExcept (comments config spec address))
      (Report.ofExcept (comments config.withEverything spec address)) := by
  refine ⟨by rw [Report.ofExcept_notes, Report.ofExcept_notes], ?_⟩
  simp only [Report.ofExcept_outcome, comments, Config.withEverything]
  -- the numbers are the same, and whether they have texts as well
  generalize integerText config.responseTimeThreshold = responseTime
  generalize integerText config.throughputThreshold = throughput
  generalize integerText config.errorRateThreshold = errorRate
  refine Report.SameEnd.bind responseTime fun _ => ?_
  refine Report.SameEnd.bind throughput fun _ => ?_
  refine Report.SameEnd.bind errorRate fun _ => ?_
  trivial

/-- Two roots that differ in nothing but the description. -/
def SameRoot (root other : Root) : Prop :=
  root.name = other.name ∧ root.settings.userVariables = other.settings.userVariables

lemma agree_testPlan : Report.Agree SameRoot (testPlan config spec)
    (testPlan config.withEverything spec) := by
  refine Report.Agree.after _ fun address _ => ?_
  refine Report.Agree.after _ fun server _ => ?_
  refine Report.Agree.after _ fun serverParts _ => ?_
  refine Report.Agree.after _ fun schemes _ => ?_
  refine Report.Agree.after _ fun credentials _ => ?_
  refine (agree_comments address).bind ?_
  rintro description other -
  exact Report.Agree.pure ⟨rfl, rfl⟩

/-- The same remarks and, but for what is switched off and for the description, the same plan. -/
lemma agree_assemble_left (groups : Operation.Groups) :
    Report.Agree (fun plan full =>
        plan.withoutComments = (full.without config.leavesOut).withoutComments)
      (assemble config presets spec groups)
      (assemble config.withEverything presets spec groups) := by
  refine agree_testPlan.bind ?_
  rintro ⟨name, settings⟩ ⟨name', settings'⟩ ⟨hname, hvariables⟩
  obtain rfl : name = name' := hname
  refine (agree_threadGroups groups).bind ?_
  rintro elements full rfl
  refine Report.Agree.pure ?_
  have hdefaults : Element.allWithout config.leavesOut (httpDefaults :: full) =
      httpDefaults :: Element.allWithout config.leavesOut full :=
    Element.allWithout_cons_of_keep rfl full
  simp only [Root.withGroups, Element.without, Element.withoutComments, hdefaults]
  obtain ⟨comments, userVariables⟩ := settings
  obtain ⟨comments', userVariables'⟩ := settings'
  obtain rfl : userVariables = userVariables' := hvariables
  rfl

/-! ## Nothing is left out -/

lemma filter_of_all {kind : Settings → Bool} {elements : List Element}
    (h : ∀ e ∈ elements, kind e.settings = true) :
    elements.filter (fun e => kind e.settings) = elements :=
  List.filter_eq_self.mpr h

lemma filter_of_none {kind : Settings → Bool} {elements : List Element}
    (h : ∀ e ∈ elements, kind e.settings = false) :
    elements.filter (fun e => kind e.settings) = [] := by
  rw [List.filter_eq_nil_iff]
  intro e he
  rw [h e he]
  exact Bool.false_ne_true

lemma samplerChildren_withEverything (headers : List Pair) :
    samplerChildren config.withEverything presets headers =
      (if headers.isEmpty then [] else [.of "Request Headers" (.headerManager { headers }) []]) ++
        assertions config presets ++ presets.correlationFields.map extractor :=
  rfl

/-- The headers of a request are neither checks nor extractors, and those are not each other. -/
lemma isChecked_of_sampler {operation : Operation} {resolver : Resolver} {request : Element}
    (h : (sampler config.withEverything presets operation resolver).outcome = .ok request) :
    IsChecked config presets request := by
  obtain ⟨query, -, h⟩ := Report.exists_of_bind h
  obtain ⟨sent, -, h⟩ := Report.exists_of_bind h
  obtain ⟨headers, -, h⟩ := Report.exists_of_bind h
  obtain rfl := Except.ok.inj h
  have hextractors : ∀ (kind : Settings → Bool) (on : Bool),
      (∀ settings, kind (.jsonExtractor settings) = on) →
      ∀ e ∈ presets.correlationFields.map extractor, kind e.settings = on := by
    intro kind on hkind e he
    obtain ⟨field, -, rfl⟩ := List.mem_map.mp he
    exact hkind _
  have hheaders : ∀ (kind : Settings → Bool) (more : List Pair),
      (∀ manager, kind (.headerManager manager) = false) →
      ∀ e ∈ (if more.isEmpty then []
        else [Element.of "Request Headers" (.headerManager { headers := more }) []]),
        kind e.settings = false := by
    intro kind more hkind e he
    split at he
    · cases he
    · obtain rfl := List.mem_singleton.mp he
      exact hkind _
  constructor
  · rw [Element.childrenOf, Element.of, Element.children, samplerChildren_withEverything,
      List.filter_append, List.filter_append,
      filter_of_none (hheaders Settings.isCheck _ fun _ => rfl),
      filter_of_none (hextractors Settings.isCheck false fun _ => rfl), List.append_nil]
    rfl
  · rw [Element.childrenOf, Element.of, Element.children, samplerChildren_withEverything,
      List.filter_append, List.filter_append,
      filter_of_none (hheaders Settings.isExtractor _ fun _ => rfl),
      filter_of_all (hextractors Settings.isExtractor true fun _ => rfl)]
    rfl

/-- Each request of a group is made for one of its operations. -/
lemma exists_sampler_of_mem {resolver : Resolver} {operations : List Operation}
    {elements : List Element} (h : (samplers config presets resolver operations).outcome = .ok elements) :
    ∀ e ∈ elements, ∃ operation ∈ operations,
      (sampler config presets operation resolver).outcome = .ok e :=
  exists_of_forall₂ (forall₂_samplers h)

/-- What a plan needs to be complete, of one of its elements. -/
def IsEquipped (config : Config) (presets : Presets) (element : Element) : Prop :=
  (element.isRequest = true → IsChecked config presets element) ∧
    (element.isThreadGroup = true → IsObserved presets element)

lemma isEquipped_of_isAside {element : Element} (h : element.IsAside) :
    ∀ e ∈ element.walk, IsEquipped config presets e := by
  intro e he
  obtain ⟨hrequest, hgroup⟩ := h e he
  refine ⟨fun hyes => ?_, fun hyes => ?_⟩
  · rw [hrequest] at hyes
    cases hyes
  · rw [hgroup] at hyes
    cases hyes

lemma isEquipped_of_sampler {operation : Operation} {resolver : Resolver} {request : Element}
    (h : (sampler config.withEverything presets operation resolver).outcome = .ok request) :
    ∀ e ∈ request.walk, IsEquipped config presets e := by
  have hrequests := requests_of_sampler h
  obtain ⟨settings, query, hsettings, -⟩ := hrequests.request
  refine Element.forall_mem_walk ⟨fun _ => isChecked_of_sampler h, fun hgroup => ?_⟩ ?_
  · rw [Element.isThreadGroup, hsettings] at hgroup
    cases hgroup
  · intro child hchild
    exact isEquipped_of_isAside (hrequests.below child hchild)

/-- What a group of virtual users is made of when all switches are on. -/
lemma exists_of_threadGroup {name : Text} {operations : List Operation} {group : Element}
    (h : (threadGroup config.withEverything presets spec name operations).outcome = .ok group) :
    ∃ (settings : ThreadGroup) (schemes : List Scheme) (managers requests : List Element),
      schemes.mapM credentialManager = .ok managers ∧
      (samplers config.withEverything presets ⟨spec.document, Resolver.usualDepth⟩
        operations).outcome = .ok requests ∧
      group = .of (name ++ " Tests") (.threadGroup settings)
        ([csvDataSet presets, standardHeaders presets name] ++ (managers ++ requests) ++
          listeners name) := by
  obtain ⟨settings, schemes, managers, requests, -, hmanagers, hrequests, rfl⟩ :=
    parts_of_threadGroup h
  refine ⟨settings, schemes, managers, requests, hmanagers, hrequests, ?_⟩
  refine congrArg (Element.of _ _) ?_
  show ([csvDataSet presets] ++ [standardHeaders presets name] ++ managers ++ requests) ++
    listeners name = _
  simp only [List.append_assoc, List.cons_append, List.nil_append]

lemma isObserved_of_threadGroup {name : Text} {operations : List Operation} {group : Element}
    (h : (threadGroup config.withEverything presets spec name operations).outcome = .ok group) :
    IsObserved presets group := by
  obtain ⟨settings, schemes, managers, requests, hmanagers, hrequests, rfl⟩ :=
    exists_of_threadGroup h
  -- neither managers nor requests are data or listeners
  have hother : ∀ kind : Settings → Bool, (∀ manager, kind (.headerManager manager) = false) →
      (∀ manager, kind (.authManager manager) = false) →
      (∀ request, kind (.httpSampler request) = false) →
      ∀ e ∈ managers ++ requests, kind e.settings = false := by
    intro kind hheader hauth hrequest e he
    rcases List.mem_append.mp he with he | he
    · obtain ⟨⟨manager, hmanager⟩ | ⟨manager, hmanager⟩, -⟩ := manager_cases hmanagers e he
      · rw [hmanager]
        exact hheader manager
      · rw [hmanager]
        exact hauth manager
    · obtain ⟨operation, -, hoperation⟩ := exists_sampler_of_mem hrequests e he
      obtain ⟨request, query, hsettings, -⟩ := (requests_of_sampler hoperation).request
      rw [hsettings]
      exact hrequest request
  have hlisteners : ∀ (kind : Settings → Bool) (on : Bool),
      (∀ collector, kind (.resultCollector collector) = on) →
      ∀ e ∈ listeners name, kind e.settings = on := by
    intro kind on hkind e he
    obtain ⟨display, -, rfl⟩ := List.mem_map.mp he
    exact hkind _
  have hlisten : (Element.of (name ++ " Tests") (.threadGroup settings)
      ([csvDataSet presets, standardHeaders presets name] ++ (managers ++ requests) ++
        listeners name)).childrenOf Settings.isListener = listeners name := by
    rw [Element.childrenOf, Element.of, Element.children, List.filter_append, List.filter_append,
      filter_of_none (hother Settings.isListener (fun _ => rfl) (fun _ => rfl) fun _ => rfl),
      filter_of_all (hlisteners Settings.isListener true fun _ => rfl)]
    rfl
  refine ⟨?_, ⟨name, rfl, hlisten⟩, ?_⟩
  · rw [Element.childrenOf, Element.of, Element.children, List.filter_append, List.filter_append,
      filter_of_none (hother Settings.isDataSet (fun _ => rfl) (fun _ => rfl) fun _ => rfl),
      filter_of_none (hlisteners Settings.isDataSet false fun _ => rfl)]
    rfl
  · rw [hlisten]
    rfl

lemma isEquipped_of_threadGroup {name : Text} {operations : List Operation} {group : Element}
    (h : (threadGroup config.withEverything presets spec name operations).outcome = .ok group) :
    ∀ e ∈ group.walk, IsEquipped config presets e := by
  have hserves := serves_of_threadGroup h
  have hobserved := isObserved_of_threadGroup h
  obtain ⟨settings, schemes, managers, requests, hmanagers, hrequests, rfl⟩ :=
    exists_of_threadGroup h
  refine Element.forall_mem_walk ⟨fun hrequest => ?_, fun _ => hobserved⟩ ?_
  · cases hrequest
  · intro child hchild
    cases hrequest : child.isRequest with
    | false => exact isEquipped_of_isAside (hserves.others child hchild hrequest)
    | true =>
        have hmem : child ∈ requests := by
          simp only [Element.of, Element.children, List.mem_append, List.mem_cons,
            List.not_mem_nil, or_false] at hchild
          rcases hchild with ((rfl | rfl) | (hmanager | hmem)) | hlistener
          · cases hrequest
          · cases hrequest
          · obtain ⟨⟨manager, hsettings⟩ | ⟨manager, hsettings⟩, -⟩ :=
              manager_cases hmanagers child hmanager
            · rw [Element.isRequest, hsettings] at hrequest
              cases hrequest
            · rw [Element.isRequest, hsettings] at hrequest
              cases hrequest
          · exact hmem
          · have haside := isAside_of_mem_listeners child hlistener
            rw [isRequest_of_isAside haside] at hrequest
            cases hrequest
        obtain ⟨operation, -, hoperation⟩ := exists_sampler_of_mem hrequests child hmem
        exact isEquipped_of_sampler hoperation

lemma isEquipped_of_threadGroups : ∀ {groups : Operation.Groups} {elements : List Element},
    (threadGroups config.withEverything presets spec groups).outcome = .ok elements →
      ∀ element ∈ elements, ∀ e ∈ element.walk, IsEquipped config presets e
  | [], elements, h, element, hmem => by
      obtain rfl := Except.ok.inj h
      cases hmem
  | (name, operations) :: rest, elements, h, element, hmem => by
      rw [threadGroups] at h
      obtain ⟨first, hfirst, h⟩ := Report.exists_of_bind h
      obtain ⟨others, hothers, h⟩ := Report.exists_of_bind h
      obtain rfl := Except.ok.inj h
      rcases List.mem_cons.mp hmem with rfl | hmem
      · exact isEquipped_of_threadGroup hfirst
      · exact isEquipped_of_threadGroups hothers element hmem

/-- **With all switches on, nothing is left out.** -/
lemma isComplete_of_assemble {groups : Operation.Groups} {plan : Element}
    (h : (assemble config.withEverything presets spec groups).outcome = .ok plan) :
    IsComplete config presets plan := by
  obtain ⟨root, -, h⟩ := Report.exists_of_bind h
  obtain ⟨elements, helements, h⟩ := Report.exists_of_bind h
  obtain rfl := Except.ok.inj h
  have hwalk : ∀ e ∈ (root.withGroups elements).walk, IsEquipped config presets e := by
    refine Element.forall_mem_walk ⟨fun hrequest => ?_, fun hgroup => ?_⟩ ?_
    · cases hrequest
    · cases hgroup
    · intro child hchild
      rcases List.mem_cons.mp hchild with rfl | hchild
      · exact isEquipped_of_isAside (isAside_of rfl rfl)
      · exact isEquipped_of_threadGroups helements child hchild
  exact ⟨fun e he => (hwalk e he).1, fun e he => (hwalk e he).2⟩

/-- **The switches of a configuration leave out what they name, and nothing else depends on them.**
With the switches as configured and with all of them on, the assembly of a plan makes the same
remarks, and it stops with the same fault or comes to an end; and then the plan is the complete one
without the elements of the kinds that are switched off, in the same order and with the same
settings but for the description of the plan. -/
theorem agree_assemble (config : Config) (presets : Presets) (spec : Specification)
    (groups : Operation.Groups) :
    Report.Agree
      (fun plan complete =>
        plan.withoutComments = (complete.without config.leavesOut).withoutComments ∧
          IsComplete config presets complete)
      (assemble config presets spec groups)
      (assemble config.withEverything presets spec groups) :=
  (agree_assemble_left groups).and_right fun _ => isComplete_of_assemble

end

end Plan

end LoadPlan
