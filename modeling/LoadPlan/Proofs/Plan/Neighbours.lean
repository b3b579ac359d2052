import LoadPlan.Proofs.Compile.Recording
import LoadPlan.Proofs.Plan.Layout

/-!
# Requests and their neighbours

The operations of a specification share its document and one log.  Still the request of an operation is
always the same: it depends on the document, on the presets and on the configuration, and neither on how
operations are grouped nor on what else is in the plan or in the log.

* `requestElement` — the element that is made for an operation.
* `Element.allRequests`, `Element.requestsByGroup` — the requests of a plan.
* **`requests_alone`** — every plan has the chosen requests, and regrouping its operations moves them around.
-/

namespace LoadPlan.Plan

section

variable {config : Config} {presets : Presets} {spec : Specification}

/-! ## One request for each operation -/

/-- The request of an operation does not depend on how operations are grouped. -/
lemma requestOf_groupedBy (strategy : Strategy) (operation : Operation) :
    requestOf (config.groupedBy strategy) presets spec operation =
      requestOf config presets spec operation := rfl

/-- The element that is made for an operation; any element at all if there is none. -/
def requestElement (config : Config) (presets : Presets) (spec : Specification)
    (operation : Operation) : Element :=
  (requestOf config presets spec operation).outcome.toOption.getD default

lemma requestElement_of_ok {operation : Operation} {element : Element}
    (h : (requestOf config presets spec operation).outcome = .ok element) :
    requestElement config presets spec operation = element := by
  rw [requestElement, h]
  rfl

/-- The requests of a group are those of its operations. -/
lemma requests_of_isMadeOf {group : Text × List Operation} {element : Element}
    (h : IsMadeOf config presets spec group element) :
    element.requests = group.2.map (requestElement config presets spec) := by
  have hsame := List.forall₂_map_left_iff.mpr (h.requests.imp fun _ _ => requestElement_of_ok)
  rw [List.forall₂_eq_eq_eq] at hsame
  exact hsame.symm

/-- The requests of groups that are made for groups of operations, group by group. -/
lemma map_requests_of_isMadeOf {groups : Operation.Groups} {elements : List Element}
    (h : List.Forall₂ (IsMadeOf config presets spec) groups elements) :
    elements.map Element.requests =
      groups.map fun group => group.2.map (requestElement config presets spec) := by
  induction h with
  | nil => rfl
  | cons hfirst _ ih => rw [List.map_cons, List.map_cons, requests_of_isMadeOf hfirst, ih]

/-- Each operation of a plan has a request, and it is the chosen one. -/
lemma exists_request_of_isMadeOf {groups : Operation.Groups} {elements : List Element}
    (h : List.Forall₂ (IsMadeOf config presets spec) groups elements) :
    ∀ operation ∈ groups.flatMap Prod.snd, (requestOf config presets spec operation).outcome =
      .ok (requestElement config presets spec operation) := by
  induction h with
  | nil => exact List.forall_mem_nil _
  | cons hfirst _ ih =>
      rw [List.flatMap_cons, List.forall_mem_append]
      refine ⟨fun operation hoperation => ?_, ih⟩
      obtain ⟨element, -, helement⟩ := exists_of_forall₂ hfirst.requests.flip operation hoperation
      rw [requestElement_of_ok helement]
      exact helement

/-! ## Requests and remarks of a plan -/

/-- **The requests of a plan**, each with all that is below it, in the order of the plan. -/
def Element.allRequests (plan : Element) : List Element := plan.walk.filter isRequest

/-- The requests of the groups of virtual users of a plan, group by group. -/
def Element.requestsByGroup (plan : Element) : List (List Element) :=
  (plan.walk.filter isThreadGroup).map requests

/-- **The requests of a plan are the chosen ones**, group by group and one by one. -/
lemma requests_of_assemble {groups : Operation.Groups} {plan : Element}
    (h : (assemble config presets spec groups).outcome = .ok plan) :
    plan.requestsByGroup = groups.map (fun group => group.2.map (requestElement config presets spec)) ∧
    plan.allRequests = (groups.flatMap Prod.snd).map (requestElement config presets spec) ∧
    ∀ operation ∈ groups.flatMap Prod.snd, (requestOf config presets spec operation).outcome =
      .ok (requestElement config presets spec operation) := by
  obtain ⟨root, elements, -, rfl, hmade, -⟩ := layout_of_assemble h
  obtain ⟨hrequests, hgroups⟩ := filter_walk_of_assemble h
  have hmap := map_requests_of_isMadeOf hmade
  refine ⟨?_, ?_, exists_request_of_isMadeOf hmade⟩
  · rw [Element.requestsByGroup, hgroups, hmap]
  · rw [Element.allRequests, hrequests, List.map_flatMap, List.flatMap_def, List.flatMap_def, hmap]

/-- **What is remarked in the assembly of a plan** is on its address, on the schemes, or for one of its
operations. -/
lemma mem_notes_of_assemble {groups : Operation.Groups} {plan : Element}
    (h : (assemble config presets spec groups).outcome = .ok plan) :
    ∃ address, baseUrl config spec = .ok address ∧
      ∀ d, d ∈ (assemble config presets spec groups).notes ↔
        d ∈ (Server.ofBaseUrl address).notes ∨ d ∈ spec.schemes.notes ∨
          ∃ operation ∈ groups.flatMap Prod.snd, d ∈ (requestOf config presets spec operation).notes := by
  obtain ⟨root, elements, hroot, -, -, hnotes⟩ := layout_of_assemble h
  obtain ⟨address, _, _, _, _, _, haddress, -, -, -, -, hrootNotes⟩ := parts_of_testPlan hroot
  refine ⟨address, haddress, fun d => ?_⟩
  simp only [hnotes, hrootNotes, remarksOn, List.mem_append, List.mem_flatMap]
  constructor
  · rintro ((hd | hd) | ⟨group, hgroup, hd | ⟨operation, hoperation, hd⟩⟩)
    · exact .inl hd
    · exact .inr (.inl hd)
    · exact .inr (.inl hd)
    · exact .inr (.inr ⟨operation, ⟨group, hgroup, hoperation⟩, hd⟩)
  · rintro (hd | hd | ⟨operation, ⟨group, hgroup, hoperation⟩, hd⟩)
    · exact .inl (.inl hd)
    · exact .inl (.inr hd)
    · exact .inr ⟨group, hgroup, .inr ⟨operation, hoperation, hd⟩⟩

/-- **Putting operations in other groups** moves the requests around and makes the same remarks. -/
lemma perm_of_assemble {strategy other : Strategy} {groups others : Operation.Groups}
    {plan plan' : Element}
    (h : (assemble (config.groupedBy strategy) presets spec groups).outcome = .ok plan)
    (h' : (assemble (config.groupedBy other) presets spec others).outcome = .ok plan')
    (hperm : (groups.flatMap Prod.snd).Perm (others.flatMap Prod.snd)) :
    plan.allRequests.Perm plan'.allRequests ∧
      ∀ d, d ∈ (assemble (config.groupedBy strategy) presets spec groups).notes ↔
        d ∈ (assemble (config.groupedBy other) presets spec others).notes := by
  obtain ⟨-, hrequests, -⟩ := requests_of_assemble h
  obtain ⟨-, hrequests', -⟩ := requests_of_assemble h'
  obtain ⟨address, haddress, hnotes⟩ := mem_notes_of_assemble h
  obtain ⟨address', haddress', hnotes'⟩ := mem_notes_of_assemble h'
  obtain rfl : address = address' := Except.ok.inj (haddress.symm.trans haddress')
  constructor
  · rw [hrequests, hrequests']
    exact hperm.map _
  · intro d
    simp only [hnotes, hnotes', requestOf_groupedBy, hperm.mem_iff]

end

/-- **Requests do not depend on their neighbours.**  There is one choice of a request for each operation, the
one that is made for the operation alone, such that every plan has the chosen requests: whatever the way to
group operations, whatever groups there are and in whatever order, and whatever the log holds already.  In
particular the plans for two ways to group the same operations have the same requests, each with all that is
below it, in some other order; and after both assemblies the log holds the same remarks. -/
theorem requests_alone (config : Config) (presets : Presets) (spec : Specification) :
    ∃ request : Operation → Element,
      (∀ operation element, (requestOf config presets spec operation).outcome = .ok element →
        request operation = element) ∧
      (∀ strategy groups log plan later,
        (assemble (config.groupedBy strategy) presets spec groups).recordedIn log = (.ok plan, later) →
          plan.requestsByGroup = groups.map (fun group => group.2.map request) ∧
          plan.allRequests = (groups.flatMap Prod.snd).map request ∧
          ∀ operation ∈ groups.flatMap Prod.snd,
            (requestOf config presets spec operation).outcome = .ok (request operation)) ∧
      ∀ operations strategy other log plan plan' later later',
        (assemble (config.groupedBy strategy) presets spec
          (Operation.group strategy operations)).recordedIn log = (.ok plan, later) →
        (assemble (config.groupedBy other) presets spec
          (Operation.group other operations)).recordedIn log = (.ok plan', later') →
          plan.allRequests.Perm plan'.allRequests ∧ ∀ d, d ∈ later.items ↔ d ∈ later'.items := by
  refine ⟨requestElement config presets spec, fun _ _ => requestElement_of_ok, ?_, ?_⟩
  · intro strategy groups log plan later h
    have hrequests := requests_of_assemble (Report.mem_of_recordedIn h).1
    exact hrequests
  · intro operations strategy other log plan plan' later later' h h'
    obtain ⟨hplan, hlater⟩ := Report.mem_of_recordedIn h
    obtain ⟨hplan', hlater'⟩ := Report.mem_of_recordedIn h'
    have hperm := (Operation.perm_flatMap_group strategy operations).trans
      (Operation.perm_flatMap_group other operations).symm
    obtain ⟨hrequests, hnotes⟩ := perm_of_assemble hplan hplan' hperm
    exact ⟨hrequests, fun d => by rw [hlater, hlater', hnotes]⟩

/-- The two plans of an example have the same three requests. -/
theorem requests_alone_secured : ∃ spec operations byTag byPath,
    Specification.read Yaml.reader secured none (.text []) = .ok spec ∧ spec.operations = .ok operations ∧
      (assemble (Config.usual.groupedBy .byTag) .usual spec (Operation.group .byTag operations)).outcome =
        .ok byTag ∧
      (assemble (Config.usual.groupedBy .byPath) .usual spec
        (Operation.group .byPath operations)).outcome = .ok byPath ∧
      byTag.allRequests.Perm byPath.allRequests ∧ byTag.allRequests.length = 3 := by
  obtain ⟨spec, operations, hspec, hoperations, hcount, -, -, -, hplans⟩ := assemble_secured
  obtain ⟨byTag, hbyTag, -⟩ := hplans .byTag
  obtain ⟨byPath, hbyPath, -⟩ := hplans .byPath
  obtain ⟨request, -, hchosen, hregrouped⟩ := requests_alone .usual .usual spec
  have hrun := Report.recordedIn_of_outcome hbyTag .empty
  have hother := Report.recordedIn_of_outcome hbyPath .empty
  obtain ⟨-, hrequests, -⟩ := hchosen _ _ _ _ _ hrun
  obtain ⟨hperm, -⟩ := hregrouped _ _ _ _ _ _ _ _ hrun hother
  refine ⟨spec, operations, byTag, byPath, hspec, hoperations, hbyTag, hbyPath, hperm, ?_⟩
  rw [hrequests, List.length_map, (Operation.perm_flatMap_group .byTag operations).length_eq, hcount]

end LoadPlan.Plan
