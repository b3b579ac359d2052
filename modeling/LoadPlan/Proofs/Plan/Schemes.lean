import LoadPlan.Proofs.Compile.Recording
import LoadPlan.Proofs.Plan.Layout
import Mathlib.Data.List.Pairwise

/-!
# Schemes are honoured or reported

The schemes of a specification are looked at for the root of a plan and once more for each group, and each
time there are the same remarks on those that are not supported.  The log keeps one of each.

* `shown_distinct` — the schemes of a specification are told apart by what their names are shown as.
* `Honours` — a group has what sends the credentials of the supported schemes, and nothing for others.
* `filter_notes_of_assemble`, `filter_items_of_assemble` — what is remarked on schemes in a whole run, and
  what of it is recorded.
* **`schemes_honoured_or_reported`** — every supported scheme is honoured by every group, and every other
  scheme is reported, once.
-/

namespace LoadPlan

/-! ## Names of schemes -/

/-- The names of schemes are among the names in the mapping, in the same order. -/
lemma sublist_declaredIn : ∀ entries : Entries,
    ((declaredIn entries).map Prod.fst).Sublist (entries.map Prod.fst)
  | [] => .slnil
  | (name, value) :: rest => by
      rw [declaredIn]
      cases value.entries? with
      | none => exact (sublist_declaredIn rest).cons name
      | some scheme => exact (sublist_declaredIn rest).cons_cons name

/-- Two names are shown differently. -/
def ShownApart (name other : Value) : Prop := ∀ t, name.shown = .ok t → other.shown ≠ .ok t

instance : Std.Symm ShownApart where
  symm _ _ h t hother hname := h t hname hother

/-- Texts that are different keys are shown differently. -/
lemma shownApart_of_isText {name other : Value} (hname : name.isText = true) (hother : other.isText = true)
    (h : name.sameKey other = false) : ShownApart name other := by
  cases name with
  | text s =>
      cases other with
      | text t =>
          have hne : s ≠ t := of_decide_eq_false h
          intro shown hs ht
          exact hne ((Except.ok.inj hs).trans (Except.ok.inj ht).symm)
      | _ => cases hother
  | _ => cases hname

section

variable {spec : Specification}

/-- **Schemes with names of their own are told apart** by what their names are shown as. -/
lemma shown_distinct (h : spec.HasSchemeNames) :
    (declaredIn spec.securitySchemes).Pairwise fun declared other =>
      ShownApart declared.1 other.1 := by
  have hall : (spec.securitySchemes.map Prod.fst).Pairwise ShownApart := by
    refine List.pairwise_map.mpr (h.distinct.imp_of_mem fun hentry hother hdistinct => ?_)
    exact shownApart_of_isText (h.texts _ hentry) (h.texts _ hother) hdistinct
  exact List.pairwise_map.mp (hall.sublist (sublist_declaredIn _))

/-- A supported scheme and one that is not have different names. -/
lemma shownApart_of_mem (h : spec.HasSchemeNames) {declared other : Value × Entries}
    (hdeclared : declared ∈ supportedIn spec.securitySchemes)
    (hother : other ∈ unsupportedIn spec.securitySchemes) : ShownApart declared.1 other.1 := by
  obtain ⟨hdeclared, hyes⟩ := List.mem_filter.mp hdeclared
  obtain ⟨hother, hno⟩ := List.mem_filter.mp hother
  have hne : declared ≠ other := by
    rintro rfl
    rw [hyes] at hno
    cases hno
  have hsymm : Std.Symm fun declared other : Value × Entries => ShownApart declared.1 other.1 :=
    ⟨fun _ _ h => Std.Symm.symm _ _ h⟩
  exact (shown_distinct h).forall hdeclared hother hne

/-- The remarks on schemes with names of their own are distinct. -/
lemma nodup_of_saysUnsupported : ∀ {entries : List (Value × Entries)} {notes : List Diagnostic},
    entries.Pairwise (fun declared other => ShownApart declared.1 other.1) →
      List.Forall₂ SaysUnsupported entries notes → notes.Nodup
  | _, _, _, .nil => List.nodup_nil
  | _, _, hpairwise, .cons hfirst hrest => by
      rw [List.pairwise_cons] at hpairwise
      refine List.nodup_cons.mpr ⟨fun hmem => ?_, nodup_of_saysUnsupported hpairwise.2 hrest⟩
      obtain ⟨other, hother, hsays⟩ := Plan.exists_of_forall₂ hrest _ hmem
      exact hpairwise.1 other hother _ hfirst.context hsays.context

end

namespace Plan

/-! ## What the groups send -/

lemma isManager_of_sends {scheme : Scheme} {element : Element} (h : Sends scheme element) :
    element.isManager = true := by
  cases h <;> rfl

/-- What the elements that send credentials are called, apart from the names of their schemes. -/
def credentialTitles : List Text :=
  ["API Key Header Manager - ", "Bearer Token Header Manager - ", "HTTP Authorization Manager - "]

lemma name_of_sends {scheme : Scheme} {element : Element} (h : Sends scheme element) :
    ∃ title ∈ credentialTitles, ∃ shown, scheme.name.shown = .ok shown ∧
      element.name = .text (title ++ shown) := by
  cases h with
  | key => exact ⟨_, List.mem_cons_self, _, rfl, rfl⟩
  | token hname => exact ⟨_, List.mem_cons_of_mem _ List.mem_cons_self, _, hname, rfl⟩
  | login hname =>
      exact ⟨_, List.mem_cons_of_mem _ (List.mem_cons_of_mem _ List.mem_cons_self), _, hname, rfl⟩

/-- The titles begin with different letters. -/
lemma shown_inj_of_title {title other s t : Text} (htitle : title ∈ credentialTitles)
    (hother : other ∈ credentialTitles) (h : title ++ s = other ++ t) : s = t := by
  have hne : ∀ title ∈ credentialTitles, title ≠ [] := by decide
  have hinitials : ∀ title ∈ credentialTitles, ∀ other ∈ credentialTitles,
      title.head? = other.head? → title = other := by decide
  obtain rfl := hinitials title htitle other hother (by
    rw [← List.head?_append_of_ne_nil _ (hne title htitle), h,
      List.head?_append_of_ne_nil _ (hne other hother)])
  exact List.append_cancel_left h

/-- The standard headers send no credentials. -/
lemma not_sends_standardHeaders (presets : Presets) (group : Text) (scheme : Scheme) :
    ¬ Sends scheme (standardHeaders presets group) := by
  intro h
  generalize hstandard : standardHeaders presets group = element at h
  cases h with
  | key => exact absurd (List.cons.inj (Value.text.inj (Element.mk.inj hstandard).1)).1 (by decide)
  | token => exact absurd (List.cons.inj (Value.text.inj (Element.mk.inj hstandard).1)).1 (by decide)
  | login => cases (Element.mk.inj hstandard).2.2.1

/-- Schemes that one element sends the credentials of have names that are shown alike. -/
lemma not_shownApart_of_sends {scheme other : Scheme} {element : Element} (h : Sends scheme element)
    (hother : Sends other element) : ¬ ShownApart scheme.name other.name := by
  obtain ⟨title, htitle, s, hs, hname⟩ := name_of_sends h
  obtain ⟨otherTitle, hotherTitle, t, ht, hotherName⟩ := name_of_sends hother
  obtain rfl := shown_inj_of_title htitle hotherTitle (Value.text.inj (hname.symm.trans hotherName))
  exact fun hapart => hapart s hs ht

/-- Items that are related by way of others. -/
lemma forall₂_comp {α β γ : Type} {r : α → β → Prop} {s : β → γ → Prop} :
    ∀ {xs : List α} {ys : List β} {zs : List γ}, List.Forall₂ r xs ys → List.Forall₂ s ys zs →
      List.Forall₂ (fun x z => ∃ y, r x y ∧ s y z) xs zs
  | _, _, _, .nil, .nil => .nil
  | _, _, _, .cons hr hrs, .cons hs hss => .cons ⟨_, hr, hs⟩ (forall₂_comp hrs hss)

section

variable {config : Config} {presets : Presets} {spec : Specification}

/-- **An element honours a scheme**: it sends what the scheme asks for. -/
def HonoursScheme (declared : Value × Entries) (element : Element) : Prop :=
  ∃ credential, Asks declared.2 credential ∧ Sends ⟨declared.1, credential⟩ element

variable (presets) (spec)

/-- **A group honours the schemes of a specification.** -/
structure Honours (group : Text × List Operation) (element : Element) : Prop where
  /-- Between the standard headers and the requests there is one element for each supported scheme, in the
  order of the document.  What stands in front and behind stands apart. -/
  supported : ∃ data managers listeners,
    element.children =
      data ++ standardHeaders presets group.1 :: (managers ++ (element.requests ++ listeners)) ∧
    List.Forall₂ HonoursScheme (supportedIn spec.securitySchemes) managers ∧
    ∀ e ∈ data ++ listeners, e.IsApart
  /-- No element sends anything for a scheme that is not supported. -/
  unsupported : ∀ declared ∈ unsupportedIn spec.securitySchemes, ∀ e ∈ element.children,
    ∀ credential, ¬ Sends ⟨declared.1, credential⟩ e

variable {presets} {spec}

lemma honours_of_isMadeOf {group : Text × List Operation} {element : Element}
    (hnames : spec.HasSchemeNames) (h : IsMadeOf config presets spec group element) :
    Honours presets spec group element := by
  obtain ⟨schemes, data, managers, listeners, hschemes, hsends, hchildren, hapart⟩ := h.layout
  obtain ⟨hasks, -⟩ := schemesOf_cases hschemes
  have hmanagers : List.Forall₂ HonoursScheme (supportedIn spec.securitySchemes) managers := by
    refine (forall₂_comp hasks hsends).imp fun declared manager hscheme => ?_
    obtain ⟨⟨name, credential⟩, ⟨rfl, hask⟩, hsend⟩ := hscheme
    exact ⟨credential, hask, hsend⟩
  refine ⟨⟨data, managers, listeners, hchildren, hmanagers, hapart⟩, ?_⟩
  intro declared hdeclared e he credential hsend
  have hmanager := isManager_of_sends hsend
  rcases h.cases_children hschemes e he with hapart | rfl | ⟨scheme, hscheme, hmade⟩ |
    ⟨operation, -, hrequest⟩
  · rw [hapart.isManager] at hmanager
    cases hmanager
  · exact not_sends_standardHeaders presets group.1 _ hsend
  · obtain ⟨other, hother, hname, -⟩ := exists_of_forall₂ hasks scheme hscheme
    have hapart := shownApart_of_mem hnames hother hdeclared
    rw [← hname] at hapart
    exact not_shownApart_of_sends hmade hsend hapart
  · rw [isManager_of_isRequest (isRequest_of_requests (requests_of_sampler hrequest))] at hmanager
    cases hmanager

/-! ## What is remarked on schemes -/

/-- Among remarks on the address there is none on a scheme. -/
lemma filter_notes_ofBaseUrl (address : Text) :
    (Server.ofBaseUrl address).notes.filter Diagnostic.isOnScheme = [] := by
  have hremarks : (Server.ofBaseUrl address).Remarks fun d => d.isOnScheme = false := by
    unfold Server.ofBaseUrl
    dsimp only
    split
    · exact .pure _
    · have hcode : ("InvalidBaseUrlWarning" : Text) ≠ "UnsupportedSecuritySchemeWarning" := by decide
      exact Report.Remarks.bind (.warn (decide_eq_false hcode)) fun _ => .pure _
  exact List.filter_eq_nil_iff.mpr fun d hd => by rw [hremarks d hd]; exact Bool.false_ne_true

/-- Among remarks on schemas there is none on a scheme. -/
lemma filter_notes_requestOf (operation : Operation) :
    (requestOf config presets spec operation).notes.filter Diagnostic.isOnScheme = [] := by
  refine List.filter_eq_nil_iff.mpr fun d hd => ?_
  obtain ⟨-, hcode | hcode⟩ := remarks_sampler config presets operation _ d hd
  · rw [Diagnostic.isOnScheme, hcode]
    decide
  · rw [Diagnostic.isOnScheme, hcode]
    decide

/-- **In a whole run, the same is remarked on schemes** for the root and for each group. -/
lemma filter_notes_of_assemble {groups : Operation.Groups} {plan : Element}
    (hschemes : ∀ d ∈ spec.schemes.notes, d.isOnScheme = true)
    (h : (assemble config presets spec groups).outcome = .ok plan) :
    (assemble config presets spec groups).notes.filter Diagnostic.isOnScheme =
      spec.schemes.notes ++ groups.flatMap fun _ => spec.schemes.notes := by
  have hown : spec.schemes.notes.filter Diagnostic.isOnScheme = spec.schemes.notes :=
    List.filter_eq_self.mpr hschemes
  obtain ⟨root, elements, hroot, -, -, hnotes⟩ := layout_of_assemble h
  obtain ⟨address, _, _, _, _, _, -, -, -, -, -, hrootNotes⟩ := parts_of_testPlan hroot
  rw [hnotes, hrootNotes, List.filter_append, List.filter_append, filter_notes_ofBaseUrl,
    List.nil_append, hown, remarksOn, List.filter_flatMap]
  refine congrArg (spec.schemes.notes ++ ·) (congrArg (groups.flatMap ·) (funext fun group => ?_))
  rw [List.filter_append, hown, List.filter_flatMap, List.flatMap_eq_nil_iff.mpr, List.append_nil]
  exact fun operation _ => filter_notes_requestOf operation

/-- **What is recorded on schemes** in a whole run is what is remarked when they are looked at once. -/
lemma filter_items_of_assemble {groups : Operation.Groups} {plan : Element} {schemes : List Scheme}
    (hnames : spec.HasSchemeNames) (hschemes : spec.schemes.outcome = .ok schemes)
    (h : (assemble config presets spec groups).outcome = .ok plan) :
    (Log.empty.addAll (assemble config presets spec groups).notes).items.filter Diagnostic.isOnScheme =
      spec.schemes.notes := by
  obtain ⟨-, hsays⟩ := schemesOf_cases hschemes
  have hown : ∀ d ∈ spec.schemes.notes, d.isOnScheme = true := by
    intro d hd
    obtain ⟨declared, -, hdeclared⟩ := exists_of_forall₂ hsays d hd
    exact hdeclared.isOnScheme
  have hnodup := nodup_of_saysUnsupported ((shown_distinct hnames).filter _) hsays
  have hfirst : (Log.empty.addAll spec.schemes.notes).items = spec.schemes.notes :=
    Log.addAll_of_nodup hnodup
  rw [Log.filter_addAll, filter_notes_of_assemble hown h, Log.addAll_append]
  show ((Log.empty.addAll spec.schemes.notes).addAll _).items = _
  rw [Log.addAll_of_mem, hfirst]
  -- a group has no remark that has not been made for the root
  intro d hd
  obtain ⟨group, -, hd⟩ := List.mem_flatMap.mp hd
  exact hfirst.symm ▸ hd

end

/-- **Every scheme is honoured or reported.**  When a plan is assembled with nothing recorded before, every
group honours the schemes that are supported, however many groups there are; and what is recorded on
schemes is one remark for each scheme that is not supported, with its name, in the order of the document. -/
theorem schemes_honoured_or_reported {config : Config} {presets : Presets} {spec : Specification}
    {groups : Operation.Groups} {plan : Element} {log : Log} (hnames : spec.HasSchemeNames)
    (h : (assemble config presets spec groups).recordedIn .empty = (.ok plan, log)) :
    (∃ elements, plan.children = httpDefaults :: elements ∧
      List.Forall₂ (Honours presets spec) groups elements) ∧
    List.Forall₂ SaysUnsupported (unsupportedIn spec.securitySchemes)
      (log.items.filter Diagnostic.isOnScheme) ∧
    ∀ declared ∈ supportedIn spec.securitySchemes, ∀ d ∈ log.items, d.isOnScheme = true →
      declared.1.shown ≠ .ok d.context := by
  obtain ⟨hplan, rfl⟩ := Prod.mk.inj h
  obtain ⟨root, elements, hroot, rfl, hmade, -⟩ := layout_of_assemble hplan
  obtain ⟨_, _, _, schemes, _, _, -, -, hschemes, -⟩ := parts_of_testPlan hroot
  have hrecorded := filter_items_of_assemble hnames hschemes hplan
  obtain ⟨-, hsays⟩ := schemesOf_cases hschemes
  refine ⟨⟨elements, rfl, hmade.imp fun _ _ => honours_of_isMadeOf hnames⟩, ?_, ?_⟩
  · rw [hrecorded]
    exact hsays
  · intro declared hdeclared d hd hon hshown
    have hmem : d ∈ spec.schemes.notes := hrecorded ▸ List.mem_filter.mpr ⟨hd, hon⟩
    obtain ⟨other, hother, hreported⟩ := exists_of_forall₂ hsays d hmem
    exact shownApart_of_mem hnames hdeclared hother _ hshown hreported.context

/-- In an example, two schemes are supported and one is not. -/
theorem schemes_honoured_or_reported_secured : ∃ spec operations plan log elements,
    Specification.read Yaml.reader secured none (.text []) = .ok spec ∧ spec.operations = .ok operations ∧
      (assemble (Config.usual.groupedBy .byTag) .usual spec
        (Operation.group .byTag operations)).recordedIn .empty = (.ok plan, log) ∧
      plan.children = httpDefaults :: elements ∧
      List.Forall₂ (Honours .usual spec) (Operation.group .byTag operations) elements ∧
      (supportedIn spec.securitySchemes).length = 2 ∧
      (log.items.filter Diagnostic.isOnScheme).length = 1 := by
  obtain ⟨spec, operations, hspec, hoperations, -, hnames, hsupported, hunsupported, hplans⟩ :=
    assemble_secured
  obtain ⟨plan, hplan, -⟩ := hplans .byTag
  have hrun := Report.recordedIn_of_outcome hplan .empty
  obtain ⟨⟨elements, hchildren, hhonours⟩, hsays, -⟩ := schemes_honoured_or_reported hnames hrun
  exact ⟨spec, operations, plan, _, elements, hspec, hoperations, hrun, hchildren, hhonours, hsupported,
    hsays.length_eq.symm.trans hunsupported⟩

end Plan

end LoadPlan
