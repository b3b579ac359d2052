import LoadPlan.Proofs.Json.RoundTrip
import LoadPlan.Proofs.Plan.Assembling
import LoadPlan.Proofs.Schema.Forms

/-!
# Bodies of requests

What an operation sends as JSON arrives: it is the body of its request, it stands in the document of
every plan with that request, and decoding it gives the sample again.

* `Operation.SendsJson` — an operation whose body is a sample in JSON.
* `exists_sampler_iff` — when such an operation has a request.
* `bodyAt?_of_harmless` — a body without control characters is read as it was.
* **`body_of_sendsJson`** — the body of the request of such an operation, from the sample to the
  document and back.
-/

namespace LoadPlan

/-! ## Texts without control characters -/

section

variable {t : Text}

lemma Rune.isIllegal_of_isHarmless {r : Rune} (h : r.isHarmless = true) : r.isIllegal = false := by
  simp only [isHarmless, isPortable, Bool.and_eq_true, decide_eq_true_eq, Bool.not_eq_true',
    bne_iff_ne, ne_eq] at h
  obtain ⟨hcontrol, ⟨hsurrogate, hlast⟩, hlater⟩ := h
  simp only [isIllegal, hsurrogate, hlast, hlater, Bool.or_eq_false_iff, Bool.and_eq_false_imp,
    decide_eq_true_eq, decide_eq_false_iff_not, not_le, decide_false, Bool.or_false]
  omega

lemma Text.any_isIllegal_of_isHarmless (h : t.all Rune.isHarmless = true) :
    t.any Rune.isIllegal = false := by
  rw [List.any_eq_false]
  intro r hr
  simp [Rune.isIllegal_of_isHarmless (List.all_eq_true.mp h r hr)]

/-- No line end has to be read in a text without control characters. -/
lemma Text.lineFeeds_of_isHarmless (h : t.all Rune.isHarmless = true) : t.lineFeeds = t := by
  refine Text.lineFeeds_eq_self fun r hr => ?_
  rintro rfl
  exact absurd (List.all_eq_true.mp h _ hr) (by decide)

end

namespace Plan

open Markup

/-! ## Properties that are read -/

lemma asValue_literal {cs : List Char} (h : (Text.ofChars cs).all (fun r => !isSpace r) = true) :
    (Text.ofString (String.ofList cs)).asValue = Text.ofString (String.ofList cs) := by
  rw [Text.ofString_ofList]
  have hspace : ∀ r ∈ Text.ofChars cs, isSpace r = false := by
    simpa only [List.all_eq_true, Bool.not_eq_true'] using h
  exact (Text.asValue_eq_iff hspace).mpr rfl

/-- Reading leaves the name of a property as it is. -/
lemma attribute?_asRead {cs : List Char} (h : (Text.ofChars cs).all (fun r => !isSpace r) = true)
    (tag : Text) (more : Attributes) (content : List Markup) :
    (Markup.element tag (("name", .text (.ofString (String.ofList cs))) :: more) content).asRead.attribute?
      "name" = some (.ofString (String.ofList cs)) := by
  simp [asRead, rereadAttributes, said, attribute?, asValue_literal h]

section

variable {name other : Text} {part : Markup} (parts : List Markup)

lemma property?_asRead_self (h : part.asRead.attribute? "name" = some name) :
    property? name (allAsRead (part :: parts)) = some part.asRead := by
  rw [allAsRead, property?_cons, if_pos h]

lemma property?_asRead_of_ne (h : part.asRead.attribute? "name" = some other) (hne : other ≠ name) :
    property? name (allAsRead (part :: parts)) = property? name (allAsRead parts) := by
  rw [allAsRead, property?_cons, if_neg]
  rw [h]
  exact fun heq => hne (Option.some.inj heq)

end

lemma inner?_asRead_textLeaf (name : Text) (v : Value) :
    (textLeaf name v).asRead.inner? = some v.asText.legal.lineFeeds := by
  show inner? (.element _ _ (textPart v.asText.legal.lineFeeds)) = _
  unfold textPart
  cases v.asText.legal.lineFeeds <;> rfl

/-- The only argument of a request with a body, as it is read. -/
lemma textAt?_bodyArgument (body : Value) (rest : List Markup) :
    textAt? "Argument.value" (allAsRead (truthProperty "HTTPArgument.always_encode" (.bool false) ::
      textLeaf "Argument.value" body :: rest)) = some (.text body.asText.legal.lineFeeds) := by
  have hencode : (truthProperty "HTTPArgument.always_encode" (.bool false)).asRead.attribute? "name" =
      some "HTTPArgument.always_encode" := attribute?_asRead (by decide) _ _ _
  have hvalue : (textLeaf "Argument.value" body).asRead.attribute? "name" = some "Argument.value" :=
    attribute?_asRead (by decide) _ _ _
  rw [textAt?, property?_asRead_of_ne _ hencode (by simp [Text.ofString_inj]),
    property?_asRead_self _ hvalue]
  show Option.map Value.text (textLeaf "Argument.value" body).asRead.inner? = _
  rw [inner?_asRead_textLeaf]
  rfl

/-- An element with elements below it is read with what those are read as. -/
lemma content_asRead (tag inner : Text) (attributes more : Attributes)
    (content parts : List Markup) :
    (Markup.element tag attributes (.element inner more content :: parts)).asRead.content =
      allAsRead (.element inner more content :: parts) := by
  cases parts <;> rfl

/-- A request with a body is read with the body in its only argument. -/
lemma bodyAt?_asRead (body : Value) (rest : List Markup) :
    bodyAt? (allAsRead (bodyOutline body ++ rest)) = some (.text body.asText.legal.lineFeeds) := by
  have hraw : (truthProperty "HTTPSampler.postBodyRaw" (.bool true)).asRead.attribute? "name" =
      some "HTTPSampler.postBodyRaw" := attribute?_asRead (by decide) _ _ _
  have harguments : ∀ parts : List Markup,
      (partsProperty "HTTPsampler.Arguments" "Arguments" [] parts).asRead.attribute? "name" =
        some "HTTPsampler.Arguments" := fun _ => attribute?_asRead (by decide) _ _ _
  have hinside : ∀ parts : List Markup, (collection "Arguments.arguments" parts).asRead.attribute?
      "name" = some "Arguments.arguments" := fun _ => attribute?_asRead (by decide) _ _ _
  have hparts : ∀ content : List Markup, (partsProperty "HTTPsampler.Arguments" "Arguments" []
      [collection "Arguments.arguments" content]).asRead.content =
        allAsRead [collection "Arguments.arguments" content] := fun _ => content_asRead ..
  have hcontent : ∀ content : List Markup, (collection "Arguments.arguments"
      [partsProperty [] "HTTPArgument" [] content]).asRead.content =
        [(partsProperty [] "HTTPArgument" [] content).asRead] := fun _ => content_asRead ..
  rw [bodyAt?, bodyOutline, partsAt?, List.cons_append, List.cons_append,
    property?_asRead_of_ne _ hraw (by simp [Text.ofString_inj]),
    property?_asRead_self _ (harguments _), Option.map_some, hparts]
  simp only [Option.bind_eq_bind, Option.bind_some, partsAt?, property?_asRead_self _ (hinside _),
    Option.map_some, hcontent, List.head?_cons]
  exact textAt?_bodyArgument body _

/-- **A body without control characters is read as it was.** -/
lemma bodyAt?_of_harmless {element : Element} {settings : HttpSampler} {body : Text}
    (hsettings : element.settings = .httpSampler settings) (hbody : settings.body = .text body)
    (h : body.all Rune.isHarmless = true) :
    bodyAt? element.ownOutline.asRead.content = some (.text body) := by
  have hread : body.legal.lineFeeds = body := by
    rw [Text.legal_eq_self (Text.any_isIllegal_of_isHarmless h), Text.lineFeeds_of_isHarmless h]
  rw [Element.ownOutline, hsettings, Settings.outline, HttpSampler.outline,
    HttpSampler.contentOutline, hbody]
  show bodyAt? (allAsRead (bodyOutline (.text body) ++ _)) = _
  rw [bodyAt?_asRead]
  show some (Value.text body.legal.lineFeeds) = _
  rw [hread]

/-! ## Requests with a body -/

/-- What a request has for a body, if it has one. -/
def Element.body? (element : Element) : Option Text :=
  match element.settings with
  | .httpSampler settings =>
    match settings.body with
    | .text t => some t
    | _ => none
  | _ => none

lemma exists_settings_of_body? {element : Element} {body : Text} (h : element.body? = some body) :
    ∃ settings, element.settings = .httpSampler settings ∧ settings.body = .text body := by
  unfold Element.body? at h
  split at h
  · rename_i settings hsettings
    split at h
    · rename_i t hbody
      obtain rfl := Option.some.inj h
      exact ⟨settings, hsettings, hbody⟩
    · cases h
  · cases h

lemma body?_settled {element : Element} {body : Text} (h : element.body? = some body) :
    element.settled.body? = some body := by
  obtain ⟨settings, hsettings, hbody⟩ := exists_settings_of_body? h
  simp [Element.body?, Element.settings_settled, hsettings, Settings.settled, hbody]

/-- Writing a body without control characters takes no remark. -/
lemma requestBody_notes {body : Text} (h : body.all Rune.isHarmless = true) (name : Text) :
    (requestBody name (.text body)).notes = [] := by
  have htext : legalText name (.text body) = pure body := by
    rw [legalText, Text.any_isIllegal_of_isHarmless h]
    rfl
  rw [requestBody, textProperty, htext]
  rfl

/-- **A body without control characters arrives**: whatever document a plan has, the body stands there
at the place of each request that has it. -/
lemma forall₂_bodyAt? {body : Text} (h : body.all Rune.isHarmless = true) {plan : Element}
    {document : Text} (hplan : ∀ e ∈ plan.walk, e.settled.IsTyped)
    (hdocument : (render plan).outcome = .ok document) :
    ∃ parts, documentElements document = .ok parts ∧
      List.Forall₂ (fun e part => e.body? = some body → bodyAt? part.content = some (.text body))
        plan.walk parts := by
  refine ⟨_, documentElements_of_render hplan hdocument, ?_⟩
  rw [List.forall₂_map_right_iff, List.forall₂_same]
  intro e _ hbody
  obtain ⟨settings, hsettings, hsame⟩ := exists_settings_of_body? (body?_settled hbody)
  exact bodyAt?_of_harmless hsettings hsame h

end Plan

/-! ## Operations that send JSON -/

namespace Operation

/-- **An operation whose body is a sample in JSON**: it has a method with a body and a schema for it,
and the sample is not sent as a form. -/
structure SendsJson (operation : Operation) (resolver : Resolver) (v : Value) : Prop where
  /-- The method has a body. -/
  hasBody : operation.method.hasBody = true
  /-- The sample is that of the schema of the body. -/
  sample : ∃ raw schema, operation.requestBody? = some raw ∧
    (resolver.resolve 0 (.map raw)).outcome = .ok schema ∧ schema.sampleFrom 1 [] = .ok v
  /-- Objects are not sent as forms. -/
  notForm : isFormMediaType operation.contentType = true → ∀ fields, v ≠ .map fields

/-- The parameters whose values a request states apart from its path. -/
def sentParameters (presets : Presets) (operation : Operation) : List Parameter :=
  (operation.parametersIn "query").filter (fun parameter => !parameter.name.isEmpty)
    ++ (operation.parametersIn "header").filter (fun parameter => !parameter.name.isEmpty &&
      !(Plan.managedHeaders presets).contains parameter.name.lower)
    ++ if isFormMediaType operation.contentType then
        (operation.parametersIn "formData").filter fun parameter => !parameter.name.isEmpty
      else []

/-- **The values of all parameters that are sent have texts.** -/
def HasReferences (presets : Presets) (operation : Operation) : Prop :=
  ∀ parameter ∈ operation.sentParameters presets, ∃ t, parameter.reference = .ok t

end Operation

namespace Plan

/-- Arguments can be made if each of them can. -/
lemma exists_mapM_argument_iff (parameters : List Parameter) :
    (∃ found, parameters.mapM argument = .ok found) ↔
      ∀ parameter ∈ parameters, ∃ t, parameter.reference = .ok t := by
  induction parameters with
  | nil => exact ⟨fun _ _ h => absurd h List.not_mem_nil, fun _ => ⟨[], rfl⟩⟩
  | cons parameter parameters ih =>
      rw [List.forall_mem_cons, ← ih, List.mapM_cons]
      constructor
      · rintro ⟨found, hfound⟩
        obtain ⟨first, hfirst, hfound⟩ := exists_of_except_bind hfound
        obtain ⟨rest, hrest, -⟩ := exists_of_except_bind hfound
        refine ⟨?_, rest, hrest⟩
        unfold argument at hfirst
        cases hcase : parameter.reference with
        | error fault =>
            rw [hcase] at hfirst
            cases hfirst
        | ok t => exact ⟨t, rfl⟩
      · rintro ⟨⟨t, ht⟩, rest, hrest⟩
        rw [argument, ht, hrest]
        exact ⟨_, rfl⟩

lemma sampledPayload_of_sendsJson {operation : Operation} {resolver : Resolver} {v : Value}
    (h : operation.SendsJson resolver v) :
    (sampledPayload operation resolver).outcome =
      (Json.compact v).map fun body => ⟨some body, [], []⟩ := by
  obtain ⟨raw, schema, hraw, hschema, hsample⟩ := h.sample
  have hform := h.notForm
  simp only [sampledPayload, hraw, Report.bind_outcome, hschema, ok_bind, Report.ofExcept_outcome,
    hsample]
  split
  · rename_i fields hmedia
    exact absurd rfl (hform hmedia fields)
  · rw [Report.bind_outcome, Report.ofExcept_outcome]
    generalize Json.compact _ = written
    cases written <;> rfl

/-- The fields of a form that are sent next to a body. -/
def formArguments (operation : Operation) : Except Fault (List (Text × Text)) :=
  if isFormMediaType operation.contentType then arguments operation "formData" else .ok []

/-- The payload of an operation that sends JSON has the sample for its body. -/
lemma payload_of_sendsJson {operation : Operation} {resolver : Resolver} {v : Value}
    (h : operation.SendsJson resolver v) :
    (payload operation resolver).outcome = (do
      let body ← Json.compact v
      let fields ← formArguments operation
      return ⟨some body, fields.map textPair, if fields.isEmpty then [] else [formHeader]⟩) := by
  rw [payload, if_pos h.hasBody, Report.bind_outcome, sampledPayload_of_sendsJson h, formArguments]
  cases Json.compact v with
  | error fault => rfl
  | ok body =>
      generalize arguments operation "formData" = fields
      cases isFormMediaType operation.contentType with
      | true => cases fields <;> rfl
      | false => rfl

/-- The request of an operation, when its body, its query and its headers are known. -/
lemma sampler_outcome {config : Config} {presets : Presets} {operation : Operation}
    {resolver : Resolver} :
    (sampler config presets operation resolver).outcome = (do
      let query ← arguments operation "query"
      let sent ← (payload operation resolver).outcome
      let headers ← headerArguments presets operation
      return .of
        ("[" ++ operation.method.name ++ "] " ++ operation.path ++ " → " ++ description operation)
        (.httpSampler
          { path := .text (requestPath operation query sent.body?.isSome)
            method := .text operation.method.name
            followRedirects := config.followRedirects
            useKeepalive := config.useKeepAlive
            body := (sent.body?.map Value.text).getD .null
            arguments := if sent.body?.isSome then sent.form else query.map textPair ++ sent.form
            connectTimeout := .text (variableRef "CONNECTION_TIMEOUT")
            responseTimeout := .text (variableRef "RESPONSE_TIMEOUT") })
        (samplerChildren config presets (sent.headers ++ headers.map textPair))) := by
  simp only [sampler, Report.bind_outcome, Report.ofExcept_outcome, Report.pure_outcome]
  rfl

section

variable {config : Config} {presets : Presets} {operation : Operation} {resolver : Resolver}
variable {v : Value}

lemma hasReferences_iff : operation.HasReferences presets ↔
    (∃ found, arguments operation "query" = .ok found) ∧
      (∃ found, headerArguments presets operation = .ok found) ∧
        ∃ found, formArguments operation = .ok found := by
  rw [Operation.HasReferences, Operation.sentParameters, List.forall_mem_append,
    List.forall_mem_append, arguments, headerArguments, exists_mapM_argument_iff,
    exists_mapM_argument_iff, formArguments, and_assoc]
  refine and_congr_right fun _ => and_congr_right fun _ => ?_
  split
  · rw [arguments, exists_mapM_argument_iff]
  · exact iff_of_true (List.forall_mem_nil _) ⟨[], rfl⟩

/-- **When an operation that sends JSON has a request**: its sample is written, and so are all
parameters that are sent. -/
lemma exists_sampler_iff (h : operation.SendsJson resolver v) :
    (∃ request, (sampler config presets operation resolver).outcome = .ok request) ↔
      (∃ body, Json.compact v = .ok body) ∧ operation.HasReferences presets := by
  rw [sampler_outcome, payload_of_sendsJson h]
  constructor
  · rintro ⟨request, hrequest⟩
    obtain ⟨query, hquery, hrequest⟩ := exists_of_except_bind hrequest
    obtain ⟨sent, hsent, hrequest⟩ := exists_of_except_bind hrequest
    obtain ⟨headers, hheaders, -⟩ := exists_of_except_bind hrequest
    obtain ⟨body, hbody, hsent⟩ := exists_of_except_bind hsent
    obtain ⟨fields, hfields, -⟩ := exists_of_except_bind hsent
    exact ⟨⟨body, hbody⟩, hasReferences_iff.mpr ⟨⟨query, hquery⟩, ⟨headers, hheaders⟩, fields, hfields⟩⟩
  · rintro ⟨⟨body, hbody⟩, hreferences⟩
    obtain ⟨⟨query, hquery⟩, ⟨headers, hheaders⟩, fields, hfields⟩ := hasReferences_iff.mp hreferences
    rw [hquery, hbody, hheaders, hfields]
    exact ⟨_, rfl⟩

/-- The request of an operation that sends JSON has the sample for its body. -/
lemma body?_of_sampler (h : operation.SendsJson resolver v) {request : Element}
    (hrequest : (sampler config presets operation resolver).outcome = .ok request) :
    ∃ body, request.body? = some body ∧ Json.compact v = .ok body := by
  rw [sampler_outcome, payload_of_sendsJson h] at hrequest
  obtain ⟨query, -, hrequest⟩ := exists_of_except_bind hrequest
  obtain ⟨sent, hsent, hrequest⟩ := exists_of_except_bind hrequest
  obtain ⟨headers, -, hrequest⟩ := exists_of_except_bind hrequest
  obtain ⟨body, hbody, hsent⟩ := exists_of_except_bind hsent
  obtain ⟨fields, -, hsent⟩ := exists_of_except_bind hsent
  obtain rfl := Except.ok.inj hsent
  obtain rfl := Except.ok.inj hrequest
  exact ⟨body, rfl, hbody⟩

end

/-! ## Operations for any sample -/

mutual

lemma jsonSafe_of_isPortable : ∀ v : Value, v.isPortable = true → v.jsonSafe = v
  | .null, _ | .bool _, _ | .int _, _ | .text _, _ => rfl
  | .list items, h => congrArg Value.list (itemsJsonSafe_of_portable items h)
  | .map entries, h => congrArg Value.map (entriesJsonSafe_of_portable entries h)

lemma itemsJsonSafe_of_portable : ∀ items : List Value, Value.areAllPortable items = true →
    itemsJsonSafe items = items
  | [], _ => rfl
  | item :: items, h => by
      rw [Value.areAllPortable, Bool.and_eq_true] at h
      rw [itemsJsonSafe, jsonSafe_of_isPortable item h.1, itemsJsonSafe_of_portable items h.2]

lemma entriesJsonSafe_of_portable : ∀ entries : List (Value × Value),
    Value.areEntriesPortable entries = true → entriesJsonSafe entries = entries
  | [], _ => rfl
  | (.text key, value) :: entries, h => by
      rw [Value.areEntriesPortable, Bool.and_eq_true, Bool.and_eq_true, Bool.and_eq_true] at h
      rw [entriesJsonSafe, jsonSafe_of_isPortable value h.1.1.2,
        entriesJsonSafe_of_portable entries h.2]

end

/-- A schema that proposes a sample and says nothing else. -/
def proposing (v : Value) : Entries := [(.text "example", v)]

/-- An operation that sends a sample. -/
def sending (v : Value) : Operation where
  path := "/notes"
  method := .post
  identifier? := none
  summary? := none
  tags := []
  parameters := []
  requestBody? := some (proposing v)
  contentType := .text jsonMediaType

/-- References in no document at all. -/
def noDocument : Resolver := ⟨.map [], Resolver.usualDepth⟩

lemma resolve_proposing (v : Value) :
    (noDocument.resolve 0 (.map (proposing v))).outcome = .ok (.object ⟨some v, none, none⟩ []) := by
  have hform : (Value.map (proposing v)).form = .plain (proposing v) := rfl
  rw [Resolver.resolve_eq, hform]
  rfl

/-- Every portable value is sent by some operation. -/
lemma sendsJson_sending {v : Value} (hv : v.isPortable = true) :
    (sending v).SendsJson noDocument v where
  hasBody := rfl
  sample := by
    refine ⟨proposing v, _, rfl, resolve_proposing v, ?_⟩
    show Except.ok v.jsonSafe = _
    rw [jsonSafe_of_isPortable v hv]
  notForm := by
    intro h
    cases h

/-! ## Bodies -/

/-- **Bodies survive.**  An operation that sends a portable sample as JSON has a request exactly if no
integer in the sample is too long and the parameters that are sent have texts.  The body of the request
is the sample in JSON: decoding it gives the sample again, with its entries in their order; writing it
takes no remark; and whatever document a plan has, a reader finds the same body in it, at the place of
each such request. -/
theorem body_of_sendsJson (config : Config) (presets : Presets) {operation : Operation}
    {resolver : Resolver} {v : Value} (h : operation.SendsJson resolver v)
    (hv : v.isPortable = true) :
    ((∃ request, (sampler config presets operation resolver).outcome = .ok request) ↔
      v.isSpellable = true ∧ operation.HasReferences presets) ∧
    ∀ request, (sampler config presets operation resolver).outcome = .ok request →
      ∃ body, request.body? = some body ∧ Json.decode body.toChars = .ok v ∧
        (∀ name, (requestBody name (.text body)).notes = []) ∧
        ∀ plan document, (∀ e ∈ plan.walk, e.settled.IsTyped) →
          (render plan).outcome = .ok document → ∃ parts, documentElements document = .ok parts ∧
            List.Forall₂ (fun e part => e = request → bodyAt? part.content = some (.text body))
              plan.walk parts := by
  constructor
  · rw [exists_sampler_iff h]
    refine and_congr_left fun _ => ?_
    rcases Json.spelled_compact v hv with ⟨hyes, hbody⟩ | ⟨hno, herror⟩
    · exact iff_of_true hbody hyes
    · rw [hno, herror]
      simp
  · intro request hrequest
    obtain ⟨body, hbody, hcompact⟩ := body?_of_sampler h hrequest
    have hharmless := Json.all_isHarmless_compact v hv body hcompact
    refine ⟨body, hbody, Json.decode_compact hv hcompact, requestBody_notes hharmless, ?_⟩
    intro plan document hplan hdocument
    obtain ⟨parts, hparts, hall⟩ := forall₂_bodyAt? hharmless hplan hdocument
    refine ⟨parts, hparts, hall.imp fun e part hread heq => hread ?_⟩
    rw [heq]
    exact hbody

/-- A note whose title holds what JSON writes in a special way, and what XML cannot carry. -/
def note : Value :=
  .map
    [(.text "title", .text (.ofChars ['"', '\\', '\r', 'é', Char.ofNat 1])),
      (.text "tags", .list [.bool true, .null]), (.text "count", .int 3)]

lemma isSound_proposing_note : (Value.map (proposing note)).IsSound Value.maxNodes where
  spellable := by
    have hcount : IsShort 3 := isShort_of_lt (e := 2) (by decide) (by decide)
    simp only [proposing, note, Value.isSpellable, Value.entriesSpellable, Value.areSpellable,
      isShort_iff.mp hcount, decide_true, Bool.and_self]
  suitable := by decide
  nodes_le := by
    have hnodes : (Value.map (proposing note)).nodes ≤ Nat.pow 2 4 := by decide
    have hlimit : Nat.pow 2 4 ≤ Nat.pow 10 Value.nodeDigits := pow_two_le (by decide)
    unfold Value.maxNodes
    exact Nat.le_trans hnodes hlimit

/-- The note is sent, its request is a plan that has a document, and the note is found in it. -/
theorem body_of_sendsJson_note : (sending note).SendsJson noDocument note ∧
    note.isPortable = true ∧ ∃ request body document parts,
      (sampler .usual .usual (sending note) noDocument).outcome = .ok request ∧
        request.body? = some body ∧ Json.decode body.toChars = .ok note ∧
          (render request).outcome = .ok document ∧ documentElements document = .ok parts ∧
            List.Forall₂ (fun e part => e = request → bodyAt? part.content = some (.text body))
              request.walk parts := by
  have hportable : note.isPortable = true := by decide
  have hsends := sendsJson_sending hportable
  have hsound : (sending note).IsSound Value.maxNodes := by
    refine ⟨List.forall_mem_nil _, ?_⟩
    rintro raw ⟨⟩
    exact isSound_proposing_note
  have hthreshold := Config.isSound_usual.numbers Config.usual.responseTimeThreshold (by decide)
  have hmade : (sampler .usual .usual (sending note) noDocument).Yields Element.IsReady :=
    yields_sampler hthreshold isSound_proposing_note.empty rfl hsound
  obtain ⟨request, hrequest, hready⟩ := hmade
  obtain ⟨document, hdocument, -⟩ := yields_render hready
  obtain ⟨-, hsent⟩ := body_of_sendsJson .usual .usual hsends hportable
  obtain ⟨body, hbody, hdecoded, -, harrives⟩ := hsent request hrequest
  obtain ⟨parts, hparts, hall⟩ := harrives request document hready.isTyped hdocument
  exact ⟨hsends, hportable, request, body, document, parts, hrequest, hbody, hdecoded, hdocument,
    hparts, hall⟩

/-- The least number that is too long to be written. -/
def longNumber : Value := .int (Nat.pow 10 maxDigits : Nat)

/-- **Not every sample is sent**: a number in it can be too long. -/
theorem sampler_longNumber : (sending longNumber).SendsJson noDocument longNumber ∧
    longNumber.isPortable = true ∧
      (sampler .usual .usual (sending longNumber) noDocument).outcome = .error .tooManyDigits := by
  have hsends : (sending longNumber).SendsJson noDocument longNumber := sendsJson_sending rfl
  refine ⟨hsends, rfl, ?_⟩
  have hlong : Json.compact longNumber = .error .tooManyDigits := by
    rcases Json.spelled_compact longNumber rfl with ⟨hshort, -⟩ | ⟨-, hfault⟩
    · rw [longNumber, Value.isSpellable, decide_eq_true_iff] at hshort
      rw [Int.natAbs_natCast] at hshort
      exact absurd hshort (Nat.lt_irrefl _)
    · exact hfault
  rw [sampler_outcome, payload_of_sendsJson hsends, hlong]
  rfl

end Plan

end LoadPlan
