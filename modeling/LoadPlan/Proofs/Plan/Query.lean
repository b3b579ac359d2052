import LoadPlan.Proofs.Plan.Body
import LoadPlan.Proofs.Plan.Defaults
import LoadPlan.Proofs.Text.Cutting

/-!
# Queries with and without a body

The parameters of a query are arguments of a request, unless the request has a body: then they are written
into its path.  Nothing is encoded on the way, as nothing is encoded in arguments either.  A query in a path
therefore says the same as the arguments would, unless a name has a sign of its own that cuts a query, or a
sample has an ampersand.

* `readQuery` — how a query is read.
* `readQuery_queryText_iff` — which pairs are read from a query as they were written into it.
* `Parameter.IsSeparate` — a parameter whose name and sample cut no query.
* `SendsQuery` — what a request has from the parameters of a query, with a body and without.
* **`query_kept_iff`** — arguments are those parameters, and in a path the same is read exactly if all of them
  are separate.
* **`query_not_kept`** — a request whose path says something else.
-/

namespace LoadPlan

/-! ## Reading queries -/

/-- **How a query is read**: in pieces between ampersands.  The name is what stands in front of the first
equals sign of a piece, and the value is what stands behind it. -/
def readQuery (q : Text) : List (Text × Text) :=
  (List.splitOn ('&' : Rune) q).map fun piece : Text => (piece.before '=', (piece.after? '=').getD [])

/-- No piece has the separator. -/
lemma notMem_of_mem_splitOn (separator : Rune) (t : Text) :
    ∀ piece ∈ List.splitOn separator t, separator ∉ piece := by
  by_cases hmem : separator ∈ t
  · obtain ⟨first, rest, heq, hfirst⟩ := List.eq_append_cons_of_mem hmem
    rw [heq, List.splitOn_append_cons_self, List.splitOn_eq_singleton hfirst]
    exact List.forall_mem_cons.mpr ⟨hfirst, notMem_of_mem_splitOn separator rest⟩
  · rw [List.splitOn_eq_singleton hmem]
    exact List.forall_mem_singleton.mpr hmem
termination_by t.length
decreasing_by
  rw [heq, List.length_append, List.length_cons]
  omega

lemma Text.notMem_before (separator : Rune) (t : Text) : separator ∉ t.before separator := by
  intro hmem
  rw [before] at hmem
  have hkept := List.mem_takeWhile_imp hmem
  exact bne_iff_ne.mp hkept rfl

namespace Plan

/-- A pair in a query. -/
def queryPiece (pair : Text × Text) : Text := pair.1 ++ ('=' : Rune) :: pair.2

lemma queryText_eq (pairs : List (Text × Text)) :
    queryText pairs = [('&' : Rune)].intercalate (pairs.map queryPiece) := by
  rw [queryText, Text.join_eq_intercalate]
  refine congrArg (List.intercalate [('&' : Rune)]) (List.map_congr_left fun pair _ => ?_)
  exact List.append_assoc pair.1 "=" pair.2

/-- **What is read from a query**: the pairs that were written into it, if no sign in them cuts it, and only
then. -/
lemma readQuery_queryText_iff {pairs : List (Text × Text)} (hne : pairs ≠ []) :
    readQuery (queryText pairs) = pairs ↔
      ∀ pair ∈ pairs, ('&' : Rune) ∉ pair.1 ∧ ('=' : Rune) ∉ pair.1 ∧ ('&' : Rune) ∉ pair.2 := by
  constructor
  · -- what has been read comes from pieces, and no piece has the sign that it was cut at
    intro hread pair hpair
    rw [← hread, readQuery] at hpair
    obtain ⟨piece, hpiece, rfl⟩ := List.mem_map.mp hpair
    have hcut := notMem_of_mem_splitOn '&' _ piece hpiece
    exact ⟨fun hmem => hcut (Text.before_subset _ _ hmem), Text.notMem_before _ _,
      fun hmem => hcut (Text.getD_after?_subset _ _ hmem)⟩
  · intro hfree
    have hpieces : ∀ piece ∈ pairs.map queryPiece, ('&' : Rune) ∉ piece := by
      refine List.forall_mem_map.mpr fun pair hpair => ?_
      obtain ⟨hname, -, hvalue⟩ := hfree pair hpair
      rw [queryPiece, List.mem_append, List.mem_cons, not_or, not_or]
      exact ⟨hname, by decide, hvalue⟩
    rw [readQuery, queryText_eq,
      List.splitOn_intercalate _ hpieces (mt List.map_eq_nil_iff.mp hne), List.map_map]
    refine (List.map_congr_left fun pair hpair => ?_).trans (List.map_id _)
    obtain ⟨hbefore, hafter⟩ := Text.cut_append (hfree pair hpair).2.1 pair.2
    show ((queryPiece pair).before '=', ((queryPiece pair).after? '=').getD []) = pair
    rw [queryPiece, hbefore, hafter]
    rfl

/-! ## Parameters in queries -/

/-- The parameters that go into the query of an operation: those with a name. -/
def queryParameters (operation : Operation) : List Parameter :=
  (operation.parametersIn "query").filter fun parameter => !parameter.name.isEmpty

/-- **A parameter that cuts no query**: its name has no ampersand and no equals sign, and its sample has no
ampersand. -/
structure IsSeparate (parameter : Parameter) : Prop where
  /-- The name cuts no query. -/
  name : ('&' : Rune) ∉ parameter.name ∧ ('=' : Rune) ∉ parameter.name
  /-- The sample cuts no query. -/
  sample : ∀ text, argumentText parameter.sample = .ok text → ('&' : Rune) ∉ text

/-- Backslashes are put in front of commas, and nothing else is changed. -/
lemma ampersand_mem_escaped {t : Text} : ('&' : Rune) ∈ t.escaped ↔ ('&' : Rune) ∈ t := by
  induction t with
  | nil => rfl
  | cons c rest ih =>
      by_cases hcomma : c = ','
      · rw [hcomma, Text.escaped_comma, List.mem_cons, List.mem_cons, List.mem_cons, ih]
        have hother : ('&' : Rune) ≠ '\\' ∧ ('&' : Rune) ≠ ',' := by decide
        simp only [hother, false_or]
      · rw [Text.escaped_cons hcomma, List.mem_cons, List.mem_cons, ih]

/-- What is written around names and defaults. -/
def framing : Text := "$\x7b__P(,)\x7d"

lemma mem_propertyRef_iff {sign : Rune} (h : sign ∉ framing) {name default : Text} :
    sign ∈ propertyRef name default ↔ sign ∈ name ∨ sign ∈ default := by
  have hopening : ∀ r ∈ ("$\x7b__P(" : Text), r ∈ framing := by decide
  have hcomma : ∀ r ∈ ("," : Text), r ∈ framing := by decide
  have hclosing : ∀ r ∈ (")\x7d" : Text), r ∈ framing := by decide
  simp only [propertyRef, List.mem_append, mt (hopening sign) h, mt (hcomma sign) h, mt (hclosing sign) h,
    false_or, or_false]

lemma mem_variableRef_iff {sign : Rune} (h : sign ∉ framing) {name : Text} :
    sign ∈ variableRef name ↔ sign ∈ name := by
  have hopening : ∀ r ∈ ("$\x7b" : Text), r ∈ framing := by decide
  have hclosing : ∀ r ∈ ("\x7d" : Text), r ∈ framing := by decide
  simp only [variableRef, List.mem_append, mt (hopening sign) h, mt (hclosing sign) h, false_or, or_false]

/-- **The value of a parameter** has an ampersand exactly if its name or its sample has one. -/
lemma isSeparate_iff {parameter : Parameter} {value : Text} (h : parameter.reference = .ok value) :
    IsSeparate parameter ↔
      ('&' : Rune) ∉ parameter.name ∧ ('=' : Rune) ∉ parameter.name ∧ ('&' : Rune) ∉ value := by
  have hframing : ('&' : Rune) ∉ framing := by decide
  have hvalue : ('&' : Rune) ∉ parameter.name → (('&' : Rune) ∉ value ↔
      ∀ text, argumentText parameter.sample = .ok text → ('&' : Rune) ∉ text) := by
    intro hname
    rw [Parameter.reference] at h
    split at h
    · rename_i hnull
      obtain rfl := Except.ok.inj h
      rw [mem_variableRef_iff hframing, hnull]
      refine iff_of_true hname fun text htext => ?_
      obtain rfl : "null" = text := Except.ok.inj htext
      decide
    · cases hsample : argumentText parameter.sample with
      | error fault =>
          rw [hsample] at h
          cases h
      | ok text =>
          rw [hsample] at h
          obtain rfl := Except.ok.inj h
          show (('&' : Rune) ∉ propertyRef _ text.escaped) ↔ _
          rw [mem_propertyRef_iff hframing, ampersand_mem_escaped, not_or, and_iff_right hname]
          exact ⟨fun hfree _ heq => Except.ok.inj heq ▸ hfree, fun hfree => hfree text rfl⟩
  constructor
  · intro hseparate
    exact ⟨hseparate.name.1, hseparate.name.2, (hvalue hseparate.name.1).mpr hseparate.sample⟩
  · rintro ⟨hname, hequals, hfree⟩
    exact ⟨⟨hname, hequals⟩, (hvalue hname).mp hfree⟩

/-! ## Paths -/

lemma subset_of_closeBrace? {t name rest : Text} (h : closeBrace? t = some (name, rest)) :
    name ⊆ t ∧ rest ⊆ t := by
  unfold closeBrace? at h
  split at h
  · cases h
  · rename_i hafter _
    obtain ⟨rfl, rfl⟩ := Prod.mk.inj (Option.some.inj h)
    exact ⟨Text.before_subset _ t, Text.subset_of_after? hafter⟩
  · cases h

/-- Variables in a path add no question mark. -/
lemma question_notMem_templatePath (t : Text) (h : ('?' : Rune) ∉ t) : ('?' : Rune) ∉ templatePath t := by
  fun_induction templatePath t with
  | case1 => exact List.not_mem_nil
  | case2 rest name after hclose _ ih =>
      obtain ⟨hname, hafter⟩ := subset_of_closeBrace? hclose
      rw [List.mem_append, mem_variableRef_iff (by decide), not_or]
      exact ⟨fun hmem => h (List.mem_cons_of_mem _ (hname hmem)),
        ih fun hmem => h (List.mem_cons_of_mem _ (hafter hmem))⟩
  | case3 rest _ ih =>
      rw [List.mem_cons, not_or] at h ⊢
      exact ⟨h.1, ih h.2⟩
  | case4 c rest _ ih =>
      rw [List.mem_cons, not_or] at h ⊢
      exact ⟨h.1, ih h.2⟩

/-- The path of an operation without a query. -/
def ownPath (operation : Operation) : Text := variableRef "BASE_PATH" ++ templatePath operation.path

lemma question_notMem_ownPath {operation : Operation} (h : ('?' : Rune) ∉ operation.path) :
    ('?' : Rune) ∉ ownPath operation := by
  rw [ownPath, List.mem_append, not_or]
  exact ⟨by decide, question_notMem_templatePath _ h⟩

/-! ## Requests -/

/-- **A path has a query** for some pairs: it is what stands behind the first question mark, if the path of
the operation has none, and the pairs are read from it exactly if all parameters are separate. -/
def HasQuery (operation : Operation) (pairs : List (Text × Text)) (path : Text) : Prop :=
  ∃ q, path = ownPath operation ++ ('?' : Rune) :: q ∧
    (('?' : Rune) ∉ operation.path → path.after? '?' = some q) ∧
    (readQuery q = pairs ↔ ∀ parameter ∈ queryParameters operation, IsSeparate parameter)

/-- **What a request has from the parameters of a query.** -/
structure SendsQuery (operation : Operation) (sent : Payload) (settings : HttpSampler)
    (pairs : List (Text × Text)) : Prop where
  /-- The pairs are the names and the values of the parameters, in their order. -/
  pairs_eq : List.Forall₂ (fun parameter pair => pair.1 = parameter.name ∧
    parameter.reference = .ok pair.2) (queryParameters operation) pairs
  /-- Without a body, the pairs are the first arguments; the others are the fields of a form. -/
  without : sent.body? = none → settings.body = .null ∧ settings.path = .text (ownPath operation) ∧
    settings.arguments = pairs.map textPair ++ sent.form
  /-- With a body, the pairs are in the path, if there are any. -/
  within : ∀ body, sent.body? = some body → settings.body = .text body ∧
    settings.arguments = sent.form ∧ ∃ path, settings.path = .text path ∧
      (pairs = [] → path = ownPath operation) ∧ (pairs ≠ [] → HasQuery operation pairs path)

section

variable {config : Config} {presets : Presets} {operation : Operation} {resolver : Resolver}

lemma forall₂_arguments {pairs : List (Text × Text)} (h : arguments operation "query" = .ok pairs) :
    List.Forall₂ (fun parameter pair => pair.1 = parameter.name ∧ parameter.reference = .ok pair.2)
      (queryParameters operation) pairs := by
  refine (forall₂_of_mapM h).imp fun parameter pair hpair => ?_
  rw [argument] at hpair
  cases hvalue : parameter.reference with
  | error fault =>
      rw [hvalue] at hpair
      cases hpair
  | ok value =>
      rw [hvalue] at hpair
      obtain rfl := Except.ok.inj hpair
      exact ⟨rfl, rfl⟩

lemma requestPath_of_ne_nil {pairs : List (Text × Text)} (hne : pairs ≠ []) :
    requestPath operation pairs true = ownPath operation ++ ('?' : Rune) :: queryText pairs := by
  have hquery : (true && !pairs.isEmpty) = true := by
    rw [Bool.true_and, Bool.not_eq_true', List.isEmpty_eq_false_iff]
    exact hne
  rw [requestPath, hquery]
  exact List.append_assoc (ownPath operation) "?" (queryText pairs)

lemma hasQuery_queryText {pairs : List (Text × Text)} (hne : pairs ≠ [])
    (h : arguments operation "query" = .ok pairs) :
    HasQuery operation pairs (ownPath operation ++ ('?' : Rune) :: queryText pairs) := by
  refine ⟨queryText pairs, rfl, fun hpath => (Text.cut_append (question_notMem_ownPath hpath) _).2, ?_⟩
  rw [readQuery_queryText_iff hne]
  have hpairs := forall₂_arguments h
  constructor
  · intro hfree parameter hparameter
    obtain ⟨pair, hpair, hname, hvalue⟩ := exists_of_forall₂ hpairs.flip parameter hparameter
    rw [isSeparate_iff hvalue, ← hname]
    exact hfree pair hpair
  · intro hseparate pair hpair
    obtain ⟨parameter, hparameter, hname, hvalue⟩ := exists_of_forall₂ hpairs pair hpair
    rw [hname]
    exact (isSeparate_iff hvalue).mp (hseparate parameter hparameter)

end

/-! ## An example -/

/-- An operation with a body and with two parameters in its query; the sample of the first has an
ampersand. -/
def asking : Operation :=
  { sending (.bool true) with
    parameters := [⟨"q", "query", false, .text "a&b"⟩, ⟨"page", "query", false, .null⟩] }

/-- The parameters with their values. -/
def askingPairs : List (Text × Text) := [("q", "$\x7b__P(q,a&b)\x7d"), ("page", "$\x7bpage\x7d")]

lemma arguments_asking : arguments asking "query" = .ok askingPairs := rfl

lemma sendsJson_asking : asking.SendsJson noDocument (.bool true) :=
  have hsending : (sending (.bool true)).SendsJson noDocument (.bool true) := sendsJson_sending rfl
  ⟨hsending.hasBody, hsending.sample, hsending.notForm⟩

/-- The operation has a request, with a body and with the parameters in its path. -/
lemma sampler_asking : ∃ request settings, (sampler .usual .usual asking noDocument).outcome = .ok request ∧
    request.settings = .httpSampler settings ∧ settings.body = .text "true" ∧ settings.arguments = [] ∧
    settings.path = .text (ownPath asking ++ ('?' : Rune) :: queryText askingPairs) := by
  rw [sampler_outcome, payload_of_sendsJson sendsJson_asking, arguments_asking]
  exact ⟨_, _, rfl, rfl, rfl, rfl, congrArg Value.text (requestPath_of_ne_nil (List.cons_ne_nil _ _))⟩

/-- **Parameters of queries are kept**: as arguments without a body, and in the path with one, from which they
are read exactly if each of them is separate. -/
theorem query_kept_iff {config : Config} {presets : Presets} {operation : Operation} {resolver : Resolver}
    {request : Element} (h : (sampler config presets operation resolver).outcome = .ok request) :
    ∃ settings sent pairs, request.settings = .httpSampler settings ∧
      (payload operation resolver).outcome = .ok sent ∧ SendsQuery operation sent settings pairs := by
  rw [sampler_outcome] at h
  obtain ⟨pairs, hpairs, h⟩ := exists_of_except_bind h
  obtain ⟨sent, hsent, h⟩ := exists_of_except_bind h
  obtain ⟨headers, -, h⟩ := exists_of_except_bind h
  obtain rfl := Except.ok.inj h
  refine ⟨_, sent, pairs, rfl, hsent, forall₂_arguments hpairs, fun hbody => ?_, fun body hbody => ?_⟩
  · rw [hbody]
    exact ⟨rfl, rfl, rfl⟩
  · rw [hbody]
    refine ⟨rfl, rfl, _, rfl, ?_, fun hne => ?_⟩
    · rintro rfl
      rfl
    · rw [Option.isSome_some, requestPath_of_ne_nil hne]
      exact hasQuery_queryText hne hpairs

theorem query_kept_iff_asking : ∃ request settings sent pairs,
    (sampler .usual .usual asking noDocument).outcome = .ok request ∧
      request.settings = .httpSampler settings ∧ (payload asking noDocument).outcome = .ok sent ∧
      SendsQuery asking sent settings pairs ∧ pairs.length = 2 := by
  obtain ⟨request, -, hrequest, -⟩ := sampler_asking
  obtain ⟨settings, sent, pairs, hsettings, hsent, hquery⟩ := query_kept_iff hrequest
  exact ⟨request, settings, sent, pairs, hrequest, hsettings, hsent, hquery, hquery.pairs_eq.length_eq.symm⟩

/-- **A path can say something else**: what is read from the path of the example is not its parameters. -/
theorem query_not_kept : ∃ request settings q,
    (sampler .usual .usual asking noDocument).outcome = .ok request ∧
      request.settings = .httpSampler settings ∧ settings.body = .text "true" ∧ settings.arguments = [] ∧
      ('?' : Rune) ∉ asking.path ∧ settings.path = .text (ownPath asking ++ ('?' : Rune) :: q) ∧
      arguments asking "query" = .ok askingPairs ∧ readQuery q ≠ askingPairs := by
  obtain ⟨request, settings, hrequest, hsettings, hbody, hforms, hpath⟩ := sampler_asking
  refine ⟨request, settings, queryText askingPairs, hrequest, hsettings, hbody, hforms, by decide, hpath,
    arguments_asking, fun hread => ?_⟩
  have hfree := (readQuery_queryText_iff (List.cons_ne_nil _ _)).mp hread
  exact absurd (hfree _ List.mem_cons_self).2.2 (by decide)

end Plan

end LoadPlan
