import LoadPlan.Proofs.Plan.Layout
import LoadPlan.Proofs.Plan.Template
import Mathlib.Data.List.Nodup

/-!
# The variables of a plan

The root of a plan declares variables, and elements below it refer to them by their names.  The two are made
apart from each other: the variables once, from the schemes of the specification, each name only once; the
elements for each group anew, one for each scheme.

* `Text.references`, `Element.uses` — the variables that a text refers to, and those of the plan that an
  element refers to.
* `credentialVariables_names` — the variables for credentials have names of their own, those of all schemes.
* `Placeholder` — those variables, with the placeholders that they are declared with.
* `Refers` — the elements of a plan, by what they refer to.
* **`variables_declared`** — every variable of the plan that is referred to is declared, once, and every
  variable for credentials is needed by every group.
-/

namespace LoadPlan

/-! ## References in texts -/

namespace Text

/-- The variable that a text begins with a reference to. -/
def referenceAt? (t : Text) : Option Text :=
  if t.startsWith "$\x7b" then (closeBrace? (t.drop 2)).map Prod.fst else none

/-- **The variables that a text refers to.** -/
def references (t : Text) : List Text := t.tails.filterMap referenceAt?

/-- Whether a text can stand in a reference as the name of a variable. -/
def isVariableName (t : Text) : Bool := !t.isEmpty && t.all fun r => r ≠ '$' && r ≠ '\x7d'

lemma ne_of_isVariableName {name : Text} (h : name.isVariableName = true) :
    name ≠ [] ∧ ∀ r ∈ name, r ≠ '$' ∧ r ≠ '\x7d' := by
  simp only [isVariableName, Bool.and_eq_true, Bool.not_eq_true', List.isEmpty_eq_false_iff,
    List.all_eq_true, decide_eq_true_eq] at h
  exact h

/-- A text that begins with the value of a variable begins with a reference to it. -/
lemma referenceAt?_variableRef {name : Text} (h : name.isVariableName = true) (rest : Text) :
    referenceAt? (variableRef name ++ rest) = some name := by
  have hshape : variableRef name ++ rest = ('$' : Rune) :: '\x7b' :: (name ++ ('\x7d' : Rune) :: rest) := by
    show ('$' : Rune) :: '\x7b' :: (name ++ [('\x7d' : Rune)] ++ rest) = _
    rw [List.append_assoc]
    rfl
  rw [hshape]
  show (closeBrace? (name ++ ('\x7d' : Rune) :: rest)).map Prod.fst = _
  obtain ⟨hne, hrunes⟩ := ne_of_isVariableName h
  rw [closeBrace?_append hne fun hmem => (hrunes _ hmem).2 rfl]
  rfl

lemma references_cons (r : Rune) (t : Text) :
    references (r :: t) = (referenceAt? (r :: t)).toList ++ references t := by
  rw [references, List.tails, List.filterMap_cons]
  cases referenceAt? (r :: t) <;> rfl

/-- What stands before the first dollar sign refers to nothing. -/
lemma references_append {s : Text} (h : ∀ r ∈ s, r ≠ '$') (t : Text) :
    references (s ++ t) = references t := by
  induction s with
  | nil => rfl
  | cons r s ih =>
      rw [List.forall_mem_cons] at h
      have hstart : startsWith (r :: (s ++ t)) "$\x7b" = false :=
        (Bool.and_eq_false_iff).mpr (.inl (beq_false_of_ne (Ne.symm h.1)))
      rw [List.cons_append, references_cons, ih h.2, referenceAt?, hstart]
      rfl

/-- **The value of a variable refers to the variable**, and to nothing else. -/
lemma references_variableRef {name : Text} (h : name.isVariableName = true) :
    references (variableRef name) = [name] := by
  have hrest : ∀ r ∈ ('\x7b' : Rune) :: (name ++ [('\x7d' : Rune)]), r ≠ '$' := by
    rw [List.forall_mem_cons, List.forall_mem_append, List.forall_mem_singleton]
    exact ⟨by decide, fun r hr => ((ne_of_isVariableName h).2 r hr).1, by decide⟩
  have hfirst := referenceAt?_variableRef h []
  rw [List.append_nil] at hfirst
  show references (('$' : Rune) :: '\x7b' :: (name ++ [('\x7d' : Rune)])) = _
  rw [references_cons]
  have hnone := references_append hrest []
  rw [List.append_nil] at hnone
  rw [hnone]
  show (referenceAt? (variableRef name)).toList ++ references [] = _
  rw [hfirst]
  rfl

end Text

/-- The variables that a value refers to. -/
def Value.references : Value → List Text
  | .text t => t.references
  | _ => []

/-- The variable that a value begins with a reference to. -/
def Value.referenceAt? : Value → Option Text
  | .text t => t.referenceAt?
  | _ => none

namespace Rune

/-- Whether a character is a letter or a digit of ASCII. -/
def isPlain (r : Rune) : Bool := r.isAsciiLetter || r.isAsciiDigit

lemma isPlain_iff {r : Rune} : r.isPlain = true ↔
    (0x41 ≤ r.code ∧ r.code ≤ 0x5A) ∨ (0x61 ≤ r.code ∧ r.code ≤ 0x7A) ∨
      (0x30 ≤ r.code ∧ r.code ≤ 0x39) := by
  simp only [isPlain, isAsciiLetter, isAsciiDigit, Bool.or_eq_true, Bool.and_eq_true, decide_eq_true_eq,
    or_assoc]

end Rune

namespace Plan

/-! ## References in elements -/

namespace Element

/-- Whether an element is named like one that sends a key or a token. -/
def sendsCredentials (element : Element) : Bool :=
  match element.name with
  | .text name =>
    name.startsWith "API Key Header Manager - " || name.startsWith "Bearer Token Header Manager - "
  | _ => false

/-- **The variables of the plan that an element refers to.**  In a request these are what its path begins
with and its timeouts; the rest of the path and the values of parameters are filled in for each request by
other means.  Among the headers, only those for keys and tokens count. -/
def uses (element : Element) : List Text :=
  match element.settings with
  | .httpDefaults settings =>
    [ settings.domain, settings.port, settings.protocol, settings.contentEncoding,
      settings.connectTimeout, settings.responseTimeout ].flatMap Value.references
  | .httpSampler settings =>
    settings.path.referenceAt?.toList ++
      [settings.connectTimeout, settings.responseTimeout].flatMap Value.references
  | .headerManager settings =>
    if element.sendsCredentials then settings.headers.flatMap fun header => header.2.references else []
  | .authManager settings =>
    [ settings.url, settings.username, settings.password, settings.domain,
      settings.realm ].flatMap Value.references
  | _ => []

end Element

/-- The variables for the server: the parts of its address, and how long it is waited for. -/
def serverNames : List Text :=
  ["BASE_URL", "HOST", "PORT", "PROTOCOL", "BASE_PATH", "CONNECTION_TIMEOUT", "RESPONSE_TIMEOUT"]

/-- What all requests have in common refers to these. -/
def defaultNames : List Text := ["HOST", "PORT", "PROTOCOL", "CONNECTION_TIMEOUT", "RESPONSE_TIMEOUT"]

/-- A request refers to these. -/
def requestNames : List Text := ["BASE_PATH", "CONNECTION_TIMEOUT", "RESPONSE_TIMEOUT"]

/-! ## The variables for credentials -/

/-- The names of some variables. -/
def names (declared : List Variable) : List Text := declared.map Prod.fst

lemma names_addVariable (declared : List Variable) (added : Variable) :
    ((names declared).Nodup → (names (addVariable declared added)).Nodup) ∧
      ∀ name, name ∈ names (addVariable declared added) ↔ name ∈ names declared ∨ name = added.1 := by
  have hany : declared.any (·.1 = added.1) = true ↔ added.1 ∈ names declared := by
    rw [List.any_eq_true, names, List.mem_map]
    exact exists_congr fun v => and_congr_right fun _ => decide_eq_true_iff
  unfold addVariable
  split_ifs with hfound
  · refine ⟨id, fun name => ⟨.inl, ?_⟩⟩
    rintro (hname | rfl)
    · exact hname
    · exact hany.mp hfound
  · rw [hany] at hfound
    have hmap : names (declared ++ [added]) = names declared ++ [added.1] := List.map_append
    rw [hmap]
    refine ⟨fun hnodup => ?_, fun name => List.mem_append.trans (or_congr_right List.mem_singleton)⟩
    refine List.nodup_append.mpr ⟨hnodup, List.nodup_singleton _, fun name hname other hother => ?_⟩
    rw [List.mem_singleton.mp hother]
    rintro rfl
    exact hfound hname

/-- Variables that are added one after another keep names of their own. -/
lemma names_foldl : ∀ (added : List Variable) {declared : List Variable}, (names declared).Nodup →
    (names (added.foldl addVariable declared)).Nodup ∧
      ∀ name, name ∈ names (added.foldl addVariable declared) ↔
        name ∈ names declared ∨ name ∈ names added
  | [], declared, h => ⟨h, fun name => (or_iff_left List.not_mem_nil).symm⟩
  | first :: added, declared, h => by
      obtain ⟨hnodup, hmem⟩ := names_addVariable declared first
      obtain ⟨hall, hnames⟩ := names_foldl added (hnodup h)
      refine ⟨hall, fun name => ?_⟩
      rw [List.foldl_cons, hnames, hmem, or_assoc]
      exact or_congr_right List.mem_cons.symm

lemma mem_of_mem_addVariable {declared : List Variable} {added v : Variable}
    (h : v ∈ addVariable declared added) : v ∈ declared ∨ v = added := by
  unfold addVariable at h
  split_ifs at h
  · exact .inl h
  · exact (List.mem_append.mp h).imp_right List.mem_singleton.mp

lemma mem_of_mem_foldl : ∀ {added declared : List Variable} {v : Variable},
    v ∈ added.foldl addVariable declared → v ∈ declared ∨ v ∈ added
  | [], _, _, h => .inl h
  | first :: added, declared, v, h => by
      rcases mem_of_mem_foldl (List.foldl_cons .. ▸ h) with hv | hv
      · rcases mem_of_mem_addVariable hv with hv | rfl
        · exact .inl hv
        · exact .inr List.mem_cons_self
      · exact .inr (List.mem_cons_of_mem _ hv)

/-- Every variable for credentials is one of a scheme. -/
lemma mem_of_credentialVariables {schemes : List Scheme} {declared : List Variable}
    (h : credentialVariables schemes = .ok declared) : ∀ v ∈ declared,
      ∃ scheme ∈ schemes, ∃ found, schemeVariables scheme = .ok found ∧ v ∈ found := by
  rw [credentialVariables] at h
  cases hfound : schemes.mapM schemeVariables with
  | error fault =>
      rw [hfound] at h
      cases h
  | ok found =>
      rw [hfound] at h
      obtain rfl := Except.ok.inj h
      intro v hv
      rcases mem_of_mem_foldl hv with hno | hv
      · cases hno
      · obtain ⟨own, hown, hv⟩ := List.mem_flatten.mp hv
        obtain ⟨scheme, hscheme, hmade⟩ := exists_of_forall₂ (forall₂_of_mapM hfound) own hown
        exact ⟨scheme, hscheme, own, hmade, hv⟩

/-- **The variables for credentials**: no name twice, and the names of all schemes. -/
lemma credentialVariables_names {schemes : List Scheme} {declared : List Variable}
    (h : credentialVariables schemes = .ok declared) : (names declared).Nodup ∧
      (∀ scheme ∈ schemes, ∃ found, schemeVariables scheme = .ok found ∧ names found ⊆ names declared) ∧
      ∀ name ∈ names declared, ∃ scheme ∈ schemes, ∃ found, schemeVariables scheme = .ok found ∧
        name ∈ names found := by
  have hmade := mem_of_credentialVariables h
  rw [credentialVariables] at h
  cases hfound : schemes.mapM schemeVariables with
  | error fault =>
      rw [hfound] at h
      cases h
  | ok found =>
      rw [hfound] at h
      obtain rfl := Except.ok.inj h
      obtain ⟨hnodup, hmem⟩ := names_foldl found.flatten (show (names []).Nodup from List.nodup_nil)
      have hpairs := forall₂_of_mapM hfound
      refine ⟨hnodup, fun scheme hscheme => ?_, fun name hname => ?_⟩
      · obtain ⟨own, hown, hfound⟩ := exists_of_forall₂ hpairs.flip scheme hscheme
        refine ⟨own, hfound, fun name hname => (hmem name).mpr (.inr ?_)⟩
        obtain ⟨v, hv, rfl⟩ := List.mem_map.mp hname
        exact List.mem_map_of_mem (List.mem_flatten_of_mem hown hv)
      · obtain ⟨v, hv, rfl⟩ := List.mem_map.mp hname
        obtain ⟨scheme, hscheme, own, hmade, hown⟩ := hmade v hv
        exact ⟨scheme, hscheme, own, hmade, List.mem_map_of_mem hown⟩

/-- **The variables for credentials**, with their placeholders. -/
inductive Placeholder : Text → Text → Prop where
  /-- The key of a scheme. -/
  | key (scheme : Text) : Placeholder (keyVariable scheme) "your_api_key_here"
  /-- A token. -/
  | token : Placeholder "BEARER_TOKEN" "your_bearer_token_here"
  /-- The name of a user. -/
  | username : Placeholder "BASIC_USERNAME" "your_username_here"
  /-- The password of a user. -/
  | password : Placeholder "BASIC_PASSWORD" "your_password_here"

lemma placeholder_of_mem {scheme : Scheme} {found : List Variable} (h : schemeVariables scheme = .ok found) :
    ∀ v ∈ found, ∃ name default, v = declare name default ∧ Placeholder name default := by
  obtain ⟨schemeName, credential⟩ := scheme
  cases credential with
  | apiKey header =>
      cases schemeName with
      | text t =>
          obtain rfl := Except.ok.inj h
          exact List.forall_mem_singleton.mpr ⟨_, _, rfl, .key t⟩
      | _ => cases h
  | bearer =>
      obtain rfl := Except.ok.inj h
      exact List.forall_mem_singleton.mpr ⟨_, _, rfl, .token⟩
  | basic =>
      obtain rfl := Except.ok.inj h
      exact List.forall_mem_cons.mpr
        ⟨⟨_, _, rfl, .username⟩, List.forall_mem_singleton.mpr ⟨_, _, rfl, .password⟩⟩

/-- Every variable for credentials is made with a placeholder. -/
lemma placeholder_of_credentialVariables {schemes : List Scheme} {declared : List Variable}
    (h : credentialVariables schemes = .ok declared) :
    ∀ v ∈ declared, ∃ name default, v = declare name default ∧ Placeholder name default := by
  intro v hv
  obtain ⟨scheme, -, found, hfound, hmem⟩ := mem_of_credentialVariables h v hv
  exact placeholder_of_mem hfound v hmem

/-- No variable for credentials has the name of one for the server. -/
lemma notMem_serverNames {schemes : List Scheme} {declared : List Variable}
    (h : credentialVariables schemes = .ok declared) : ∀ name ∈ names declared, name ∉ serverNames := by
  refine List.forall_mem_map.mpr fun v hv => ?_
  obtain ⟨name, default, rfl, hplaceholder⟩ := placeholder_of_credentialVariables h v hv
  show name ∉ serverNames
  cases hplaceholder with
  | key scheme =>
      have hhead : ∀ name ∈ serverNames, name.head? ≠ some 'A' := by decide
      exact fun hmem => hhead _ hmem rfl
  | _ => decide

/-! ## What managers refer to -/

/-- Among the first 128 code points, small Latin letters have capitals, and the others have no upper case of
their own. -/
lemma upper_of_isAscii {r : Rune} (h : r.isAscii = true) :
    r.upper = [if 0x61 ≤ r.code ∧ r.code ≤ 0x7A then Rune.ofCode (r.code - 32) else r] := by
  have hcode : r.code < 0x80 := of_decide_eq_true h
  have hkeys : ∀ entry ∈ upperSequences, 0x80 ≤ entry.1 := by decide +kernel
  have hfirsts : ∀ run ∈ upperRuns.tail, 0x80 ≤ run.first := by decide +kernel
  have hlookup : upperSequences.lookup r.code = none := by
    refine List.lookup_eq_none_iff.mpr fun entry hentry => bne_iff_ne.mpr ?_
    have := hkeys entry hentry
    omega
  have hrest : upperRuns.tail.find? (·.covers r.code) = none := by
    refine List.find?_eq_none.mpr fun run hrun => ?_
    have := hfirsts run hrun
    simp only [CaseRun.covers, Bool.and_eq_true, decide_eq_true_eq]
    omega
  have hruns : upperRuns = ⟨0x61, 0x7A, 1, -32⟩ :: upperRuns.tail := rfl
  rw [Rune.upper, hlookup, CaseRun.apply, hruns, List.find?_cons, hrest]
  simp only [CaseRun.covers, Nat.mod_one, beq_self_eq_true, Bool.and_true]
  split_ifs with hsmall
  · rw [decide_eq_true hsmall.1, decide_eq_true hsmall.2]
    refine congrArg (fun code => [Rune.ofCode code]) ?_
    show Int.toNat ((r.code : Int) + -32) = r.code - 32
    omega
  · rw [← Bool.decide_and, decide_eq_false hsmall]

/-- A small letter of ASCII as a capital, another letter or digit as it is, and a low line for the rest: what
a character of the name of a scheme becomes in the name of a variable. -/
def keyRune (r : Rune) : Rune :=
  if 0x61 ≤ r.code ∧ r.code ≤ 0x7A then Rune.ofCode (r.code - 32)
  else if r.isPlain then r
  else '_'

lemma upper_variableRune (r : Rune) : (variableRune r).upper = [keyRune r] := by
  have hvariable : variableRune r = if r.isPlain then r else '_' := rfl
  rw [hvariable, keyRune]
  by_cases hplain : r.isPlain = true
  · have hascii : r.isAscii = true := by
      refine decide_eq_true ?_
      rw [Rune.isPlain_iff] at hplain
      omega
    rw [if_pos hplain, upper_of_isAscii hascii]
  · have hsmall : ¬ (0x61 ≤ r.code ∧ r.code ≤ 0x7A) :=
      fun hsmall => hplain (Rune.isPlain_iff.mpr (.inr (.inl hsmall)))
    rw [if_neg hplain, if_neg hsmall, upper_of_isAscii (by decide)]
    rfl

/-- The name of a variable is made character by character. -/
lemma keyVariable_eq (name : Text) : keyVariable name = "API_KEY_" ++ name.map keyRune := by
  rw [keyVariable, List.flatMap_map, List.map_eq_flatMap, funext upper_variableRune]

lemma code_keyRune (r : Rune) : (keyRune r).code =
    if 0x61 ≤ r.code ∧ r.code ≤ 0x7A then r.code - 32 else if r.isPlain then r.code else 0x5F := by
  unfold keyRune
  split_ifs with hsmall
  · exact Rune.code_ofCode (by omega)
  · rfl
  · rfl

/-- The name of the variable for a key consists of letters, digits and low lines. -/
lemma code_of_mem_keyVariable {name : Text} {r : Rune} (h : r ∈ keyVariable name) :
    r.isPlain = true ∨ r.code = 0x5F := by
  rw [keyVariable_eq, List.mem_append, List.mem_map] at h
  rcases h with hstart | ⟨u, -, rfl⟩
  · have hall : ∀ r ∈ ("API_KEY_" : Text), r.isPlain = true ∨ r.code = 0x5F := by decide
    exact hall r hstart
  · rw [Rune.isPlain_iff, code_keyRune]
    split_ifs with hsmall hplain
    · omega
    · rw [Rune.isPlain_iff] at hplain
      omega
    · omega

/-- A sign that is neither a letter nor a digit nor a low line is not in the name of the variable for a
key. -/
lemma ne_of_mem_keyVariable {name : Text} {r sign : Rune} (h : r ∈ keyVariable name)
    (hplain : sign.isPlain = false) (hlow : sign.code ≠ 0x5F) : r ≠ sign := by
  rintro rfl
  rcases code_of_mem_keyVariable h with hsign | hsign
  · rw [hplain] at hsign
    cases hsign
  · exact hlow hsign

/-- The name of the variable for a key can stand in a reference. -/
lemma isVariableName_keyVariable (name : Text) : (keyVariable name).isVariableName = true := by
  rw [Text.isVariableName, Bool.and_eq_true, List.all_eq_true]
  refine ⟨rfl, fun r hr => ?_⟩
  rw [Bool.and_eq_true, decide_eq_true_eq, decide_eq_true_eq]
  exact ⟨ne_of_mem_keyVariable hr (by decide) (by decide),
    ne_of_mem_keyVariable hr (by decide) (by decide)⟩

/-- What sends a key refers to the variable for the key, and to nothing else. -/
lemma uses_of_sends_apiKey {name : Text} {header : Value} {manager : Element}
    (h : Sends ⟨.text name, .apiKey header⟩ manager) : manager.uses = [keyVariable name] := by
  cases h with
  | key hheader =>
      show List.flatMap _ [_] = _
      rw [List.flatMap_singleton]
      exact Text.references_variableRef (isVariableName_keyVariable _)

/-- **What sends the credentials of a scheme refers to the variables of the scheme**, and possibly to the
address of the server. -/
lemma uses_of_sends {scheme : Scheme} {manager : Element} (h : Sends scheme manager) :
    ∃ found own, schemeVariables scheme = .ok found ∧ manager.uses = own ++ names found ∧
      ∀ name ∈ own, name = "BASE_URL" := by
  cases h with
  | key hheader =>
      exact ⟨_, [], rfl, uses_of_sends_apiKey (.key hheader), List.forall_mem_nil _⟩
  | token =>
      refine ⟨_, [], rfl, ?_, List.forall_mem_nil _⟩
      show List.flatMap _ [_] = _
      rw [List.flatMap_singleton]
      exact (Text.references_append (by decide) _).trans (Text.references_variableRef (by decide))
  | login =>
      refine ⟨_, ["BASE_URL"], rfl, ?_, List.forall_mem_singleton.mpr rfl⟩
      show Text.references (variableRef "BASE_URL") ++ (Text.references (variableRef "BASIC_USERNAME") ++
        (Text.references (variableRef "BASIC_PASSWORD") ++ _)) = _
      rw [Text.references_variableRef (by decide), Text.references_variableRef (by decide),
        Text.references_variableRef (by decide)]
      rfl

/-! ## The elements of a plan -/

/-- **The elements of a plan, by what they refer to.** -/
inductive Refers (schemes : List Scheme) : Element → Prop where
  /-- An element that refers to nothing is no request. -/
  | nothing {element : Element} (hother : element.isRequest = false) (h : element.uses = []) :
    Refers schemes element
  /-- What all requests have in common refers to the server. -/
  | defaults : Refers schemes httpDefaults
  /-- A request refers to the path of the server and to the timeouts. -/
  | request {element : Element} (h : element.uses = requestNames) : Refers schemes element
  /-- What sends the credentials of a scheme refers to those. -/
  | manager {scheme : Scheme} {element : Element} (hscheme : scheme ∈ schemes)
    (h : Sends scheme element) : Refers schemes element

lemma uses_httpDefaults : httpDefaults.uses = defaultNames := by decide

section

variable {config : Config} {presets : Presets} {spec : Specification} {schemes : List Scheme}

/-- What holds of an element with nothing below it holds at and below it. -/
lemma forall_mem_walk_of_leaf {motive : Element → Prop} {element : Element}
    (hleaf : element.children = []) (h : motive element) : ∀ e ∈ element.walk, motive e := by
  refine Element.forall_mem_walk h ?_
  rw [hleaf]
  exact List.forall_mem_nil _

/-- What is below a request refers to nothing. -/
lemma uses_of_mem_samplerChildren {headers : List Pair} :
    ∀ e ∈ samplerChildren config presets headers,
      e.children = [] ∧ e.isRequest = false ∧ e.uses = [] := by
  refine forall_mem_samplerChildren ⟨rfl, rfl, rfl⟩ ?_ fun field _ => ⟨rfl, rfl, rfl⟩
  rw [assertions, List.forall_mem_cons, List.forall_mem_singleton]
  exact ⟨⟨rfl, rfl, rfl⟩, rfl, rfl, rfl⟩

/-- The elements at and below the request of an operation. -/
lemma refers_of_sampler {operation : Operation} {resolver : Resolver} {request : Element}
    (h : (sampler config presets operation resolver).outcome = .ok request) :
    ∀ e ∈ request.walk, Refers schemes e := by
  obtain ⟨query, -, h⟩ := Report.exists_of_bind h
  obtain ⟨sent, -, h⟩ := Report.exists_of_bind h
  obtain ⟨headers, -, h⟩ := Report.exists_of_bind h
  obtain rfl := Except.ok.inj h
  refine Element.forall_mem_walk (.request ?_) fun e he => ?_
  · obtain ⟨rest, hpath, -⟩ := requestPath_eq operation query sent.body?.isSome
    show (Text.referenceAt? (requestPath operation query sent.body?.isSome)).toList ++
      (Text.references (variableRef "CONNECTION_TIMEOUT") ++
        (Text.references (variableRef "RESPONSE_TIMEOUT") ++ [])) = _
    rw [hpath, List.append_assoc, Text.referenceAt?_variableRef (by decide),
      Text.references_variableRef (by decide), Text.references_variableRef (by decide)]
    rfl
  · obtain ⟨hleaf, hother, huses⟩ := uses_of_mem_samplerChildren e he
    exact forall_mem_walk_of_leaf hleaf (.nothing hother huses)

/-- The elements at and below a group of virtual users. -/
lemma refers_of_isMadeOf {group : Text × List Operation} {element : Element}
    (hschemes : spec.schemes.outcome = .ok schemes) (h : IsMadeOf config presets spec group element) :
    ∀ e ∈ element.walk, Refers schemes e := by
  refine Element.forall_mem_walk ?_ fun child hchild => ?_
  · have hgroup := h.serves.isThreadGroup
    unfold Element.isThreadGroup at hgroup
    split at hgroup
    · rename_i heq
      exact .nothing (by rw [Element.isRequest, heq]) (by rw [Element.uses, heq])
    · cases hgroup
  · obtain ⟨hleaf, ⟨settings, heq⟩ | ⟨settings, heq⟩⟩ | rfl | ⟨scheme, hscheme, hsends⟩ |
        ⟨operation, -, hrequest⟩ := h.cases_children hschemes child hchild
    · exact forall_mem_walk_of_leaf hleaf
        (.nothing (by rw [Element.isRequest, heq]) (by rw [Element.uses, heq]))
    · exact forall_mem_walk_of_leaf hleaf
        (.nothing (by rw [Element.isRequest, heq]) (by rw [Element.uses, heq]))
    · exact forall_mem_walk_of_leaf rfl (.nothing rfl rfl)
    · exact forall_mem_walk_of_leaf (by cases hsends <;> rfl) (.manager hscheme hsends)
    · exact refers_of_sampler hrequest

/-- **The variables that the root of a plan declares** are those for the server and those for credentials. -/
lemma variables_of_testPlan {root : Root} (h : (testPlan config spec).outcome = .ok root) :
    ∃ address server parts schemes declared, baseUrl config spec = .ok address ∧
      (Server.ofBaseUrl address).outcome = .ok server ∧
      serverVariables config address server = .ok parts ∧ spec.schemes.outcome = .ok schemes ∧
      credentialVariables schemes = .ok declared ∧
      root.settings.userVariables = (parts ++ declared).map textPair := by
  rw [testPlan] at h
  obtain ⟨address, haddress, h⟩ := Report.exists_of_bind h
  obtain ⟨server, hserver, h⟩ := Report.exists_of_bind h
  obtain ⟨parts, hparts, h⟩ := Report.exists_of_bind h
  obtain ⟨schemes, hschemes, h⟩ := Report.exists_of_bind h
  obtain ⟨declared, hdeclared, h⟩ := Report.exists_of_bind h
  obtain ⟨description, -, h⟩ := Report.exists_of_bind h
  obtain rfl := Except.ok.inj h
  exact ⟨address, server, parts, schemes, declared, haddress, hserver, hparts, hschemes, hdeclared, rfl⟩

lemma names_serverVariables {address : Text} {server : Server} {parts : List Variable}
    (h : serverVariables config address server = .ok parts) : names parts = serverNames := by
  obtain ⟨connection, -, h⟩ := exists_of_except_bind h
  obtain ⟨response, -, h⟩ := exists_of_except_bind h
  obtain rfl := Except.ok.inj h
  rfl

/-- The names of the variables that the root of a plan declares. -/
lemma variableNames_of_testPlan {root : Root} (h : (testPlan config spec).outcome = .ok root)
    (elements : List Element) :
    ∃ schemes declared, spec.schemes.outcome = .ok schemes ∧ credentialVariables schemes = .ok declared ∧
      (root.withGroups elements).variableNames = (serverNames ++ names declared).map Value.text := by
  obtain ⟨_, _, parts, schemes, declared, -, -, hparts, hschemes, hdeclared, hvariables⟩ :=
    variables_of_testPlan h
  refine ⟨schemes, declared, hschemes, hdeclared, ?_⟩
  show root.settings.userVariables.map Prod.fst = _
  rw [hvariables, ← names_serverVariables hparts, names, names, ← List.map_append, List.map_map,
    List.map_map]
  rfl

/-- The elements of a plan. -/
lemma refers_of_assemble {groups : Operation.Groups} {elements : List Element} (root : Root)
    (hschemes : spec.schemes.outcome = .ok schemes)
    (h : List.Forall₂ (IsMadeOf config presets spec) groups elements) :
    ∀ e ∈ (root.withGroups elements).walk, Refers schemes e := by
  refine Element.forall_mem_walk (.nothing rfl rfl) ?_
  exact List.forall_mem_cons.mpr ⟨forall_mem_walk_of_leaf rfl .defaults,
    forall_mem_of_forall₂ h fun _ _ => refers_of_isMadeOf hschemes⟩

/-- A variable of a scheme is needed in every group. -/
lemma exists_manager_of_isMadeOf {group : Text × List Operation} {element : Element} {scheme : Scheme}
    {found : List Variable} {name : Text} (hschemes : spec.schemes.outcome = .ok schemes)
    (h : IsMadeOf config presets spec group element) (hscheme : scheme ∈ schemes)
    (hfound : schemeVariables scheme = .ok found) (hname : name ∈ names found) :
    ∃ manager ∈ element.children, manager.isManager = true ∧ name ∈ manager.uses := by
  obtain ⟨manager, hmanager, hmade⟩ := h.exists_manager hschemes scheme hscheme
  obtain ⟨_, own, hother, huses, -⟩ := uses_of_sends hmade
  obtain rfl := Except.ok.inj (hfound.symm.trans hother)
  exact ⟨manager, hmanager, by cases hmade <;> rfl, huses ▸ List.mem_append_right own hname⟩

end

/-- **What an element of a plan refers to is declared.** -/
lemma Refers.declared {schemes : List Scheme} {declared : List Variable} {e : Element}
    (h : Refers schemes e) (hdeclared : credentialVariables schemes = .ok declared) :
    ∀ name ∈ e.uses, name ∈ serverNames ++ names declared := by
  cases h with
  | nothing _ huses =>
      rw [huses]
      exact List.forall_mem_nil _
  | defaults =>
      have hsubset : ∀ name ∈ defaultNames, name ∈ serverNames := by decide
      rw [uses_httpDefaults]
      exact fun name hname => List.mem_append_left _ (hsubset name hname)
  | request huses =>
      have hsubset : ∀ name ∈ requestNames, name ∈ serverNames := by decide
      rw [huses]
      exact fun name hname => List.mem_append_left _ (hsubset name hname)
  | manager hscheme hsends =>
      obtain ⟨found, own, hfound, huses, hown⟩ := uses_of_sends hsends
      obtain ⟨-, hcovers, -⟩ := credentialVariables_names hdeclared
      obtain ⟨_, hsame, hsubset⟩ := hcovers _ hscheme
      obtain rfl := Except.ok.inj (hfound.symm.trans hsame)
      rw [huses, List.forall_mem_append]
      refine ⟨fun name hname => ?_, fun name hname => List.mem_append_right _ (hsubset hname)⟩
      rw [hown name hname]
      exact List.mem_append_left _ List.mem_cons_self

lemma Refers.uses_of_isRequest {schemes : List Scheme} {e : Element} (h : Refers schemes e)
    (hrequest : e.isRequest = true) : e.uses = requestNames := by
  cases h with
  | nothing hother =>
      rw [hother] at hrequest
      cases hrequest
  | defaults => cases hrequest
  | request huses => exact huses
  | manager _ hsends => cases hsends <;> cases hrequest

/-- No variable is declared both for the server and for credentials, and none of them twice. -/
lemma nodup_names {schemes : List Scheme} {declared : List Variable}
    (h : credentialVariables schemes = .ok declared) : (serverNames ++ names declared).Nodup := by
  obtain ⟨hnodup, -, -⟩ := credentialVariables_names h
  refine List.nodup_append.mpr ⟨by decide, hnodup, fun name hname other hother => ?_⟩
  rintro rfl
  exact notMem_serverNames h name hother hname

/-- **A plan declares the variables that it refers to.** -/
structure DeclaresVariables (plan : Element) : Prop where
  /-- No name is declared twice. -/
  distinct : plan.variableNames.Nodup
  /-- Whatever an element refers to is declared. -/
  used : ∀ e ∈ plan.walk, ∀ name ∈ e.uses, .text name ∈ plan.variableNames
  /-- What all requests have in common refers to the server and to the timeouts. -/
  defaults : ∃ e ∈ plan.children, e.uses = defaultNames
  /-- Every request refers to the path of the server and to the timeouts. -/
  requests : ∀ e ∈ plan.walk, e.isRequest = true → e.uses = requestNames
  /-- All variables but those for the server are for credentials, and every group refers to each of them. -/
  needed : ∃ credentials : List Text,
    plan.variableNames = (serverNames ++ credentials).map Value.text ∧
      ∀ name ∈ credentials, ∀ group ∈ plan.walk, group.isThreadGroup = true →
        ∃ manager ∈ group.children, manager.isManager = true ∧ name ∈ manager.uses

/-- **Every variable that is referred to is declared, once**, and none for credentials is declared without
need: in a plan that is assembled. -/
theorem variables_declared {config : Config} {presets : Presets} {spec : Specification}
    {groups : Operation.Groups} {plan : Element}
    (h : (assemble config presets spec groups).outcome = .ok plan) : DeclaresVariables plan := by
  obtain ⟨root, elements, hroot, rfl, hmade, -⟩ := layout_of_assemble h
  obtain ⟨-, hgroups⟩ := filter_walk_of_assemble h
  obtain ⟨schemes, declared, hschemes, hdeclared, hnames⟩ := variableNames_of_testPlan hroot elements
  have hwalk := refers_of_assemble root hschemes hmade
  refine ⟨?_, fun e he name hname => ?_, ⟨httpDefaults, List.mem_cons_self, uses_httpDefaults⟩,
    fun e he => (hwalk e he).uses_of_isRequest,
    names declared, hnames, fun name hname group hgroup hisGroup => ?_⟩
  · rw [hnames]
    exact (nodup_names hdeclared).map fun s t heq => Value.text.inj heq
  · rw [hnames]
    exact List.mem_map_of_mem ((hwalk e he).declared hdeclared name hname)
  · obtain ⟨-, -, hneeded⟩ := credentialVariables_names hdeclared
    obtain ⟨scheme, hscheme, own, hown, hmem⟩ := hneeded name hname
    have hmember : group ∈ elements := hgroups ▸ List.mem_filter.mpr ⟨hgroup, hisGroup⟩
    obtain ⟨item, -, hitem⟩ := exists_of_forall₂ hmade group hmember
    exact exists_manager_of_isMadeOf hschemes hitem hscheme hown hmem

/-- The plan for an example declares variables for a key and for a token besides those for the server. -/
theorem variables_declared_secured : ∃ spec operations plan,
    Specification.read Yaml.reader secured none (.text []) = .ok spec ∧ spec.operations = .ok operations ∧
      (assemble (Config.usual.groupedBy .byTag) .usual spec (Operation.group .byTag operations)).outcome =
        .ok plan ∧
      DeclaresVariables plan ∧ plan.variableNames.length = serverNames.length + 2 := by
  obtain ⟨spec, operations, hspec, hoperations, -, -, -, -, hplans⟩ := assemble_secured
  obtain ⟨plan, hplan, hcount⟩ := hplans .byTag
  exact ⟨spec, operations, plan, hspec, hoperations, hplan, variables_declared hplan, hcount⟩

end Plan

end LoadPlan
