import LoadPlan.Proofs.Operation.Verb
import LoadPlan.Proofs.Plan.Variables

/-!
# Variables for keys

A key in a header is sent by way of a variable that is named after its scheme.  Names of schemes may hold any
characters, names of variables only letters, digits and low lines: letters become capitals, and whatever is
neither a letter nor a digit of ASCII becomes a low line.  Two schemes can therefore come to one variable, and
then it is declared once and both keys are taken from it.

* `Rune.isAlike`, `Text.IsAlike` — the names that variables do not tell apart.
* `keyVariable_eq_iff` — the variables of two schemes are the same exactly if their names are alike.
* `HoldsKey` — a plan sends the key of a scheme by way of the variable of its own that it declares.
* **`keys_apart_iff`** — every key has a variable, and two keys have different ones unless the names of their
  schemes are alike.
* **`keys_not_apart`** — a document with two keys for one variable.
-/

namespace LoadPlan

/-! ## Names that are alike -/

/-- **Whether the name of a variable does not tell two characters apart**: they are the same letter, be it
small or capital, or they are the same, or neither of them is a letter or a digit. -/
def Rune.isAlike (r s : Rune) : Bool := r.asciiLower = s.asciiLower || (!r.isPlain && !s.isPlain)

/-- **Names that variables do not tell apart**: of the same length, and alike at each place. -/
def Text.IsAlike (s t : Text) : Prop := List.Forall₂ (fun r u : Rune => r.isAlike u = true) s t

instance (s t : Text) : Decidable (s.IsAlike t) :=
  inferInstanceAs (Decidable (List.Forall₂ (fun r u : Rune => r.isAlike u = true) s t))

namespace Plan

/-! ## Names of variables -/

/-- Characters become the same exactly if they are alike. -/
lemma keyRune_eq_iff {r s : Rune} : keyRune r = keyRune s ↔ r.isAlike s = true := by
  rw [Rune.isAlike, Bool.or_eq_true, decide_eq_true_eq, Bool.and_eq_true, Bool.not_eq_true',
    Bool.not_eq_true', ← Bool.not_eq_true, ← Bool.not_eq_true, Rune.eq_iff_code, Rune.eq_iff_code,
    code_keyRune, code_keyRune, Rune.code_asciiLower, Rune.code_asciiLower]
  simp only [Rune.isPlain_iff]
  split_ifs <;> omega

/-- **The variables of two schemes are the same exactly if their names are alike.** -/
lemma keyVariable_eq_iff {s t : Text} : keyVariable s = keyVariable t ↔ s.IsAlike t := by
  rw [keyVariable_eq, keyVariable_eq, List.append_cancel_left_eq, ← List.forall₂_eq_eq_eq,
    List.forall₂_map_left_iff, List.forall₂_map_right_iff]
  exact ⟨fun h => h.imp fun _ _ => keyRune_eq_iff.mp, fun h => h.imp fun _ _ => keyRune_eq_iff.mpr⟩

/-! ## The variables that a plan declares -/

/-- **The variables that an element declares**, with their values: the root of a plan declares some, and no
other element does. -/
def Element.variables (element : Element) : List Pair :=
  match element.settings with
  | .testPlan settings => settings.userVariables
  | _ => []

section

variable {schemes : List Scheme} {declared : List Variable}

/-- A variable for credentials with the name of one for a key is one for a key. -/
lemma eq_declare_of_mem (h : credentialVariables schemes = .ok declared) {name : Text} {v : Variable}
    (hv : v ∈ declared) (hname : v.1 = keyVariable name) :
    v = declare (keyVariable name) "your_api_key_here" := by
  obtain ⟨own, default, rfl, hplaceholder⟩ := placeholder_of_credentialVariables h v hv
  -- the variables for tokens and logins begin with another letter
  have hhead : own.head? = some 'A' := by
    rw [show own = keyVariable name from hname]
    rfl
  cases hplaceholder with
  | key scheme => rw [show keyVariable scheme = keyVariable name from hname]
  | _ => exact absurd hhead (by decide)

/-- Variables for keys are made only if the names of their schemes are texts. -/
lemma exists_text_of_key (h : credentialVariables schemes = .ok declared) {name header : Value}
    (hscheme : ⟨name, .apiKey header⟩ ∈ schemes) : ∃ t, name = .text t := by
  obtain ⟨-, hcovers, -⟩ := credentialVariables_names h
  obtain ⟨found, hfound, -⟩ := hcovers _ hscheme
  cases name with
  | text t => exact ⟨t, rfl⟩
  | _ => cases hfound

/-- The variable for a key is declared with the placeholder for keys. -/
lemma mem_of_key (h : credentialVariables schemes = .ok declared) {name : Text} {header : Value}
    (hscheme : ⟨.text name, .apiKey header⟩ ∈ schemes) :
    declare (keyVariable name) "your_api_key_here" ∈ declared := by
  obtain ⟨-, hcovers, -⟩ := credentialVariables_names h
  obtain ⟨found, hfound, hsubset⟩ := hcovers _ hscheme
  obtain rfl := Except.ok.inj hfound
  obtain ⟨v, hv, hname⟩ := List.mem_map.mp (hsubset List.mem_cons_self)
  rw [← eq_declare_of_mem h hv hname]
  exact hv

end

/-! ## Keys in plans -/

/-- The schemes of a mapping that ask for a key in a header, with their names. -/
def keysIn (entries : Entries) : List (Value × Entries) :=
  (declaredIn entries).filter fun declared => declared.2.isHeaderKey

/-- **A plan sends the key of a scheme by way of the variable of the scheme.** -/
structure HoldsKey (plan : Element) (name : Text) (scheme : Entries) : Prop where
  /-- In each group there is an element that sends the key, and it refers to this variable and no other. -/
  sent : ∀ group ∈ plan.walk, group.isThreadGroup = true → ∃ manager ∈ group.children,
    Sends ⟨.text name, .apiKey (scheme.getD "name")⟩ manager ∧ manager.uses = [keyVariable name]
  /-- The variable is declared with a placeholder for a key, and it is declared once. -/
  declared : ∃ front back,
    plan.variables = front ++ textPair (declare (keyVariable name) "your_api_key_here") :: back ∧
      ∀ other ∈ front ++ back, other.1 ≠ .text (keyVariable name)

section

variable {config : Config} {presets : Presets} {spec : Specification} {groups : Operation.Groups}
  {plan : Element}

lemma Entries.tells_inj {scheme : Entries} {key s t : Text} (hs : scheme.tells key s = true)
    (ht : scheme.tells key t = true) : s = t :=
  Option.some.inj ((of_decide_eq_true hs).symm.trans (of_decide_eq_true ht))

/-- A scheme that asks for a key asks for nothing else. -/
lemma eq_apiKey_of_asks {scheme : Entries} {credential : Credential} (h : Asks scheme credential)
    (hkey : scheme.isHeaderKey = true) : credential = .apiKey (scheme.getD "name") := by
  have htype : scheme.tells "type" "apiKey" = true := by
    rw [Entries.isHeaderKey, Bool.and_assoc, Bool.and_eq_true] at hkey
    exact hkey.1
  have hother : ∀ text : Text, text ≠ "apiKey" → scheme.tells "type" text ≠ true :=
    fun text hne htext => hne (Entries.tells_inj htext htype)
  cases h with
  | key => rfl
  | token hhttp =>
      rw [Entries.isHttp, Bool.and_eq_true] at hhttp
      exact absurd hhttp.1 (hother _ (by decide))
  | login hlogin =>
      rw [Bool.or_eq_true, Entries.isHttp, Bool.and_eq_true] at hlogin
      rcases hlogin with hhttp | hbasic
      · exact absurd hhttp.1 (hother _ (by decide))
      · exact absurd hbasic (hother _ (by decide))

/-- The scheme of a key is among the schemes that are found, under its name. -/
lemma mem_of_mem_keysIn {schemes : List Scheme} (h : spec.schemes.outcome = .ok schemes) :
    ∀ key ∈ keysIn spec.securitySchemes, ⟨key.1, .apiKey (key.2.getD "name")⟩ ∈ schemes := by
  intro key hkey
  obtain ⟨hdeclared, hheader⟩ := List.mem_filter.mp hkey
  obtain ⟨hasks, -⟩ := schemesOf_cases h
  have hsupported : key ∈ supportedIn spec.securitySchemes :=
    List.mem_filter.mpr ⟨hdeclared, exists_asks_iff.mp ⟨_, .key hheader⟩⟩
  obtain ⟨⟨name, credential⟩, hscheme, rfl, hasked⟩ := exists_of_forall₂ hasks.flip key hsupported
  obtain rfl := eq_apiKey_of_asks hasked hheader
  exact hscheme

/-- A variable with a name of its own occurs once. -/
lemma exists_split_of_mem {declared : List Variable} (hnodup : (names declared).Nodup) {v : Variable}
    (hv : v ∈ declared) : ∃ front back, declared.map textPair = front ++ textPair v :: back ∧
      ∀ other ∈ front ++ back, other.1 ≠ .text v.1 := by
  obtain ⟨front, back, rfl⟩ := List.append_of_mem hv
  refine ⟨front.map textPair, back.map textPair, List.map_append, ?_⟩
  have hapart : v.1 ∉ names (front ++ back) := by
    rw [names, List.map_append, List.map_cons] at hnodup
    rw [names, List.map_append]
    exact (List.nodup_cons.mp (List.nodup_middle.mp hnodup)).1
  rw [← List.map_append]
  refine List.forall_mem_map.mpr fun other hother heq => hapart ?_
  rw [← Value.text.inj heq]
  exact List.mem_map_of_mem hother

/-- **Every key is sent by way of a variable of its own** that the plan declares. -/
lemma holdsKey_of_assemble (h : (assemble config presets spec groups).outcome = .ok plan) :
    ∀ key ∈ keysIn spec.securitySchemes, ∃ name, key.1 = .text name ∧ HoldsKey plan name key.2 := by
  obtain ⟨root, elements, hroot, rfl, hmade, -⟩ := layout_of_assemble h
  obtain ⟨-, hgroups⟩ := filter_walk_of_assemble h
  obtain ⟨_, _, parts, schemes, declared, -, -, hparts, hschemes, hdeclared, hvariables⟩ :=
    variables_of_testPlan hroot
  intro key hkey
  have hscheme := mem_of_mem_keysIn hschemes key hkey
  obtain ⟨name, hname⟩ := exists_text_of_key hdeclared hscheme
  rw [hname] at hscheme
  refine ⟨name, hname, fun group hgroup hisGroup => ?_, ?_⟩
  · have hmember : group ∈ elements := hgroups ▸ List.mem_filter.mpr ⟨hgroup, hisGroup⟩
    obtain ⟨item, -, hitem⟩ := exists_of_forall₂ hmade group hmember
    obtain ⟨manager, hmanager, hsends⟩ := hitem.exists_manager hschemes _ hscheme
    exact ⟨manager, hmanager, hsends, uses_of_sends_apiKey hsends⟩
  · have hnodup : (names (parts ++ declared)).Nodup := by
      rw [names, List.map_append, ← names, ← names, names_serverVariables hparts]
      exact nodup_names hdeclared
    show ∃ front back, root.settings.userVariables = _ ∧ _
    rw [hvariables]
    exact exists_split_of_mem hnodup (List.mem_append_right _ (mem_of_key hdeclared hscheme))

end

/-- **Keys are told apart as far as the names of their schemes are.**  In a plan that is assembled, every
group sends the key of every scheme by way of the variable of the scheme, and the plan declares it; the
variables of two schemes are the same if their names are alike, and only then. -/
theorem keys_apart_iff {config : Config} {presets : Presets} {spec : Specification}
    {groups : Operation.Groups} {plan : Element}
    (h : (assemble config presets spec groups).outcome = .ok plan) :
    ∀ key ∈ keysIn spec.securitySchemes, ∀ other ∈ keysIn spec.securitySchemes,
      ∃ s t, key.1 = .text s ∧ other.1 = .text t ∧ HoldsKey plan s key.2 ∧ HoldsKey plan t other.2 ∧
        (keyVariable s = keyVariable t ↔ s.IsAlike t) := by
  intro key hkey other hother
  obtain ⟨s, hs, hholds⟩ := holdsKey_of_assemble h key hkey
  obtain ⟨t, ht, hotherHolds⟩ := holdsKey_of_assemble h other hother
  exact ⟨s, t, hs, ht, hholds, hotherHolds, keyVariable_eq_iff⟩

/-! ## An example -/

/-- A document with keys for three schemes.  The names of the first two are alike. -/
def keyed : List Char :=
  List.flatMap String.toList
    [ "\x7b\"servers\":[\x7b\"url\":\"http://h\"\x7d],\"paths\":\x7b\"/a\":\x7b\"get\":\x7b\x7d\x7d\x7d,",
      "\"components\":\x7b\"securitySchemes\":\x7b",
      "\"api-key\":\x7b\"type\":\"apiKey\",\"in\":\"header\",\"name\":\"X-One\"\x7d,",
      "\"api_key\":\x7b\"type\":\"apiKey\",\"in\":\"header\",\"name\":\"X-Two\"\x7d,",
      "\"token\":\x7b\"type\":\"apiKey\",\"in\":\"header\",\"name\":\"X-Three\"\x7d\x7d\x7d\x7d" ]

def keyedNames : List Text := ["api-key", "api_key", "token"]

/-- The document has a plan, with a group and with all three keys. -/
lemma assemble_keyed : ∃ spec operations plan,
    Specification.read Yaml.reader keyed none (.text []) = .ok spec ∧ spec.operations = .ok operations ∧
    (assemble .usual .usual spec (Operation.group .byTag operations)).outcome = .ok plan ∧
    (∃ group ∈ plan.walk, group.isThreadGroup = true) ∧
    ∀ name ∈ keyedNames, ∃ key ∈ keysIn spec.securitySchemes,
      key.1 = .text name ∧ HoldsKey plan name key.2 := by
  have hchecked : (do
      let spec ← Specification.read Yaml.reader keyed none (.text [])
      let operations ← spec.operations
      let plan ← (assemble .usual .usual spec (Operation.group .byTag operations)).outcome
      return decide ((∃ group ∈ plan.walk, group.isThreadGroup = true) ∧
        ∀ name ∈ keyedNames, ∃ key ∈ keysIn spec.securitySchemes,
          key.1.asText = name)).toOption = some true := by decide +kernel
  have hrun := eq_ok_of_toOption hchecked
  obtain ⟨spec, hspec, hrun⟩ := exists_of_except_bind hrun
  obtain ⟨operations, hoperations, hrun⟩ := exists_of_except_bind hrun
  obtain ⟨plan, hplan, hrun⟩ := exists_of_except_bind hrun
  obtain ⟨hgroup, hkeys⟩ := of_decide_eq_true (Except.ok.inj hrun)
  refine ⟨spec, operations, plan, hspec, hoperations, hplan, hgroup, fun name hname => ?_⟩
  obtain ⟨key, hkey, hasText⟩ := hkeys name hname
  obtain ⟨t, ht, hholds⟩ := holdsKey_of_assemble hplan key hkey
  obtain rfl : t = name := by
    rw [ht] at hasText
    exact hasText
  exact ⟨key, hkey, ht, hholds⟩

/-- In the plan for the example, the last two keys are told apart. -/
theorem keys_apart_iff_keyed : ∃ spec operations plan key other s t,
    Specification.read Yaml.reader keyed none (.text []) = .ok spec ∧ spec.operations = .ok operations ∧
      (assemble .usual .usual spec (Operation.group .byTag operations)).outcome = .ok plan ∧
      key ∈ keysIn spec.securitySchemes ∧ other ∈ keysIn spec.securitySchemes ∧
      key.1 = .text s ∧ other.1 = .text t ∧ HoldsKey plan s key.2 ∧ HoldsKey plan t other.2 ∧
      keyVariable s ≠ keyVariable t := by
  obtain ⟨spec, operations, plan, hspec, hoperations, hplan, -, hkeys⟩ := assemble_keyed
  obtain ⟨key, hkey, hname, -⟩ := hkeys "api_key" (by decide)
  obtain ⟨other, hother, hotherName, -⟩ := hkeys "token" (by decide)
  obtain ⟨s, t, hs, ht, hholds, hotherHolds, halike⟩ := keys_apart_iff hplan key hkey other hother
  refine ⟨spec, operations, plan, key, other, s, t, hspec, hoperations, hplan, hkey, hother, hs, ht, hholds,
    hotherHolds, fun heq => ?_⟩
  have hboth := halike.mp heq
  rw [← Value.text.inj (hname.symm.trans hs), ← Value.text.inj (hotherName.symm.trans ht)] at hboth
  exact absurd hboth (by decide)

/-- **A plan sends keys apart**: those of schemes with different names by way of different variables. -/
def SendsKeysApart (spec : Specification) (plan : Element) : Prop :=
  ∀ key ∈ keysIn spec.securitySchemes, ∀ other ∈ keysIn spec.securitySchemes, key.1 ≠ other.1 →
    ∀ group ∈ plan.walk, group.isThreadGroup = true →
      ∀ manager ∈ group.children, Sends ⟨key.1, .apiKey (key.2.getD "name")⟩ manager →
        ∀ neighbour ∈ group.children, Sends ⟨other.1, .apiKey (other.2.getD "name")⟩ neighbour →
          manager.uses ≠ neighbour.uses

/-- **Different keys can go by way of one variable**: in the plan for the example, the first two do. -/
theorem keys_not_apart : ∃ spec operations plan,
    Specification.read Yaml.reader keyed none (.text []) = .ok spec ∧ spec.operations = .ok operations ∧
      (assemble .usual .usual spec (Operation.group .byTag operations)).outcome = .ok plan ∧
      ¬ SendsKeysApart spec plan := by
  obtain ⟨spec, operations, plan, hspec, hoperations, hplan, ⟨group, hgroup, hisGroup⟩, hkeys⟩ :=
    assemble_keyed
  obtain ⟨key, hkey, hname, hholds⟩ := hkeys "api-key" (by decide)
  obtain ⟨other, hother, hotherName, hotherHolds⟩ := hkeys "api_key" (by decide)
  obtain ⟨manager, hmanager, hsends, huses⟩ := hholds.sent group hgroup hisGroup
  obtain ⟨neighbour, hneighbour, hotherSends, hotherUses⟩ := hotherHolds.sent group hgroup hisGroup
  have hne : key.1 ≠ other.1 := by
    rw [hname, hotherName]
    exact fun heq => absurd (Value.text.inj heq) (by decide)
  refine ⟨spec, operations, plan, hspec, hoperations, hplan, fun hapart => ?_⟩
  refine hapart key hkey other hother hne group hgroup hisGroup manager hmanager (hname ▸ hsends) neighbour
    hneighbour (hotherName ▸ hotherSends) ?_
  have halike : Text.IsAlike "api-key" "api_key" := by decide
  rw [huses, hotherUses, keyVariable_eq_iff.mpr halike]

end Plan

end LoadPlan
