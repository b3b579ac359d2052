import LoadPlan.Proofs.Plan.Address
import LoadPlan.Proofs.Plan.Variables
import LoadPlan.Proofs.Text.Cutting
import LoadPlan.Proofs.Value.Spelling

/-!
# Defaults of properties

The value of a variable is a property that can be set from outside, and the default of the property stands
in it as the second argument of a function.  Arguments end at commas, unless a backslash stands in front of
them.  Where a parameter is sent, its default has been given those backslashes; the defaults of the
variables of a plan stand as they are, and a comma in one of them ends it.

* `Text.argumentsFrom`, `Text.restored` — how the arguments of a function are told apart, and what they say.
* `Carries` — a value has a name and a default for arguments.
* `carries_propertyRef_iff`, `carries_escaped` — defaults that stand as they are, and those with backslashes.
* `Intends` — what the variables of a plan have for defaults.
* **`defaults_carried_iff`** — all variables carry their defaults exactly if the address of the server has no
  comma, and parameters always do.
* **`defaults_not_carried`** — an address with a comma.
-/

namespace LoadPlan

/-! ## Arguments of functions -/

namespace Text

/-- Puts a character in front of the first piece. -/
def consFirst (c : Rune) : List Text → List Text
  | [] => [[c]]
  | piece :: pieces => (c :: piece) :: pieces

/-- **The arguments that a text consists of.**  They end at commas that no backslash stands in front of; the
flag says whether one stands in front of the text. -/
def argumentsFrom (afterBackslash : Bool) : Text → List Text
  | [] => [[]]
  | c :: rest =>
    if c = ',' && !afterBackslash then [] :: argumentsFrom false rest
    else consFirst c (argumentsFrom (c = '\\') rest)

/-- A text with backslashes in front of its commas. -/
def escaped (t : Text) : Text := t.replace "," "\\,"

/-- **What an argument says**: backslashes in front of commas are taken away. -/
def restored (t : Text) : Text := t.replace "\\," ","

lemma ne_nil_of_consFirst (c : Rune) (pieces : List Text) : consFirst c pieces ≠ [] := by
  cases pieces <;> exact List.cons_ne_nil _ _

lemma consFirst_eq_singleton {c : Rune} {pieces : List Text} {p : Text} (hpieces : pieces ≠ [])
    (h : consFirst c pieces = [p]) : ∃ q, pieces = [q] ∧ p = c :: q := by
  cases pieces with
  | nil => exact absurd rfl hpieces
  | cons q others =>
      obtain ⟨rfl, rfl⟩ := List.cons.inj h
      exact ⟨q, rfl, rfl⟩

lemma argumentsFrom_ne_nil : ∀ (afterBackslash : Bool) (t : Text), argumentsFrom afterBackslash t ≠ []
  | _, [] => List.cons_ne_nil _ _
  | afterBackslash, c :: rest => by
      rw [argumentsFrom]
      split_ifs
      · exact List.cons_ne_nil _ _
      · exact ne_nil_of_consFirst _ _

lemma argumentsFrom_cons {c : Rune} {afterBackslash : Bool} (h : c = ',' → afterBackslash = true)
    (rest : Text) :
    argumentsFrom afterBackslash (c :: rest) = consFirst c (argumentsFrom (c = '\\') rest) := by
  rw [argumentsFrom, if_neg]
  rw [Bool.and_eq_true, decide_eq_true_eq, Bool.not_eq_true', ← Bool.not_eq_true]
  exact fun ⟨hcomma, hnot⟩ => hnot (h hcomma)

/-- The first argument ends at the first comma. -/
lemma argumentsFrom_append {name : Text} (h : ∀ r ∈ name, r ≠ ',' ∧ r ≠ '\\') (rest : Text) :
    argumentsFrom false (name ++ (',' : Rune) :: rest) = name :: argumentsFrom false rest := by
  induction name with
  | nil => rfl
  | cons c name ih =>
      rw [List.forall_mem_cons] at h
      rw [List.cons_append, argumentsFrom_cons fun hcomma => absurd hcomma h.1.1,
        decide_eq_false h.1.2, ih h.2]
      rfl

lemma escaped_comma (rest : Text) :
    escaped ((',' : Rune) :: rest) = ('\\' : Rune) :: (',' : Rune) :: escaped rest := rfl

lemma escaped_cons {c : Rune} (h : c ≠ ',') (rest : Text) : escaped (c :: rest) = c :: escaped rest :=
  replace_cons_of_ne [] "\\," rest h

lemma restored_comma (rest : Text) :
    restored (('\\' : Rune) :: (',' : Rune) :: rest) = (',' : Rune) :: restored rest := rfl

lemma restored_cons {c : Rune} {rest : Text} (h : c = '\\' → rest.head? ≠ some (',' : Rune)) :
    restored (c :: rest) = c :: restored rest :=
  replace_cons_of_head?_ne "," rest h

/-- A text with backslashes in front of its commas begins with no comma. -/
lemma head?_escaped (t : Text) : t.escaped.head? ≠ some (',' : Rune) := by
  cases t with
  | nil => decide
  | cons c rest =>
      by_cases hcomma : c = ','
      · rw [hcomma, escaped_comma]
        exact fun heq => absurd (Option.some.inj heq) (by decide)
      · rw [escaped_cons hcomma]
        exact fun heq => hcomma (Option.some.inj heq)

/-- **With backslashes in front of its commas, a text is one argument.** -/
lemma argumentsFrom_escaped : ∀ (afterBackslash : Bool) (t : Text),
    argumentsFrom afterBackslash t.escaped = [t.escaped]
  | _, [] => rfl
  | afterBackslash, c :: rest => by
      by_cases hcomma : c = ','
      · rw [hcomma, escaped_comma, argumentsFrom_cons fun h => absurd h (by decide),
          decide_eq_true rfl, argumentsFrom_cons fun _ => rfl, argumentsFrom_escaped _ rest]
        rfl
      · rw [escaped_cons hcomma, argumentsFrom_cons fun h => absurd h hcomma, argumentsFrom_escaped _ rest]
        rfl

/-- **The argument says the text** that the backslashes have been put into. -/
lemma restored_escaped : ∀ t : Text, restored t.escaped = t
  | [] => rfl
  | c :: rest => by
      by_cases hcomma : c = ','
      · rw [hcomma, escaped_comma, restored_comma, restored_escaped rest]
      · rw [escaped_cons hcomma, restored_cons fun _ => head?_escaped rest, restored_escaped rest]

/-- A text without commas is one argument, and it says itself. -/
lemma argumentsFrom_of_notMem {t : Text} (h : (',' : Rune) ∉ t) (afterBackslash : Bool) :
    argumentsFrom afterBackslash t = [t] ∧ restored t = t := by
  have hsame : ∀ t : Text, (',' : Rune) ∉ t → t.escaped = t := by
    intro t ht
    induction t with
    | nil => rfl
    | cons c rest ih =>
        rw [List.mem_cons, not_or] at ht
        rw [escaped_cons (Ne.symm ht.1), ih ht.2]
  have hone := argumentsFrom_escaped afterBackslash t
  have hsays := restored_escaped t
  rw [hsame t h] at hone hsays
  exact ⟨hone, hsays⟩

/-- A text that is one argument is this argument. -/
lemma eq_of_argumentsFrom : ∀ {t p : Text} {afterBackslash : Bool},
    argumentsFrom afterBackslash t = [p] → p = t
  | [], _, _, h => (List.cons.inj h).1.symm
  | c :: rest, p, afterBackslash, h => by
      rw [argumentsFrom] at h
      split_ifs at h
      · exact absurd (List.cons.inj h).2 (argumentsFrom_ne_nil _ _)
      · obtain ⟨q, hq, rfl⟩ := consFirst_eq_singleton (argumentsFrom_ne_nil _ _) h
        rw [eq_of_argumentsFrom hq]

/-- A text that is one argument and says itself has no commas. -/
lemma comma_notMem_of_argumentsFrom : ∀ {t : Text} {afterBackslash : Bool},
    argumentsFrom afterBackslash t = [t] → restored t = t →
      (afterBackslash = true → t.head? ≠ some (',' : Rune)) → (',' : Rune) ∉ t
  | [], _, _, _, _ => List.not_mem_nil
  | c :: rest, afterBackslash, hone, hsays, hfirst => by
      -- a comma here would end the argument, or the backslash in front of it would be taken away
      have hcomma : c ≠ ',' := by
        rintro rfl
        cases afterBackslash with
        | true => exact hfirst rfl rfl
        | false => exact argumentsFrom_ne_nil false rest (List.cons.inj hone).2
      have hnext : c = '\\' → rest.head? ≠ some (',' : Rune) := by
        rintro rfl hhead
        cases rest with
        | nil => cases hhead
        | cons x rest =>
            obtain rfl := Option.some.inj hhead
            rw [restored_comma] at hsays
            exact absurd (List.cons.inj hsays).1 (by decide)
      rw [argumentsFrom_cons fun h => absurd h hcomma] at hone
      obtain ⟨q, hq, heq⟩ := consFirst_eq_singleton (argumentsFrom_ne_nil _ _) hone
      obtain rfl := (List.cons.inj heq).2
      rw [restored_cons hnext] at hsays
      rw [List.mem_cons, not_or]
      exact ⟨Ne.symm hcomma, comma_notMem_of_argumentsFrom hq (List.cons.inj hsays).2
        fun h => hnext (of_decide_eq_true h)⟩

end Text

namespace Plan

/-! ## Values with defaults -/

/-- The arguments of a value that is a property. -/
def propertyArguments? (value : Text) : Option (List Text) :=
  if value.startsWith "$\x7b__P(" && value.endsWith ")\x7d" then
    some (Text.argumentsFrom false ((value.drop 6).take (value.length - 8)))
  else none

/-- **A value carries a default**: it is a property with two arguments, of which the first is the name of the
property and the second says the default. -/
def Carries (name default value : Text) : Prop :=
  ∃ second, propertyArguments? value = some [name, second] ∧ second.restored = default

lemma propertyArguments?_propertyRef {name : Text} (h : ∀ r ∈ name, r ≠ ',' ∧ r ≠ '\\') (default : Text) :
    propertyArguments? (propertyRef name default) = some (name :: Text.argumentsFrom false default) := by
  have hshape : propertyRef name default =
      "$\x7b__P(" ++ ((name ++ (',' : Rune) :: default) ++ ")\x7d") := by
    show "$\x7b__P(" ++ name ++ "," ++ default ++ ")\x7d" = _
    simp only [List.append_assoc]
    rfl
  have hstart : (propertyRef name default).startsWith "$\x7b__P(" = true :=
    List.isPrefixOf_iff_prefix.mpr ⟨_, hshape.symm⟩
  have hstop : (propertyRef name default).endsWith ")\x7d" = true :=
    List.isSuffixOf_iff_suffix.mpr ⟨_, rfl⟩
  have hbetween : ((propertyRef name default).drop 6).take ((propertyRef name default).length - 8) =
      name ++ (',' : Rune) :: default := by
    have hopening : List.length ("$\x7b__P(" : Text) = 6 := rfl
    have hlength : (propertyRef name default).length = (name ++ (',' : Rune) :: default).length + 8 := by
      rw [hshape, List.length_append, List.length_append]
      show 6 + (_ + 2) = _
      omega
    rw [hlength, Nat.add_sub_cancel, hshape, List.drop_left' hopening, List.take_left' rfl]
  rw [propertyArguments?, hstart, hstop, hbetween, Text.argumentsFrom_append h]
  rfl

/-- **A default that stands as it is** is carried exactly if it has no comma. -/
lemma carries_propertyRef_iff {name : Text} (h : ∀ r ∈ name, r ≠ ',' ∧ r ≠ '\\') (default : Text) :
    Carries name default (propertyRef name default) ↔ (',' : Rune) ∉ default := by
  rw [Carries, propertyArguments?_propertyRef h]
  constructor
  · rintro ⟨second, harguments, hsays⟩
    have hone := (List.cons.inj (Option.some.inj harguments)).2
    obtain rfl := Text.eq_of_argumentsFrom hone
    exact Text.comma_notMem_of_argumentsFrom hone hsays fun h => absurd h Bool.false_ne_true
  · intro hcomma
    obtain ⟨hone, hsays⟩ := Text.argumentsFrom_of_notMem hcomma false
    exact ⟨default, by rw [hone], hsays⟩

/-- **A default with backslashes in front of its commas** is always carried. -/
lemma carries_escaped {name : Text} (h : ∀ r ∈ name, r ≠ ',' ∧ r ≠ '\\') (default : Text) :
    Carries name default (propertyRef name default.escaped) :=
  ⟨default.escaped, by rw [propertyArguments?_propertyRef h, Text.argumentsFrom_escaped],
    Text.restored_escaped default⟩

/-! ## The variables of a plan -/

/-- **What the variables of a plan have for defaults**: the parts of the server, how long it is waited for,
and placeholders for credentials. -/
inductive Intends (config : Config) (address : Text) (server : Server) : Text → Text → Prop where
  /-- The address of the server. -/
  | address : Intends config address server "BASE_URL" address
  /-- Its host. -/
  | host : Intends config address server "HOST" server.host
  /-- Its port. -/
  | port : Intends config address server "PORT" server.port
  /-- Its protocol. -/
  | protocol : Intends config address server "PROTOCOL" server.protocol
  /-- What all paths begin with. -/
  | basePath : Intends config address server "BASE_PATH" server.basePath
  /-- How long a connection may take. -/
  | connectionTimeout :
    Intends config address server "CONNECTION_TIMEOUT" (Text.ofInt config.connectionTimeout)
  /-- How long a response may take. -/
  | responseTimeout :
    Intends config address server "RESPONSE_TIMEOUT" (Text.ofInt config.responseTimeout)
  /-- The key of a scheme. -/
  | key (scheme : Text) : Intends config address server (keyVariable scheme) "your_api_key_here"
  /-- A token. -/
  | token : Intends config address server "BEARER_TOKEN" "your_bearer_token_here"
  /-- The name of a user. -/
  | username : Intends config address server "BASIC_USERNAME" "your_username_here"
  /-- The password of a user. -/
  | password : Intends config address server "BASIC_PASSWORD" "your_password_here"

section

variable {config : Config} {spec : Specification} {address : Text} {server : Server}

/-- Names of variables have neither commas nor backslashes. -/
lemma Intends.ne_of_mem {name default : Text} (h : Intends config address server name default) :
    ∀ r ∈ name, r ≠ ',' ∧ r ≠ '\\' := by
  cases h with
  | key scheme =>
      exact fun r hr => ⟨ne_of_mem_keyVariable hr (by decide) (by decide),
        ne_of_mem_keyVariable hr (by decide) (by decide)⟩
  | _ => decide

/-- A comma in a default is one of the address. -/
lemma Intends.comma_address {name default : Text} (h : Intends config address server name default)
    (hserver : (Server.ofBaseUrl address).outcome = .ok server) (hcomma : (',' : Rune) ∈ default) :
    (',' : Rune) ∈ address := by
  obtain ⟨hprotocol, hport, hhost, hpath⟩ := Server.comma_ofBaseUrl hserver
  cases h with
  | address => exact hcomma
  | host => exact hhost hcomma
  | port => exact absurd hcomma hport
  | protocol => exact absurd hcomma hprotocol
  | basePath => exact hpath hcomma
  | connectionTimeout => exact absurd hcomma (Text.comma_notMem_of_isFigures (Text.isFigures_ofInt _))
  | responseTimeout => exact absurd hcomma (Text.comma_notMem_of_isFigures (Text.isFigures_ofInt _))
  | _ => exact absurd hcomma (by decide)

/-- What the variable for the address has for a default is the address. -/
lemma Intends.eq_address {default : Text} (h : Intends config address server "BASE_URL" default) :
    default = address := by
  generalize hname : ("BASE_URL" : Text) = name at h
  cases h with
  | address => rfl
  | key scheme =>
      have hhead : ("BASE_URL" : Text).head? = some 'A' := by
        rw [hname]
        rfl
      exact absurd hhead (by decide)
  | _ => exact absurd hname (by decide)

/-- The variables for the server are made with what they are to have for defaults. -/
lemma intends_of_serverVariables {parts : List Variable}
    (h : serverVariables config address server = .ok parts) :
    ∀ v ∈ parts, ∃ name default, v = declare name default ∧ Intends config address server name default := by
  obtain ⟨connection, hconnection, h⟩ := exists_of_except_bind h
  obtain ⟨response, hresponse, h⟩ := exists_of_except_bind h
  obtain rfl := Except.ok.inj h
  obtain ⟨-, rfl⟩ := integerText_eq_ok_iff.mp hconnection
  obtain ⟨-, rfl⟩ := integerText_eq_ok_iff.mp hresponse
  simp only [List.forall_mem_cons, List.not_mem_nil, false_implies, implies_true, and_true]
  exact ⟨⟨_, _, rfl, .address⟩, ⟨_, _, rfl, .host⟩, ⟨_, _, rfl, .port⟩, ⟨_, _, rfl, .protocol⟩,
    ⟨_, _, rfl, .basePath⟩, ⟨_, _, rfl, .connectionTimeout⟩, ⟨_, _, rfl, .responseTimeout⟩⟩

lemma mem_of_serverVariables {parts : List Variable}
    (h : serverVariables config address server = .ok parts) : declare "BASE_URL" address ∈ parts := by
  obtain ⟨connection, -, h⟩ := exists_of_except_bind h
  obtain ⟨response, -, h⟩ := exists_of_except_bind h
  obtain rfl := Except.ok.inj h
  exact List.mem_cons_self

lemma Intends.of_placeholder {name default : Text} (h : Placeholder name default) :
    Intends config address server name default := by
  cases h with
  | key scheme => exact .key scheme
  | token => exact .token
  | username => exact .username
  | password => exact .password

variable (config) (address) (server)

/-- **The variables of a plan and their defaults.** -/
structure CarriesDefaults (declared : List Pair) : Prop where
  /-- Each variable carries its default exactly if the default has no comma. -/
  each : ∀ v ∈ declared, ∃ name default value, v = textPair (name, value) ∧
    Intends config address server name default ∧ (Carries name default value ↔ (',' : Rune) ∉ default)
  /-- All of them carry their defaults exactly if the address has no comma. -/
  all : (∀ v ∈ declared, ∃ name default value, v = textPair (name, value) ∧
    Intends config address server name default ∧ Carries name default value) ↔ (',' : Rune) ∉ address

variable {config} {address} {server}

/-- The variables of a plan are made with what they are to have for defaults. -/
lemma intends_of_parts {schemes : List Scheme} {parts credentials : List Variable}
    (hparts : serverVariables config address server = .ok parts)
    (hcredentials : credentialVariables schemes = .ok credentials) :
    ∀ v ∈ (parts ++ credentials).map textPair, ∃ name default, v = textPair (declare name default) ∧
      Intends config address server name default := by
  rw [List.forall_mem_map, List.forall_mem_append]
  constructor
  · intro v hv
    obtain ⟨name, default, rfl, hintends⟩ := intends_of_serverVariables hparts v hv
    exact ⟨name, default, rfl, hintends⟩
  · intro v hv
    obtain ⟨name, default, rfl, hplaceholder⟩ := placeholder_of_credentialVariables hcredentials v hv
    exact ⟨name, default, rfl, .of_placeholder hplaceholder⟩

lemma Intends.carries_iff {name default : Text} (h : Intends config address server name default) :
    Carries name default (propertyRef name default) ↔ (',' : Rune) ∉ default :=
  carries_propertyRef_iff h.ne_of_mem default

lemma carriesDefaults_of_testPlan {root : Root} (h : (testPlan config spec).outcome = .ok root) :
    ∃ address server, baseUrl config spec = .ok address ∧
      (Server.ofBaseUrl address).outcome = .ok server ∧
      CarriesDefaults config address server root.settings.userVariables := by
  obtain ⟨address, server, parts, schemes, credentials, haddress, hserver, hparts, -, hcredentials,
    hvariables⟩ := variables_of_testPlan h
  have hmade := intends_of_parts hparts hcredentials
  refine ⟨address, server, haddress, hserver, ?_⟩
  rw [hvariables]
  refine ⟨fun v hv => ?_, fun hall => ?_, fun hcomma v hv => ?_⟩
  · obtain ⟨name, default, rfl, hintends⟩ := hmade v hv
    exact ⟨name, default, _, rfl, hintends, hintends.carries_iff⟩
  · -- the variable for the address is one of them
    obtain ⟨name, default, value, heq, hintends, hcarries⟩ :=
      hall _ (List.mem_map_of_mem (List.mem_append_left _ (mem_of_serverVariables hparts)))
    obtain ⟨hname, hvalue⟩ := Prod.mk.inj heq
    obtain rfl := Value.text.inj hname
    obtain rfl := Value.text.inj hvalue
    obtain rfl := hintends.eq_address
    exact hintends.carries_iff.mp hcarries
  · obtain ⟨name, default, rfl, hintends⟩ := hmade v hv
    exact ⟨name, default, _, rfl, hintends,
      hintends.carries_iff.mpr fun hdefault => hcomma (hintends.comma_address hserver hdefault)⟩

end

/-! ## Parameters -/

/-- **The value of a parameter carries its sample**, if the sample can be sent. -/
structure CarriesSample (parameter : Parameter) : Prop where
  /-- A sample that has a text is the default of a property with the name of the parameter. -/
  carried : ∀ text, argumentText parameter.sample = .ok text →
    ∃ value, parameter.reference = .ok value ∧ Carries parameter.name text value
  /-- A sample without a text is refused for the same reason. -/
  refused : ∀ fault, argumentText parameter.sample = .error fault → parameter.reference = .error fault

lemma carriesSample_of_ne_null {parameter : Parameter} (hsample : parameter.sample ≠ .null)
    (hname : ∀ r ∈ parameter.name, r ≠ ',' ∧ r ≠ '\\') : CarriesSample parameter := by
  have hreference : parameter.reference =
      (argumentText parameter.sample).map fun t => propertyRef parameter.name t.escaped := by
    rw [Parameter.reference]
    split
    · rename_i hnull
      exact absurd hnull hsample
    · rfl
  refine ⟨fun text htext => ?_, fun fault hfault => ?_⟩
  · rw [hreference, htext]
    exact ⟨_, rfl, carries_escaped hname text⟩
  · rw [hreference, hfault]
    rfl

/-! ## An example -/

/-- An address with a comma. -/
def listAddress : Text := "http://h/a,b"

/-- A document with this address. -/
def listed : List Char :=
  List.flatMap String.toList
    [ "\x7b\"servers\":[\x7b\"url\":\"http://h/a,b\"\x7d],",
      "\"paths\":\x7b\"/a\":\x7b\"get\":\x7b\x7d\x7d\x7d\x7d" ]

/-- A parameter with a sample that has a comma. -/
def listParameter : Parameter := ⟨"tags", "query", false, .text "a,b"⟩

/-- The document has a root of a plan. -/
lemma testPlan_listed : ∃ spec root, Specification.read Yaml.reader listed none (.text []) = .ok spec ∧
    baseUrl .usual spec = .ok listAddress ∧ (testPlan .usual spec).outcome = .ok root := by
  have hchecked : (do
      let spec ← Specification.read Yaml.reader listed none (.text [])
      let address ← baseUrl .usual spec
      let _ ← (testPlan .usual spec).outcome
      return decide (address = listAddress)).toOption = some true := by decide +kernel
  have hrun := eq_ok_of_toOption hchecked
  obtain ⟨spec, hspec, hrun⟩ := exists_of_except_bind hrun
  obtain ⟨address, haddress, hrun⟩ := exists_of_except_bind hrun
  obtain ⟨root, hroot, hrun⟩ := exists_of_except_bind hrun
  obtain rfl := of_decide_eq_true (Except.ok.inj hrun)
  exact ⟨spec, root, hspec, haddress, hroot⟩

/-- **Defaults are carried as far as they have no commas.**  Each variable of the root of a plan carries its
default exactly if it has no comma, and all of them do exactly if the address of the server has none; the
value of a parameter carries its sample in any case. -/
theorem defaults_carried_iff {config : Config} {spec : Specification} {root : Root}
    (h : (testPlan config spec).outcome = .ok root) :
    (∃ address server, baseUrl config spec = .ok address ∧
      (Server.ofBaseUrl address).outcome = .ok server ∧
      CarriesDefaults config address server root.settings.userVariables) ∧
    ∀ parameter : Parameter, parameter.sample ≠ .null →
      (∀ r ∈ parameter.name, r ≠ ',' ∧ r ≠ '\\') → CarriesSample parameter :=
  ⟨carriesDefaults_of_testPlan h, fun _ => carriesSample_of_ne_null⟩

theorem defaults_carried_iff_listed : ∃ spec root address server,
    Specification.read Yaml.reader listed none (.text []) = .ok spec ∧
      (testPlan .usual spec).outcome = .ok root ∧ baseUrl .usual spec = .ok address ∧
      (Server.ofBaseUrl address).outcome = .ok server ∧
      CarriesDefaults .usual address server root.settings.userVariables ∧ CarriesSample listParameter := by
  obtain ⟨spec, root, hspec, -, hroot⟩ := testPlan_listed
  obtain ⟨⟨address, server, haddress, hserver, hvariables⟩, hparameters⟩ := defaults_carried_iff hroot
  exact ⟨spec, root, address, server, hspec, hroot, haddress, hserver, hvariables,
    hparameters listParameter Value.noConfusion (by decide)⟩

/-- **A default can be lost**: in the root for the example, the variable for the address does not carry it. -/
theorem defaults_not_carried : ∃ spec root value,
    Specification.read Yaml.reader listed none (.text []) = .ok spec ∧
      (testPlan .usual spec).outcome = .ok root ∧ baseUrl .usual spec = .ok listAddress ∧
      textPair ("BASE_URL", value) ∈ root.settings.userVariables ∧
      ¬ Carries "BASE_URL" listAddress value := by
  obtain ⟨spec, root, hspec, haddress, hroot⟩ := testPlan_listed
  obtain ⟨_, server, parts, _, _, hfound, -, hparts, -, -, hvariables⟩ := variables_of_testPlan hroot
  obtain rfl := Except.ok.inj (haddress.symm.trans hfound)
  refine ⟨spec, root, propertyRef "BASE_URL" listAddress, hspec, hroot, haddress, ?_, fun hcarries => ?_⟩
  · rw [hvariables]
    exact List.mem_map_of_mem (List.mem_append_left _ (mem_of_serverVariables hparts))
  · exact absurd ((carries_propertyRef_iff (by decide) _).mp hcarries) (by decide)

end Plan

end LoadPlan
