import LoadPlan.Proofs.Plan.Assembling
import LoadPlan.Proofs.Plan.Variables
import LoadPlan.Proofs.Url.Parts

/-!
# The server of a plan

Any text has a server.  Where it names none, the requests go to the own machine, and there is one remark; and
an address that is put together from the parts of a server has these parts again.

* `Server.IsUsable` — a server that requests can be sent to.
* **`server_of_text`** — every text has such a server, and there is a remark exactly if it names none.
* `Server.IsPlain`, `Server.address` — servers whose parts are written as they are, and their addresses.
* `Server.ofBaseUrl_address` — the server of such an address.
* **`address_kept`** — the variables of a plan have the parts of the address for defaults, with whatever
  slashes it ends and wherever it comes from.
-/

namespace LoadPlan.Plan

/-! ## Slashes at the end -/

lemma prefix_trimSlashes (t : Text) : trimSlashes t <+: t := List.rdropWhile_prefix isSlash t

lemma getLast?_trimSlashes (t : Text) : (trimSlashes t).getLast? ≠ some ('/' : Rune) := by
  intro hlast
  have hne : trimSlashes t ≠ [] := by
    intro hnil
    rw [hnil] at hlast
    cases hlast
  have hkept := List.rdropWhile_last_not isSlash t hne
  rw [List.getLast?_eq_some_getLast hne, Option.some.injEq] at hlast
  exact hkept (decide_eq_true hlast)

lemma trimSlashes_eq_self {t : Text} (h : t.getLast? ≠ some ('/' : Rune)) : trimSlashes t = t := by
  refine List.rdropWhile_eq_self_iff.mpr fun hne hslash => h ?_
  rw [List.getLast?_eq_some_getLast hne, of_decide_eq_true hslash]

/-- All slashes that are added at the end are trimmed. -/
lemma trimSlashes_append {t : Text} (h : t.getLast? ≠ some ('/' : Rune)) (n : Nat) :
    trimSlashes (t ++ List.replicate n ('/' : Rune)) = t := by
  induction n with
  | zero =>
      rw [List.replicate_zero, List.append_nil]
      exact trimSlashes_eq_self h
  | succ n ih =>
      rw [List.replicate_succ', ← List.append_assoc]
      exact (List.rdropWhile_concat_pos isSlash _ _ rfl).trans ih

namespace Server

/-! ## The server of any text -/

/-- **A port**: none, or the decimal text of a number from 1 to 65535. -/
def IsPortText (t : Text) : Prop := t = [] ∨ ∃ n, 1 ≤ n ∧ n ≤ 65535 ∧ t = Text.ofNat n

/-- **A server that requests can be sent to.** -/
structure IsUsable (server : Server) : Prop where
  /-- There is a protocol. -/
  protocol : server.protocol ≠ []
  /-- There is a host. -/
  host : server.host ≠ []
  /-- The port is a number, if there is one. -/
  port : IsPortText server.port
  /-- The path begins with a slash, if there is one, … -/
  rooted : Url.IsRooted server.basePath
  /-- … and ends with none. -/
  trimmed : server.basePath.getLast? ≠ some ('/' : Rune)

/-- The remark on an address that names no server. -/
def noHost (address : Text) : Diagnostic :=
  ⟨.warning, "InvalidBaseUrlWarning", "Base URL has no host, using http://localhost",
    address.orElse "<empty>"⟩

section

variable {url : Url} {server : Server} {address : Text}

lemma isPortText_portText : ∀ {port : Option Nat}, (∀ n, port = some n → n ≤ 65535) →
    IsPortText (portText port)
  | none, _ => .inl rfl
  | some 0, _ => .inl rfl
  | some (n + 1), h => .inr ⟨n + 1, by omega, h _ rfl, rfl⟩

/-- There is a host only in an authority. -/
lemma authority_ne_nil (h : url.hostAndPort.1 ≠ []) : url.authority ≠ [] := by
  rintro hnil
  refine h ?_
  rw [Url.hostAndPort, Url.hostPart, hnil]
  rfl

lemma isSome_ofUrl?_iff :
    (ofUrl? url).isSome = true ↔ url.hostAndPort.1 ≠ [] ∧ Url.IsPort url.hostAndPort.2 := by
  rw [← Url.isSome_host?_iff, ← Url.isSome_port?_iff, ofUrl?]
  cases url.port? <;> cases url.host? <;> simp

/-- The parts of an address with a host and a sound port are a server. -/
lemma isUsable_of_ofUrl? (hpath : url.hostAndPort.1 ≠ [] → Url.IsRooted url.path)
    (h : ofUrl? url = some server) : server.IsUsable := by
  have hrooted := hpath (isSome_ofUrl?_iff.mp (by rw [h]; rfl)).1
  unfold ofUrl? at h
  split at h
  · rename_i port host hport hhost
    obtain rfl := Option.some.inj h
    refine ⟨?_, Url.ne_nil_of_host? hhost, isPortText_portText ?_,
      Url.isRooted_of_prefix hrooted (prefix_trimSlashes _), getLast?_trimSlashes _⟩
    · show url.scheme.orElse "http" ≠ []
      rw [Text.orElse]
      split_ifs with hempty
      · exact List.cons_ne_nil _ _
      · exact mt List.isEmpty_iff.mpr hempty
    · rintro n rfl
      exact Url.le_of_port? hport
  · cases h

/-- The own machine stands in for what an address does not name. -/
lemma isUsable_fallback (url : Option Url) : (fallback (lonePath url)).IsUsable := by
  have hpath : Url.IsRooted (lonePath url) ∧ (lonePath url).getLast? ≠ some ('/' : Rune) := by
    unfold lonePath
    split
    · exact ⟨.inl rfl, by rintro ⟨⟩⟩
    · split_ifs with hfound
      · rw [Bool.and_eq_true] at hfound
        obtain ⟨rest, hrest⟩ := List.isPrefixOf_iff_prefix.mp hfound.2
        exact ⟨Url.isRooted_of_prefix (.inr ⟨rest, hrest.symm⟩) (prefix_trimSlashes _),
          getLast?_trimSlashes _⟩
      · exact ⟨.inl rfl, by rintro ⟨⟩⟩
  exact ⟨List.cons_ne_nil _ _, List.cons_ne_nil _ _, .inl rfl, hpath.1, hpath.2⟩

/-- **An address has parts of its own exactly if it names a server.** -/
lemma isSome_bind_ofUrl?_iff :
    ((Url.split? address).bind ofUrl?).isSome = true ↔ Url.NamesServer address := by
  rw [Url.split?_eq]
  by_cases hsplit : Url.bracketsAgree (Url.cut address).authority = true ∧
      (Url.cut address).authority.any Rune.hidesDelimiter = false
  · have hplain : ∀ r ∈ (Url.cut address).authority, r.hidesDelimiter = false := by
      simpa using hsplit.2
    rw [hsplit.1, hsplit.2]
    show (ofUrl? (Url.cut address)).isSome = true ↔ _
    rw [isSome_ofUrl?_iff]
    exact ⟨fun h => ⟨hsplit.1, hplain, h.1, h.2⟩, fun h => ⟨h.host, h.port⟩⟩
  · rw [if_neg (by simpa using hsplit)]
    refine iff_of_false Bool.false_ne_true fun h => hsplit ⟨h.brackets, ?_⟩
    simpa using h.plain

lemma ofBaseUrl_of_some (h : (Url.split? address).bind ofUrl? = some server) :
    ofBaseUrl address = pure server := by
  rw [ofBaseUrl, h]

lemma ofBaseUrl_of_none (h : (Url.split? address).bind ofUrl? = none) :
    ofBaseUrl address = ⟨.ok (fallback (lonePath (Url.split? address))), [noHost address]⟩ := by
  rw [ofBaseUrl, h]
  rfl

end

end Server

open Server

/-- **Every text has a server that requests can be sent to.**  It is recorded that the text names none, once,
exactly if that is so, and nothing else is recorded; the requests then go to the own machine. -/
theorem server_of_text (address : Text) :
    ∃ server, (Server.ofBaseUrl address).outcome = .ok server ∧ server.IsUsable ∧
      ((Log.ofNotes (Server.ofBaseUrl address).notes).items = [noHost address] ↔
        ¬ Url.NamesServer address) ∧
      ((Log.ofNotes (Server.ofBaseUrl address).notes).items = [] ↔ Url.NamesServer address) ∧
      (¬ Url.NamesServer address →
        server.protocol = "http" ∧ server.host = "localhost" ∧ server.port = []) := by
  cases hparts : (Url.split? address).bind ofUrl? with
  | some server =>
      have hnames : Url.NamesServer address := isSome_bind_ofUrl?_iff.mp (by rw [hparts]; rfl)
      obtain ⟨url, hurl, hserver⟩ := Option.bind_eq_some_iff.mp hparts
      have hpath : url.hostAndPort.1 ≠ [] → Url.IsRooted url.path := by
        rw [Url.split?_eq] at hurl
        split_ifs at hurl
        obtain rfl := Option.some.inj hurl
        exact fun hhost => Url.isRooted_path (authority_ne_nil hhost)
      rw [ofBaseUrl_of_some hparts]
      exact ⟨server, rfl, isUsable_of_ofUrl? hpath hserver,
        iff_of_false (List.cons_ne_nil _ _).symm fun hnone => hnone hnames, iff_of_true rfl hnames,
        fun hnone => (hnone hnames).elim⟩
  | none =>
      have hnone : ¬ Url.NamesServer address := fun hnames => by
        rw [← isSome_bind_ofUrl?_iff, hparts] at hnames
        cases hnames
      rw [ofBaseUrl_of_none hparts]
      exact ⟨_, rfl, isUsable_fallback _, iff_of_true rfl hnone, iff_of_false (List.cons_ne_nil _ _) hnone,
        fun _ => ⟨rfl, rfl, rfl⟩⟩

/-! ## Addresses of servers -/

namespace Server

/-- **A server whose parts are written in an address as they are.** -/
structure IsPlain (server : Server) : Prop where
  /-- The protocol is a scheme. -/
  protocol : Url.IsScheme server.protocol
  /-- There is a host, of small letters, digits and signs. -/
  host : Url.IsHost server.host
  /-- The port is a number, if there is one. -/
  port : IsPortText server.port
  /-- The path has nothing that ends a path, … -/
  basePath : Url.IsPath server.basePath
  /-- … and ends with no slash. -/
  trimmed : server.basePath.getLast? ≠ some ('/' : Rune)

/-- **The address of a server.** -/
def address (server : Server) : Text :=
  server.protocol ++ "://" ++ (server.host ++ Url.portPart server.port) ++ server.basePath

lemma IsPortText.isAsciiDigit {port : Text} (h : IsPortText port) : ∀ r ∈ port, r.isAsciiDigit = true := by
  obtain rfl | ⟨n, -, -, rfl⟩ := h
  · exact List.forall_mem_nil _
  · exact Text.isAsciiDigit_ofNat

/-- A port is read back. -/
lemma IsPortText.port? {url : Url} (h : IsPortText url.hostAndPort.2) :
    ∃ port, url.port? = some port ∧ portText port = url.hostAndPort.2 := by
  obtain hnone | ⟨n, hlow, hhigh, hn⟩ := h
  · exact ⟨none, by rw [Url.port?, hnone]; rfl, hnone.symm⟩
  · refine ⟨some n, Url.port?_written hhigh hn, ?_⟩
    obtain ⟨m, rfl⟩ := Nat.exists_eq_add_of_le' hlow
    exact hn.symm

section

variable {server : Server}

lemma IsPlain.isAuthority (h : server.IsPlain) : Url.IsAuthority (server.host ++ Url.portPart server.port) :=
  Url.isAuthority_written h.host h.port.isAsciiDigit

lemma IsPlain.address_ne_nil (h : server.IsPlain) : server.address ≠ [] := by
  obtain ⟨first, rest, hprotocol, -⟩ := h.protocol.letter
  rw [address, hprotocol]
  exact List.cons_ne_nil _ _

/-- An address ends with no slash. -/
lemma IsPlain.getLast?_address (h : server.IsPlain) : server.address.getLast? ≠ some ('/' : Rune) := by
  intro hlast
  rw [address] at hlast
  by_cases hpath : server.basePath = []
  · rw [hpath, List.append_nil,
      List.getLast?_append_of_ne_nil _ (List.append_ne_nil_of_left_ne_nil h.host.1 _)] at hlast
    exact h.isAuthority.notMem (by decide) (List.mem_of_getLast? hlast)
  · rw [List.getLast?_append_of_ne_nil _ hpath] at hlast
    exact h.trimmed hlast

/-- **The server of an address is the one that it is put together from.** -/
theorem ofBaseUrl_address (h : server.IsPlain) : ofBaseUrl server.address = pure server := by
  have hsplit := Url.split?_written h.protocol h.isAuthority h.basePath
  generalize hurl : Url.mk server.protocol (server.host ++ Url.portPart server.port) server.basePath = url
    at hsplit
  have hparts : url.hostAndPort = (server.host, server.port) :=
    Url.hostAndPort_written h.host h.port.isAsciiDigit (by rw [← hurl])
  have hhost : url.host? = some server.host := Url.host?_written h.host (by rw [hparts])
  have hshort : IsPortText url.hostAndPort.2 := by
    rw [hparts]
    exact h.port
  obtain ⟨port, hport, hshown⟩ := hshort.port?
  have hprotocol : url.scheme.orElse "http" = server.protocol := by
    obtain ⟨first, rest, heq, -⟩ := h.protocol.letter
    rw [← hurl]
    show server.protocol.orElse "http" = _
    rw [heq]
    rfl
  have hpath : trimSlashes url.path = server.basePath := by
    rw [← hurl]
    exact trimSlashes_eq_self h.trimmed
  refine ofBaseUrl_of_some ?_
  rw [address, hsplit]
  show ofUrl? url = some server
  rw [ofUrl?, hport, hhost]
  show some (Server.mk (url.scheme.orElse "http") server.host (portText port) (trimSlashes url.path)) = _
  rw [hprotocol, hshown, hparts, hpath]

end

end Server

/-! ## The variables of a plan -/

section

variable {config : Config} {spec : Specification} {server : Server} {address : Text}

/-- The numbers that the root of a plan has. -/
def rootNumbers (config : Config) : List Nat :=
  [ config.connectionTimeout, config.responseTimeout, config.responseTimeThreshold,
    config.throughputThreshold, config.errorRateThreshold ]

/-- **Where the address of a plan comes from**: the configuration, or else the specification. -/
def IsGiven (config : Config) (spec : Specification) (address : Text) : Prop :=
  config.baseUrl = .text address ∨ config.baseUrl.isTruthy = false ∧ spec.defaultBaseUrl = .text address

lemma baseUrl_of_isGiven (h : IsGiven config spec address) (hne : address ≠ []) :
    baseUrl config spec = .ok (trimSlashes address) := by
  obtain hown | ⟨hnone, hspec⟩ := h
  · have htruthy : (Value.text address).isTruthy = true := by
      rw [Value.isTruthy, List.isEmpty_eq_false_iff.mpr hne]
      rfl
    rw [baseUrl, hown, if_pos htruthy]
  · rw [baseUrl, hnone, hspec]
    rfl

lemma exists_integerText_iff {i : Int} : (∃ t, integerText i = .ok t) ↔ IsShort i := by
  simp only [integerText_eq_ok_iff, isShort_iff, exists_and_left, exists_eq, and_true]

lemma exists_serverVariables_iff (config : Config) (address : Text) (server : Server) :
    (∃ parts, serverVariables config address server = .ok parts) ↔
      IsShort config.connectionTimeout ∧ IsShort config.responseTimeout := by
  simp only [serverVariables, exists_except_bind_iff, exists_except_pure, and_true, exists_and_right,
    exists_integerText_iff]

lemma exists_comments_iff (config : Config) (spec : Specification) (address : Text) :
    (∃ t, comments config spec address = .ok t) ↔ IsShort config.responseTimeThreshold ∧
      IsShort config.throughputThreshold ∧ IsShort config.errorRateThreshold := by
  simp only [comments, exists_except_bind_iff, exists_except_pure, and_true, exists_and_right,
    exists_integerText_iff]

/-- **A plan has a root exactly if the credentials have variables and no number is too long**, once its
address is known. -/
lemma returns_testPlan_iff {text : Text} (haddress : baseUrl config spec = .ok text) :
    (testPlan config spec).Returns ↔
      (∃ schemes credentials, spec.schemes.outcome = .ok schemes ∧
        credentialVariables schemes = .ok credentials) ∧ ∀ n ∈ rootNumbers config, IsShort n := by
  obtain ⟨server, hserver, -⟩ := server_of_text text
  have hparts := exists_serverVariables_iff config text server
  have hcomments := exists_comments_iff config spec text
  simp only [testPlan, Report.returns_bind_iff, Report.ofExcept_outcome, haddress, hserver, Except.ok.injEq,
    exists_eq_left', Report.returns_pure, and_true, exists_and_right, hparts, hcomments, rootNumbers,
    List.forall_mem_cons, List.not_mem_nil, false_implies, implies_true]
  constructor
  · rintro ⟨⟨hconnection, hresponse⟩, schemes, hschemes, ⟨credentials, hcredentials⟩, hothers⟩
    exact ⟨⟨schemes, credentials, hschemes, hcredentials⟩, hconnection, hresponse, hothers⟩
  · rintro ⟨⟨schemes, credentials, hschemes, hcredentials⟩, hconnection, hresponse, hothers⟩
    exact ⟨⟨hconnection, hresponse⟩, schemes, hschemes, ⟨credentials, hcredentials⟩, hothers⟩

/-- Where the address names a server, nothing is remarked on it. -/
lemma remarks_testPlan (haddress : baseUrl config spec = .ok address)
    (hserver : Server.ofBaseUrl address = pure server) :
    (testPlan config spec).Remarks fun d => d.code ≠ "InvalidBaseUrlWarning" := by
  have hcode : ("UnsupportedSecuritySchemeWarning" : Text) ≠ "InvalidBaseUrlWarning" := by decide
  rw [testPlan, haddress]
  show ((pure address : Report Text) >>= _).Remarks _
  rw [Report.pure_then, hserver, Report.pure_then]
  refine Report.Remarks.bind (.ofExcept _) fun parts => ?_
  refine Report.Remarks.bind (remarks_schemesOf (fun _ _ => hcode) _) fun schemes => ?_
  refine Report.Remarks.bind (.ofExcept _) fun credentials => ?_
  exact Report.Remarks.bind (.ofExcept _) fun description => .pure _

/-- The variables for the parts of an address. -/
def addressVariables (server : Server) : List Variable :=
  [ declare "BASE_URL" server.address, declare "HOST" server.host, declare "PORT" server.port,
    declare "PROTOCOL" server.protocol, declare "BASE_PATH" server.basePath ]

lemma names_addressVariables (server : Server) : names (addressVariables server) = serverNames.take 5 := rfl

/-- The root of a plan declares the variables for its address once. -/
lemma addressVariables_of_testPlan {root : Root} (haddress : baseUrl config spec = .ok server.address)
    (hserver : Server.ofBaseUrl server.address = pure server)
    (h : (testPlan config spec).outcome = .ok root) : ∃ others,
      root.settings.userVariables = (addressVariables server ++ others).map textPair ∧
        ∀ v ∈ others, v.1 ∉ names (addressVariables server) := by
  obtain ⟨_, _, parts, schemes, declared, hfound, hown, hparts, -, hdeclared, hvariables⟩ :=
    variables_of_testPlan h
  obtain rfl := Except.ok.inj (haddress.symm.trans hfound)
  rw [hserver] at hown
  obtain rfl := Except.ok.inj hown
  obtain ⟨connection, -, hparts⟩ := exists_of_except_bind hparts
  obtain ⟨response, -, hparts⟩ := exists_of_except_bind hparts
  obtain rfl := Except.ok.inj hparts
  refine ⟨declare "CONNECTION_TIMEOUT" connection :: declare "RESPONSE_TIMEOUT" response :: declared,
    hvariables, ?_⟩
  have hconnection : ("CONNECTION_TIMEOUT" : Text) ∉ serverNames.take 5 := by decide
  have hresponse : ("RESPONSE_TIMEOUT" : Text) ∉ serverNames.take 5 := by decide
  rw [names_addressVariables, List.forall_mem_cons, List.forall_mem_cons]
  refine ⟨hconnection, hresponse, fun v hv hmem => ?_⟩
  exact notMem_serverNames hdeclared v.1 (List.mem_map_of_mem hv) (List.take_subset 5 _ hmem)

end

/-- **The parts of an address are kept.**  For an address that is put together from the parts of a server,
with any number of slashes behind it, wherever it comes from: nothing is remarked on it; there is a root
unless credentials have no variables or a number is too long; and the variables for the address have its
parts for defaults, and no other variables have their names. -/
theorem address_kept {server : Server} (h : server.IsPlain) (slashes : Nat) {config : Config}
    {spec : Specification}
    (hgiven : IsGiven config spec (server.address ++ List.replicate slashes ('/' : Rune))) :
    (∀ d ∈ (testPlan config spec).notes, d.code ≠ "InvalidBaseUrlWarning") ∧
    ((∃ root, (testPlan config spec).outcome = .ok root) ↔
      (∃ schemes credentials, spec.schemes.outcome = .ok schemes ∧
        credentialVariables schemes = .ok credentials) ∧ ∀ n ∈ rootNumbers config, IsShort n) ∧
    ∀ root, (testPlan config spec).outcome = .ok root → ∃ others,
      root.settings.userVariables = (addressVariables server ++ others).map textPair ∧
        ∀ v ∈ others, v.1 ∉ names (addressVariables server) := by
  have haddress : baseUrl config spec = .ok server.address := by
    rw [baseUrl_of_isGiven hgiven (List.append_ne_nil_of_left_ne_nil h.address_ne_nil _),
      trimSlashes_append h.getLast?_address]
  have hserver := ofBaseUrl_address h
  exact ⟨remarks_testPlan haddress hserver, returns_testPlan_iff haddress,
    fun root => addressVariables_of_testPlan haddress hserver⟩

/-- A server with all parts. -/
def exampleServer : Server := ⟨"https", "api.example.com", "8443", "/v1"⟩

/-- Its address with two slashes behind it. -/
def exampleAddress : Text := "https://api.example.com:8443/v1//"

/-- A plan for the address has the parts of the server, and nothing is remarked on it. -/
theorem address_kept_example : exampleServer.IsPlain ∧ ∃ root others,
    (testPlan .usual (.ofBaseUrl (.text exampleAddress))).outcome = .ok root ∧
      (∀ d ∈ (testPlan .usual (.ofBaseUrl (.text exampleAddress))).notes,
        d.code ≠ "InvalidBaseUrlWarning") ∧
      root.settings.userVariables = (addressVariables exampleServer ++ others).map textPair := by
  have hplain : exampleServer.IsPlain :=
    ⟨⟨⟨_, _, rfl, by decide⟩, by decide⟩, ⟨by decide, by decide⟩,
      .inr ⟨8443, by decide, by decide, by decide⟩, ⟨.inr ⟨_, rfl⟩, by decide⟩, by decide⟩
  have haddress : exampleAddress = exampleServer.address ++ List.replicate 2 ('/' : Rune) := by decide
  have hnumbers : ∀ n ∈ rootNumbers .usual, n ∈ Config.usual.numbers := by decide
  have hgiven : IsGiven .usual (.ofBaseUrl (.text exampleAddress))
      (exampleServer.address ++ List.replicate 2 ('/' : Rune)) := .inr ⟨rfl, congrArg Value.text haddress⟩
  obtain ⟨hnotes, hreturns, hvariables⟩ := address_kept hplain 2 hgiven
  obtain ⟨root, hroot⟩ := hreturns.mpr
    ⟨⟨[], [], rfl, rfl⟩, fun n hn => Config.isSound_usual.numbers n (hnumbers n hn)⟩
  obtain ⟨others, hothers, -⟩ := hvariables root hroot
  exact ⟨hplain, root, others, hroot, hnotes, hothers⟩

end LoadPlan.Plan
