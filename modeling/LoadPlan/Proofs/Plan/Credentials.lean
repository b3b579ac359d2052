import LoadPlan.Plan.Assembly
import LoadPlan.Proofs.Plan.Typed
import Mathlib.Data.List.Forall2

/-!
# Credentials

What the security schemes of a document ask for, and what sends it.

* `Entries.isSupported`, `Asks` — which schemes are supported, and what they ask for.
* `declaredIn`, `supportedIn`, `unsupportedIn` — the schemes of a mapping, in the order of the document.
* `HasSchemeNames` — the schemes of a specification have names of their own.
* `Sends` — an element sends the credentials of a scheme.
* **`schemesOf_cases`** — each supported scheme is found, and each other scheme is remarked on.
* **`sends_of_credentialManager`** — what is made for a scheme sends its credentials.
-/

namespace LoadPlan

/-! ## Outcomes of several steps -/

/-- A stage that comes to an end goes through what comes before it, and its remarks follow those that were
made there. -/
lemma Report.parts_of_bind {α β : Type} {report : Report α} {next : α → Report β} {b : β}
    (h : (report >>= next).outcome = .ok b) : ∃ a, report.outcome = .ok a ∧
      (next a).outcome = .ok b ∧ (report >>= next).notes = report.notes ++ (next a).notes := by
  obtain ⟨a, ha, hb⟩ := exists_of_bind h
  exact ⟨a, ha, hb, by rw [bind_of_ok ha]⟩

/-- What is found for some items is found for each of them. -/
lemma forall₂_of_mapM {α β : Type} {f : α → Except Fault β} : ∀ {xs : List α} {ys : List β},
    xs.mapM f = .ok ys → List.Forall₂ (fun x y => f x = .ok y) xs ys
  | [], ys, h => by
      obtain rfl := Except.ok.inj h
      exact .nil
  | x :: xs, ys, h => by
      rw [List.mapM_cons] at h
      obtain ⟨first, hfirst, h⟩ := exists_of_except_bind h
      obtain ⟨others, hothers, h⟩ := exists_of_except_bind h
      obtain rfl := Except.ok.inj h
      exact .cons hfirst (forall₂_of_mapM hothers)

/-! ## Schemes -/

section

variable {scheme : Entries} {credential : Credential}

/-- Whether a scheme has a text under a key, or something that is shown as that text. -/
def Entries.tells (scheme : Entries) (key text : Text) : Bool :=
  (scheme.shownAt key).toOption = some text

/-- Whether a scheme is an HTTP scheme of a kind, in whatever case the kind is written. -/
def Entries.isHttp (scheme : Entries) (kind : Text) : Bool :=
  scheme.tells "type" "http" && (scheme.shownAt "scheme").toOption.map Text.lower = some kind

/-- Whether a scheme asks for a key in a header that it names. -/
def Entries.isHeaderKey (scheme : Entries) : Bool :=
  scheme.tells "type" "apiKey" && scheme.isText "in" "header" && (scheme.getD "name").isTruthy

/-- **Whether a scheme is supported**: a key in a header, a token, or a login, which documents of the older
generation have a type of its own for. -/
def Entries.isSupported (scheme : Entries) : Bool :=
  scheme.isHeaderKey || scheme.isHttp "bearer" || scheme.isHttp "basic" || scheme.tells "type" "basic"

/-- **What a scheme asks for.** -/
inductive Asks (scheme : Entries) : Credential → Prop where
  /-- A key in the header that the scheme names. -/
  | key (h : scheme.isHeaderKey = true) : Asks scheme (.apiKey (scheme.getD "name"))
  /-- A token. -/
  | token (h : scheme.isHttp "bearer" = true) : Asks scheme .bearer
  /-- A user name and a password. -/
  | login (h : (scheme.isHttp "basic" || scheme.tells "type" "basic") = true) : Asks scheme .basic

/-- Supported schemes are those that ask for something. -/
lemma exists_asks_iff : (∃ credential, Asks scheme credential) ↔ scheme.isSupported = true := by
  rw [Entries.isSupported, Bool.or_assoc (_ || _), Bool.or_eq_true, Bool.or_eq_true]
  constructor
  · rintro ⟨_, h | h | h⟩
    · exact .inl (.inl h)
    · exact .inl (.inr h)
    · exact .inr h
  · rintro ((h | h) | h)
    · exact ⟨_, .key h⟩
    · exact ⟨_, .token h⟩
    · exact ⟨_, .login h⟩

/-- **The way of a scheme is what the scheme asks for.** -/
lemma credential?_cases {type http : Text} (htype : scheme.shownAt "type" = .ok type)
    (hhttp : scheme.shownAt "scheme" = .ok http) :
    (∃ credential, credential? scheme type http.lower = some credential ∧ Asks scheme credential) ∨
      credential? scheme type http.lower = none ∧ scheme.isSupported = false := by
  have htells : ∀ text, scheme.tells "type" text = decide (type = text) := by
    intro text
    rw [Entries.tells, htype, Except.toOption]
    simp only [Option.some.injEq]
  have hkind : ∀ kind, scheme.isHttp kind = (decide (type = "http") && decide (http.lower = kind)) := by
    intro kind
    rw [Entries.isHttp, htells, hhttp, Except.toOption]
    simp only [Option.map_some, Option.some.injEq]
  unfold credential?
  dsimp only
  split_ifs with hkey htoken hlogin
  · exact .inl ⟨_, rfl, .key (by rw [Entries.isHeaderKey, htells]; exact hkey)⟩
  · exact .inl ⟨_, rfl, .token (by rw [hkind]; exact htoken)⟩
  · exact .inl ⟨_, rfl, .login (by rw [hkind, htells]; exact hlogin)⟩
  · refine .inr ⟨rfl, ?_⟩
    rw [Entries.isSupported, Entries.isHeaderKey, hkind, hkind, htells, htells]
    rw [Bool.not_eq_true] at hkey htoken hlogin
    rw [hkey, htoken, Bool.false_or, Bool.false_or, hlogin]

end

/-! ## The schemes of a document -/

/-- The schemes of a mapping, with their names: those of its values that are mappings. -/
def declaredIn : Entries → List (Value × Entries)
  | [] => []
  | (name, value) :: rest =>
    match value.entries? with
    | none => declaredIn rest
    | some scheme => (name, scheme) :: declaredIn rest

def supportedIn (entries : Entries) : List (Value × Entries) :=
  (declaredIn entries).filter fun declared => declared.2.isSupported

def unsupportedIn (entries : Entries) : List (Value × Entries) :=
  (declaredIn entries).filter fun declared => !declared.2.isSupported

/-- **The schemes of a specification have names**: texts, and no two of them the same.  A mapping gives no key
twice, but its keys may be other values. -/
structure Specification.HasSchemeNames (spec : Specification) : Prop where
  /-- The names are texts. -/
  texts : ∀ entry ∈ spec.securitySchemes, entry.1.isText = true
  /-- No name is given twice. -/
  distinct : spec.securitySchemes.Pairwise fun entry other => entry.1.sameKey other.1 = false

instance (spec : Specification) : Decidable spec.HasSchemeNames :=
  decidable_of_iff
    ((∀ entry ∈ spec.securitySchemes, entry.1.isText = true) ∧
      spec.securitySchemes.Pairwise fun entry other => entry.1.sameKey other.1 = false)
    ⟨fun ⟨htexts, hdistinct⟩ => ⟨htexts, hdistinct⟩, fun h => ⟨h.texts, h.distinct⟩⟩

/-- Whether a remark says that a scheme is not supported. -/
def Diagnostic.isOnScheme (d : Diagnostic) : Bool := d.code = "UnsupportedSecuritySchemeWarning"

/-- **A remark says that a scheme is not supported**, and gives its name. -/
structure SaysUnsupported (declared : Value × Entries) (d : Diagnostic) : Prop where
  /-- It is a warning. -/
  severity : d.severity = .warning
  /-- It says that a scheme is not supported. -/
  isOnScheme : d.isOnScheme = true
  /-- It gives the name. -/
  context : declared.1.shown = .ok d.context

lemma notes_unsupported {name : Value} {scheme : Entries} {type http : Text} {u : Unit}
    (h : (unsupported name scheme type http).outcome = .ok u) :
    ∃ d, (unsupported name scheme type http).notes = [d] ∧ SaysUnsupported (name, scheme) d := by
  obtain ⟨detail, -, h, hnotes₁⟩ := Report.parts_of_bind h
  obtain ⟨shown, hshown, h, hnotes₂⟩ := Report.parts_of_bind h
  rw [unsupported, hnotes₁, hnotes₂]
  exact ⟨_, rfl, rfl, rfl, hshown⟩

/-- **Each supported scheme is found, and each other scheme is remarked on**, in the order of the
document. -/
lemma schemesOf_cases : ∀ {entries : Entries} {schemes : List Scheme},
    (schemesOf entries).outcome = .ok schemes →
      List.Forall₂ (fun declared scheme => scheme.name = declared.1 ∧
        Asks declared.2 scheme.credential) (supportedIn entries) schemes ∧
      List.Forall₂ SaysUnsupported (unsupportedIn entries) (schemesOf entries).notes
  | [], schemes, h => by
      obtain rfl := Except.ok.inj h
      exact ⟨.nil, .nil⟩
  | (name, value) :: rest, schemes, h => by
      rw [supportedIn, unsupportedIn, declaredIn]
      rw [schemesOf] at h ⊢
      cases hvalue : value.entries? with
      | none =>
          simp only [hvalue] at h ⊢
          exact schemesOf_cases h
      | some scheme =>
          simp only [hvalue] at h ⊢
          obtain ⟨type, htype, h, hnotes₁⟩ := Report.parts_of_bind h
          obtain ⟨http, hhttp, h, hnotes₂⟩ := Report.parts_of_bind h
          rw [hnotes₁, hnotes₂]
          rcases credential?_cases htype hhttp with ⟨credential, hsome, hasks⟩ | ⟨hnone, hno⟩
          · have hyes : scheme.isSupported = true := exists_asks_iff.mp ⟨credential, hasks⟩
            simp only [hsome] at h ⊢
            obtain ⟨others, hothers, h, hnotes₃⟩ := Report.parts_of_bind h
            obtain rfl := Except.ok.inj h
            obtain ⟨hfound, hremarked⟩ := schemesOf_cases hothers
            simp only [List.filter_cons, hyes, if_true, Bool.not_true, Bool.false_eq_true, if_false,
              hnotes₃]
            refine ⟨.cons ⟨rfl, hasks⟩ hfound, ?_⟩
            rw [Report.pure_notes, List.append_nil]
            exact hremarked
          · simp only [hnone] at h ⊢
            obtain ⟨u, hu, h, hnotes₃⟩ := Report.parts_of_bind h
            obtain ⟨hfound, hremarked⟩ := schemesOf_cases h
            obtain ⟨d, hd, hsays⟩ := notes_unsupported hu
            simp only [List.filter_cons, hno, Bool.false_eq_true, if_false, Bool.not_false, if_true,
              hnotes₃, hd]
            exact ⟨hfound, .cons hsays hremarked⟩

/-! ## Managers -/

/-- **An element sends the credentials of a scheme.** -/
inductive Plan.Sends : Scheme → Plan.Element → Prop where
  /-- The key goes into the header that the scheme names. -/
  | key {name header : Text} {value : Value} (hheader : value.shown = .ok header) :
    Sends ⟨.text name, .apiKey value⟩
      (.of ("API Key Header Manager - " ++ name)
        (.headerManager
          { headers := [Plan.textPair (header, variableRef (Plan.keyVariable name))] }) [])
  /-- The token goes into the header for authorization. -/
  | token {name : Value} {shown : Text} (hname : name.shown = .ok shown) :
    Sends ⟨name, .bearer⟩
      (.of ("Bearer Token Header Manager - " ++ shown)
        (.headerManager
          { headers :=
              [Plan.textPair ("Authorization", "Bearer " ++ variableRef "BEARER_TOKEN")] }) [])
  /-- User name and password are for all that is below the address of the server. -/
  | login {name : Value} {shown : Text} (hname : name.shown = .ok shown) :
    Sends ⟨name, .basic⟩
      (.of ("HTTP Authorization Manager - " ++ shown)
        (.authManager
          { url := .text (variableRef "BASE_URL")
            username := .text (variableRef "BASIC_USERNAME")
            password := .text (variableRef "BASIC_PASSWORD") }) [])

namespace Plan

/-- **What is made for a scheme sends its credentials.** -/
lemma sends_of_credentialManager {scheme : Scheme} {element : Element}
    (h : credentialManager scheme = .ok element) : Sends scheme element := by
  obtain ⟨name, credential⟩ := scheme
  obtain ⟨shown, hname, h⟩ := exists_of_except_bind h
  cases credential with
  | apiKey value =>
      obtain ⟨header, hheader, h⟩ := exists_of_except_bind h
      obtain ⟨key, hkey, h⟩ := exists_of_except_bind h
      cases name with
      | text name =>
          obtain rfl := Except.ok.inj hname
          obtain rfl := Except.ok.inj hkey
          obtain rfl := Except.ok.inj h
          exact .key hheader
      | _ => cases hkey
  | bearer =>
      obtain rfl := Except.ok.inj h
      exact .token hname
  | basic =>
      obtain rfl := Except.ok.inj h
      exact .login hname

end Plan

end LoadPlan
