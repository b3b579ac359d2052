import LoadPlan.Operation.Extraction
import LoadPlan.Report

/-!
# Security schemes

How requests prove who sends them.

* `Credential`, `Scheme` — the supported ways, and a scheme that asks for one.
* `Specification.schemes` — the supported schemes of a specification.  For each other scheme there
  is a remark.
-/

namespace LoadPlan

/-- **A supported way to prove who sends a request.** -/
inductive Credential where
  /-- A key in a header; the name of the header may be any value. -/
  | apiKey (header : Value)
  /-- A token in the header for authorization. -/
  | bearer
  /-- A user name and a password. -/
  | basic

/-- A scheme of a specification: its name and its way. -/
structure Scheme where
  /-- The name, which may be any key. -/
  name : Value
  /-- The way. -/
  credential : Credential

/-- The way of a scheme of a type, if it is supported.  `http` is what an HTTP scheme is called, in
lower case. -/
def credential? (scheme : Entries) (type http : Text) : Option Credential :=
  let header := scheme.getD "name"
  if type = "apiKey" && scheme.isText "in" "header" && header.isTruthy then some (.apiKey header)
  else if type = "http" && http = "bearer" then some .bearer
  else if (type = "http" && http = "basic") || type = "basic" then some .basic
  else none

/-- What an unsupported scheme is called. -/
def schemeDetail (scheme : Entries) (type http : Text) : Except Fault Text :=
  if type = "apiKey" then
    match scheme.get? "in" with
    | some place => do return "apiKey in " ++ (← place.shown)
    | none => .ok "apiKey in unknown"
  else if type = "http" then .ok ("http " ++ http.orElse "unknown")
  else .ok (type.orElse "untyped")

/-- The remark that a scheme is not supported. -/
def unsupported (name : Value) (scheme : Entries) (type http : Text) : Report Unit := do
  let detail ← Report.ofExcept (schemeDetail scheme type http)
  Report.warn "UnsupportedSecuritySchemeWarning"
    ("Security scheme type '" ++ detail ++ "' is not supported, skipping")
    (← Report.ofExcept name.shown)

def schemesOf : List (Value × Value) → Report (List Scheme)
  | [] => return []
  | (name, value) :: rest =>
    match value.entries? with
    | none => schemesOf rest
    | some scheme => do
      let type ← Report.ofExcept (scheme.shownAt "type")
      let http := (← Report.ofExcept (scheme.shownAt "scheme")).lower
      match credential? scheme type http with
      | some credential => return ⟨name, credential⟩ :: (← schemesOf rest)
      | none =>
        unsupported name scheme type http
        schemesOf rest

/-- **The supported schemes of a specification**, in the order of the document. -/
def Specification.schemes (spec : Specification) : Report (List Scheme) :=
  schemesOf spec.securitySchemes

end LoadPlan
