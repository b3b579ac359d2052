import LoadPlan.Config
import LoadPlan.Report
import LoadPlan.Specification
import LoadPlan.Url

/-!
# The server of a plan

* `baseUrl` — the address that requests go to: the configured one, else the one of the document,
  without slashes at its end.
* `Server` — the parts of that address that the plan keeps as variables.
* `Server.ofBaseUrl` — the parts of any text.  Without a host there is a remark, and the requests go
  to the own machine.
-/

namespace LoadPlan.Plan

def isSlash (r : Rune) : Bool := r = '/'

/-- A text without slashes at its end. -/
def trimSlashes (t : Text) : Text := t.trimEnd isSlash

/-- **The address that requests go to.** -/
def baseUrl (config : Config) (spec : Specification) : Except Fault Text :=
  match if config.baseUrl.isTruthy then config.baseUrl else spec.defaultBaseUrl with
  | .text t => .ok (trimSlashes t)
  | .bytes _ => .error .notText
  | _ => .error .baseUrlNotText

/-- **The parts of an address.** -/
structure Server where
  /-- The protocol. -/
  protocol : Text
  /-- The host. -/
  host : Text
  /-- The port; empty for the usual one. -/
  port : Text
  /-- What all paths begin with. -/
  basePath : Text

namespace Server

/-- The own machine. -/
def fallback (basePath : Text) : Server := ⟨"http", "localhost", [], basePath⟩

/-- The text of a port; zero is none. -/
def portText : Option Nat → Text
  | none => []
  | some 0 => []
  | some port => Text.ofNat port

/-- The parts of an address that has a host and a sound port. -/
def ofUrl? (url : Url) : Option Server :=
  match url.port?, url.host? with
  | some port, some host =>
    some ⟨url.scheme.orElse "http", host, portText port, trimSlashes url.path⟩
  | _, _ => none

/-- The base path of an address without a host: its path, if the address can be cut and its path
begins with a slash. -/
def lonePath (url : Option Url) : Text :=
  match url with
  | none => []
  | some url =>
    if url.port?.isSome && url.path.startsWith "/" then trimSlashes url.path else []

/-- **The parts of an address.** -/
def ofBaseUrl (address : Text) : Report Server :=
  let url := Url.split? address
  match url.bind ofUrl? with
  | some server => return server
  | none => do
    Report.warn "InvalidBaseUrlWarning" "Base URL has no host, using http://localhost"
      (address.orElse "<empty>")
    return fallback (lonePath url)

end Server

end LoadPlan.Plan
