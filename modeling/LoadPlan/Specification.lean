import LoadPlan.Format

/-!
# Specifications

What a document says about an interface, in one form for both generations of documents.

* `Specification` — the paths, the security schemes and the names of an interface.
* `Specification.ofDocument` — the specification in a decoded document.
* `Specification.read` — the specification in a text.
-/

namespace LoadPlan

/-- **What a document says about an interface.** -/
structure Specification where
  /-- The paths, each with its operations. -/
  paths : Entries
  /-- The named schemas. -/
  schemas : Entries
  /-- The named security schemes. -/
  securitySchemes : Entries
  /-- The addresses of the servers, in the order of the document. -/
  servers : List Text
  /-- The name of the interface. -/
  title : Text
  /-- The version of the document format. -/
  version : Text
  /-- The version of the interface. -/
  apiVersion : Text
  /-- The address that requests go to unless another is configured.  It is a text unless the
  document gives none, and then it is whatever the caller had. -/
  defaultBaseUrl : Value
  /-- The whole document, into which references point. -/
  document : Value

namespace Specification

/-- A specification that says nothing but where requests go. -/
def ofBaseUrl (url : Value) : Specification where
  paths := []
  schemas := []
  securitySchemes := []
  servers := []
  title := "Untitled API"
  version := "Unknown"
  apiVersion := "1.0.0"
  defaultBaseUrl := url
  document := .map []

/-- The entries of a mapping under a key; none when something else stands there. -/
def section? (entries : Entries) (key : Text) : Entries := ((entries.getD key).entries?).getD []

def versionOf (document : Entries) : Except Fault Text :=
  match document.get? "openapi", document.get? "swagger" with
  | some version, _ => version.shown
  | none, some version => version.shown
  | none, none => .ok "Unknown"

/-- The text under a key, with a text in its place when there is nothing there. -/
def shownOr (entries : Entries) (key usual : Text) : Except Fault Text :=
  let value := entries.getD key
  if value.isTruthy then value.shown else .ok usual

def serverUrl? (server : Value) : Except Fault (Option Text) :=
  match server.entries? with
  | none => .ok none
  | some entries =>
    let url := entries.getD "url"
    if url.isTruthy then url.shown.map some else .ok none

def serverUrls (document : Entries) : Except Fault (List Text) :=
  match document.getD "servers" with
  | .list servers => do return (← servers.mapM serverUrl?).filterMap id
  | _ => .ok []

/-- The scheme of the addresses that a document of the older generation gives. -/
def schemeOf (document : Entries) : Except Fault Text :=
  match document.getD "schemes" with
  | .list (scheme :: _) => scheme.shown
  | _ => .ok "https"

/-- The address that a document of the older generation gives: scheme, host and base path. -/
def hostUrl? (document : Entries) : Except Fault (Option Text) :=
  match document.getD "host" with
  | .text [] => .ok none
  | .text host => do
    let basePath : Text :=
      match document.getD "basePath" with
      | .text path => path
      | _ => []
    return some ((← schemeOf document) ++ "://" ++ host ++ basePath)
  | _ => .ok none

/-- The address that requests go to: the first of the servers, else the host, else the configured
one. -/
def baseUrlOf (document : Entries) (servers : List Text) (configured : Value) :
    Except Fault Value := do
  match servers with
  | url :: _ => return .text url
  | [] => return ((← hostUrl? document).map Value.text).getD configured

def ofEntries (entries paths : Entries) (configured : Value) : Except Fault Specification := do
  let version ← versionOf entries
  let info := section? entries "info"
  let components := section? entries "components"
  let older := version.startsWith "2"
  let servers ← serverUrls entries
  let defaultBaseUrl ← baseUrlOf entries servers configured
  let title ← shownOr info "title" "Untitled API"
  let apiVersion ← shownOr info "version" "1.0.0"
  return {
    paths, servers, title, version, apiVersion, defaultBaseUrl
    schemas := if older then section? entries "definitions" else section? components "schemas"
    securitySchemes :=
      if older then section? entries "securityDefinitions"
      else section? components "securitySchemes"
    document := .map entries }

/-- **The specification in a decoded document.** -/
def ofDocument (document : Value) (configured : Value) : Except Fault Specification :=
  match document.entries? with
  | none => .error (.spec (.notMapping document.kind))
  | some entries =>
    match (entries.getD "paths").entries? with
    | none => .error (.spec .noPaths)
    | some [] => .error (.spec .emptyPaths)
    | some paths => ofEntries entries paths configured

/-- **The specification in a text.**  `declared` is the media type or the file suffix of the text,
`configured` the address that requests go to when the document gives none. -/
def read (reader : YamlReader) (source : List Char) (declared : Option Text) (configured : Value) :
    Except Fault Specification := do
  if (Text.ofChars source).isBlank then throw (.spec .emptyText)
  ofDocument (← (Format.detect source declared).decode reader source) configured

end Specification

end LoadPlan
