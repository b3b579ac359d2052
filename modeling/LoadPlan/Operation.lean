import LoadPlan.Value

/-!
# Operations

What can be requested.

* `Method` — the request methods.
* `Parameter` — what a request is varied by.
* `Operation` — a method on a path, with its parameters and the schema of its body.
-/

namespace LoadPlan

/-- **A request method.** -/
inductive Method where
  /-- GET. -/
  | get
  /-- POST. -/
  | post
  /-- PUT. -/
  | put
  /-- PATCH. -/
  | patch
  /-- DELETE. -/
  | delete
  /-- HEAD. -/
  | head
  /-- OPTIONS. -/
  | options
deriving DecidableEq

namespace Method

def all : List Method := [get, post, put, patch, delete, head, options]

def name : Method → Text
  | get => "GET"
  | post => "POST"
  | put => "PUT"
  | patch => "PATCH"
  | delete => "DELETE"
  | head => "HEAD"
  | options => "OPTIONS"

def key : Method → Text
  | get => "get"
  | post => "post"
  | put => "put"
  | patch => "patch"
  | delete => "delete"
  | head => "head"
  | options => "options"

def ofName? (name : Text) : Option Method := all.find? (·.name = name)

def ofKey? (key : Text) : Option Method := all.find? (·.key = key)

/-- Whether a request with the method carries a body. -/
def hasBody : Method → Bool
  | post | put | patch => true
  | _ => false

end Method

/-- **A parameter of an operation.** -/
structure Parameter where
  /-- Its name. -/
  name : Text
  /-- Where it goes in a request: path, query, header, form. -/
  location : Text
  /-- Whether a request has to have it. -/
  required : Bool
  /-- An example of its value; nothing when there is none. -/
  sample : Value

/-- **An operation**: a method on a path. -/
structure Operation where
  /-- The path, with parameters between braces. -/
  path : Text
  /-- The method. -/
  method : Method
  /-- Its identifier. -/
  identifier? : Option Text
  /-- Its short description. -/
  summary? : Option Text
  /-- The words it is filed under. -/
  tags : List Text
  /-- Its parameters. -/
  parameters : List Parameter
  /-- The schema of its body. -/
  requestBody? : Option Entries
  /-- The media type of its body, as it stands in the document; nothing when there is none. -/
  contentType : Value

namespace Operation

def label (operation : Operation) : Text := operation.method.name ++ " " ++ operation.path

/-- The parameters that go to a place in the request. -/
def parametersIn (operation : Operation) (location : Text) : List Parameter :=
  operation.parameters.filter (·.location = location)

end Operation

def formMediaType : Text := "application/x-www-form-urlencoded"

def jsonMediaType : Text := "application/json"

/-- Whether a media type of a document is the one of forms. -/
def isFormMediaType : Value → Bool
  | .text t => t = formMediaType
  | _ => false

end LoadPlan
