import LoadPlan.Number.Double
import LoadPlan.Value

/-!
# Schemas

What a schema says about the values it admits, as far as a sample value depends on it.

* `Declared` — the values that a schema itself proposes.
* `Schema` — the kinds of schemas.
* `Schema.withExample` — a schema with another example.
* `Properties.insert`, `Properties.update` — the properties of an object, in the order of their
  first occurrence.
-/

namespace LoadPlan

/-- **The values that a schema proposes.** -/
structure Declared where
  /-- The example.  A declared example may be nothing. -/
  example? : Option Value
  /-- The list of examples. -/
  examples? : Option (List Value)
  /-- The list of the values that are admitted. -/
  enum? : Option (List Value)

/-- A schema that proposes nothing. -/
def Declared.none : Declared := ⟨.none, .none, .none⟩

/-- **The proposed value**: the example, else the first of the examples, else the first admitted
value. -/
def Declared.value? (declared : Declared) : Option Value :=
  declared.example?.or
    ((declared.examples?.bind List.head?).or (declared.enum?.bind List.head?))

/-- **A schema.** -/
inductive Schema where
  /-- An object, with the schemas of its properties. -/
  | object (declared : Declared) (properties : List (Text × Schema))
  /-- An array, with the schema of its items if there is one. -/
  | array (declared : Declared) (items : Option Schema)
  /-- A text. -/
  | string (declared : Declared) (format : Option Text)
  /-- An integer between bounds. -/
  | integer (declared : Declared) (minimum maximum : Option Numeric)
  /-- A number between bounds. -/
  | number (declared : Declared) (minimum maximum : Option Numeric)
  /-- A truth value. -/
  | boolean (declared : Declared)
  /-- A reference that has not been followed. -/
  | reference (declared : Declared) (pointer : Text)
  /-- A schema of no kind. -/
  | bare (declared : Declared)

namespace Schema

/-- An object of which nothing is known. -/
def emptyObject : Schema := object .none []

instance : Inhabited Schema := ⟨emptyObject⟩

/-- The values that a schema proposes. -/
def declared : Schema → Declared
  | object declared _ => declared
  | array declared _ => declared
  | string declared _ => declared
  | integer declared _ _ => declared
  | number declared _ _ => declared
  | boolean declared => declared
  | reference declared _ => declared
  | bare declared => declared

/-- The same schema with other proposals. -/
def withDeclared (proposals : Declared) : Schema → Schema
  | object _ properties => object proposals properties
  | array _ items => array proposals items
  | string _ format => string proposals format
  | integer _ minimum maximum => integer proposals minimum maximum
  | number _ minimum maximum => number proposals minimum maximum
  | boolean _ => boolean proposals
  | reference _ pointer => reference proposals pointer
  | bare _ => bare proposals

/-- The same schema with another example; without one it stays as it is. -/
def withExample (example? : Option Value) (schema : Schema) : Schema :=
  match example? with
  | none => schema
  | some value => schema.withDeclared { schema.declared with example? := some value }

def properties? : Schema → Option (List (Text × Schema))
  | object _ properties => some properties
  | _ => none

end Schema

/-- **The properties of an object.**  A name occurs once, at the place of its first occurrence. -/
abbrev Properties := List (Text × Schema)

namespace Properties

/-- Sets a property.  One that is there already keeps its place. -/
def insert (name : Text) (schema : Schema) : Properties → Properties
  | [] => [(name, schema)]
  | (key, old) :: rest =>
    if key = name then (key, schema) :: rest else (key, old) :: insert name schema rest

/-- Sets several properties, one after another. -/
def update (properties more : Properties) : Properties :=
  more.foldl (fun merged (name, schema) => insert name schema merged) properties

end Properties

end LoadPlan
