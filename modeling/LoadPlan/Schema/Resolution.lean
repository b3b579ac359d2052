import LoadPlan.Report
import LoadPlan.Schema.Node
import LoadPlan.Schema.Pointer

/-!
# Resolving schemas

From the mappings of a document to schemas without references.

* `Resolver` — a document, and how deep references are followed in it.
* `Resolver.resolve` — the schema of a value at a depth.  Every reference and every step into
  properties or items goes one level deeper; at the limit references are no longer followed, which
  is what brings a schema that contains itself to an end.
* `Resolver.within` — the same with the number of levels that are left in place of the depth.  That
  number and the size of the value make every call smaller than the one it comes from.

A reference that leads nowhere and one beyond the limit both become an empty object, with a remark.
-/

namespace LoadPlan

/-! ## Parts of a schema -/

/-- What stands under a key is smaller than the mapping. -/
theorem Entries.sizeOf_get? {key : Text} {entries : Entries} {value : Value}
    (h : entries.get? key = some value) : sizeOf value < sizeOf entries := by
  induction entries with
  | nil => simp [get?] at h
  | cons entry rest ih =>
    obtain ⟨k, v⟩ := entry
    have later (h : get? key rest = some value) : sizeOf value < sizeOf ((k, v) :: rest) := by
      have := ih h
      simp
      omega
    cases k
    case text t =>
      by_cases same : t = key
      · simp only [get?, same, if_true, Option.some.injEq] at h
        subst h
        simp
        omega
      · exact later (by simpa [get?, same] using h)
    all_goals exact later (by simpa [get?] using h)

/-- A value under a key of a mapping that has to be a sequence. -/
def Entries.items? (entries : Entries) (key : Text) : Option (List Value) :=
  match entries.get? key with
  | some (.list items) => some items
  | _ => none

theorem Entries.sizeOf_items? {entries : Entries} {key : Text} {items : List Value}
    (h : entries.items? key = some items) : sizeOf items < sizeOf entries := by
  unfold Entries.items? at h
  split at h
  · rename_i found
    have := Entries.sizeOf_get? found
    simp only [Option.some.injEq] at h
    subst h
    simp at this
    omega
  · simp at h

/-- A value under a key of a mapping that has to be a mapping. -/
def Entries.section? (entries : Entries) (key : Text) : Option Entries :=
  match entries.get? key with
  | some (.map more) => some more
  | _ => none

theorem Entries.sizeOf_section? {entries more : Entries} {key : Text}
    (h : entries.section? key = some more) : sizeOf more < sizeOf entries := by
  unfold Entries.section? at h
  split at h
  · rename_i found
    have := Entries.sizeOf_get? found
    simp only [Option.some.injEq] at h
    subst h
    simp at this
    omega
  · simp at h

/-- The values that a schema proposes. -/
def Declared.ofEntries (raw : Entries) : Declared where
  example? := raw.get? "example"
  examples? := raw.items? "examples"
  enum? := raw.items? "enum"

/-- A text other than the name of nothing. -/
def typeName? : Value → Option Text
  | .text t => if t = "null" then none else some t
  | _ => none

/-- The declared type of a schema.  Of a list of types the first that is not nothing counts. -/
def declaredType? (raw : Entries) : Option Text :=
  match raw.get? "type" with
  | some (.text t) => some t
  | some (.list types) => types.findSome? typeName?
  | _ => none

/-- The first of the alternatives of a schema. -/
def alternative? (raw : Entries) : Option Value :=
  match raw.items? "oneOf" with
  | some (first :: _) => some first
  | _ =>
    match raw.items? "anyOf" with
    | some (first :: _) => some first
    | _ => none

theorem sizeOf_alternative? {raw : Entries} {value : Value} (h : alternative? raw = some value) :
    sizeOf value < sizeOf raw := by
  unfold alternative? at h
  split at h
  · rename_i found
    have := Entries.sizeOf_items? found
    simp only [Option.some.injEq] at h
    subst h
    simp at this
    omega
  · split at h
    · rename_i found
      have := Entries.sizeOf_items? found
      simp only [Option.some.injEq] at h
      subst h
      simp at this
      omega
    · simp at h

/-- A bound of a schema; truth values are no bounds. -/
def bound? (raw : Entries) (key : Text) : Option Numeric :=
  match raw.get? key with
  | some (.int i) => some (.int i)
  | some (.float x) => some (.float x)
  | _ => none

def format? (raw : Entries) : Option Text :=
  match raw.get? "format" with
  | some (.text t) => some t
  | _ => none

/-- The schema of a mapping that has neither properties nor items. -/
def plainSchema (raw : Entries) : Schema :=
  let declared := Declared.ofEntries raw
  match declaredType? raw with
  | none => .object declared []
  | some type =>
    if type = "string" then .string declared (format? raw)
    else if type = "integer" then .integer declared (bound? raw "minimum") (bound? raw "maximum")
    else if type = "number" then .number declared (bound? raw "minimum") (bound? raw "maximum")
    else if type = "boolean" then .boolean declared
    else if type = "file" then .string declared (some "binary")
    else .object declared []

/-- Whether a schema is an object: by its type, or without one by its having properties. -/
def isObject (raw : Entries) : Bool :=
  match declaredType? raw with
  | some type => type = "object"
  | none => (raw.get? "properties").isSome

/-- Whether a schema is an array: by its type, or without one by its having items. -/
def isArray (raw : Entries) : Bool :=
  match declaredType? raw with
  | some type => type = "array"
  | none => (raw.get? "items").isSome

/-- One object from the members of a conjunction: their properties, and then its own. -/
def mergeMembers (declared : Declared) (members : List Schema) (own : Properties) : Schema :=
  let merged : Properties := members.foldl (fun merged member =>
    Properties.update merged (member.properties?.getD [])) []
  .object declared (merged.update own)

/-! ## Resolution -/

/-- **A document in which references are followed.** -/
structure Resolver where
  /-- The document that references point into. -/
  document : Value
  /-- The depth at which references are no longer followed. -/
  maxDepth : Int

namespace Resolver

/-- The limit unless another is asked for. -/
def usualDepth : Int := 5

/-- A reference beyond the limit.  The limit is named in the remark, and a number that is too long has
no text. -/
def depthExceeded (r : Resolver) (pointer : Text) : Report Schema := do
  let limit ← Report.ofExcept (integerText r.maxDepth)
  Report.warn "SchemaDepthExceededWarning"
    ("Schema depth limit " ++ limit ++ " reached, using empty object") pointer
  return .emptyObject

/-- A reference that leads nowhere. -/
def unresolved (pointer : Text) : Report Schema := do
  Report.warn "UnresolvedRefWarning" "Cannot resolve $ref, using empty object" pointer
  return .emptyObject

mutual

/-- **The schema of a value**, with a number of levels left; what is no mapping says nothing. -/
def within (r : Resolver) (hops : Nat) (raw : Value) : Report Schema :=
  match raw with
  | .map entries => r.mappingWithin hops entries
  | _ => return .emptyObject
termination_by (hops, sizeOf raw, 0)

def mappingWithin (r : Resolver) (hops : Nat) (raw : Entries) : Report Schema :=
  match raw.get? "$ref" with
  | some (.text pointer) =>
    match hops with
    | 0 => r.depthExceeded pointer
    | left + 1 => do
      match ← Report.ofExcept (Pointer.target r.document pointer) with
      | none => unresolved pointer
      | some target => r.mappingWithin left target
  | _ => r.classifyWithin hops raw
termination_by (hops, sizeOf raw, 3)

/-- The schema of a mapping that is no reference. -/
def classifyWithin (r : Resolver) (hops : Nat) (raw : Entries) : Report Schema :=
  let declared := Declared.ofEntries raw
  match _ : raw.items? "allOf" with
  | some (first :: rest) => do
    let members ← r.membersWithin hops (first :: rest)
    match members with
    | [member] =>
      match member.properties? with
      | none => return member.withExample declared.example?
      | some _ => return mergeMembers declared members (← r.propertiesWithin hops raw)
    | _ => return mergeMembers declared members (← r.propertiesWithin hops raw)
  | _ =>
    match _ : (if (declaredType? raw).isSome then none else alternative? raw) with
    | some alternative => do
      let schema ← r.within hops alternative
      return schema.withExample declared.example?
    | none =>
      if isObject raw then do return .object declared (← r.propertiesWithin hops raw)
      else if isArray raw then
        match h : raw.section? "items" with
        | some items => do return .array declared (some (← r.mappingWithin (hops - 1) items))
        | none => return .array declared none
      else return plainSchema raw
termination_by (hops, sizeOf raw, 2)
decreasing_by
  · rename_i h
    exact .right _ (.left _ _ (Entries.sizeOf_items? h))
  · exact .right _ (.right _ (by omega))
  · exact .right _ (.right _ (by omega))
  · rename_i h
    have : sizeOf alternative < sizeOf raw := by
      split at h
      · simp at h
      · exact sizeOf_alternative? h
    exact .right _ (.left _ _ this)
  · exact .right _ (.right _ (by omega))
  · have := Entries.sizeOf_section? h
    exact Prod.Lex.right' _ (Nat.sub_le _ _) (.left _ _ this)

/-- The schemas of the members of a conjunction, which stand at the same level. -/
def membersWithin (r : Resolver) (hops : Nat) (members : List Value) : Report (List Schema) :=
  match members with
  | [] => return []
  | member :: rest => do
    let schema ← r.within hops member
    return schema :: (← r.membersWithin hops rest)
termination_by (hops, sizeOf members, 0)

/-- The properties that a mapping declares itself, one level deeper. -/
def propertiesWithin (r : Resolver) (hops : Nat) (raw : Entries) : Report Properties :=
  match h : raw.section? "properties" with
  | none => return []
  | some entries => do return Properties.update [] (← r.entriesWithin (hops - 1) entries)
termination_by (hops, sizeOf raw, 1)
decreasing_by
  have := Entries.sizeOf_section? h
  exact Prod.Lex.right' _ (Nat.sub_le _ _) (.left _ _ this)

/-- The schemas of properties, each under its name. -/
def entriesWithin (r : Resolver) (hops : Nat) (entries : Entries) : Report Properties :=
  match entries with
  | [] => return []
  | (name, raw) :: rest => do
    let shown ← Report.ofExcept name.shown
    let schema ← r.within hops raw
    return (shown, schema) :: (← r.entriesWithin hops rest)
termination_by (hops, sizeOf entries, 0)

end

/-- The number of levels that are left at a depth. -/
def levelsAt (r : Resolver) (depth : Int) : Nat := (r.maxDepth - depth).toNat

/-- **The schema of a value at a depth.** -/
def resolve (r : Resolver) (depth : Int) (raw : Value) : Report Schema :=
  r.within (r.levelsAt depth) raw

/-- A schema without a reference at its root. -/
def resolveSchema (r : Resolver) (depth : Int) (schema : Schema) : Report Schema :=
  match schema with
  | .reference _ pointer => r.resolve depth (.map [(.text "$ref", .text pointer)])
  | _ => return schema

end Resolver

end LoadPlan
