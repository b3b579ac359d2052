import LoadPlan.Proofs.Distinct
import LoadPlan.Proofs.Schema.Forms
import Mathlib.Data.List.Induction

/-!
# Conjunctions

The members of a conjunction are merged into one object, and how they are nested makes no difference.

* `Properties.update_update` — to put properties together first, and then to others, changes nothing.
* `Properties.IsMergeOf`, `Properties.isMergeOf_update` — properties in which each name stands where it
  first occurs in a list, with the schema of its last occurrence there.
* `Resolver.gather` — the schema of a conjunction that declares nothing but its members.
* `Entries.conjoining` — a mapping with other members.
* `Resolver.resolve_conjoining_nested` — members in a conjunction of their own can stand by themselves.
* `Resolver.cases_of_conjoining` — what a conjunction is resolved to.
* **`Resolver.conjunctions_merged`** — both together.
-/

namespace LoadPlan

/-! ## Properties one after another -/

namespace Properties

variable {properties more : Properties} {name other : Text} {schema : Schema}

/-- The names of properties. -/
def names (properties : Properties) : List Text := properties.map Prod.fst

lemma names_cons (property : Text × Schema) (rest : Properties) :
    names (property :: rest) = property.1 :: names rest := rfl

lemma update_concat (properties more : Properties) (name : Text) (schema : Schema) :
    properties.update (more ++ [(name, schema)]) = insert name schema (properties.update more) :=
  List.foldl_concat _ properties (name, schema) more

lemma update_append (properties more others : Properties) :
    properties.update (more ++ others) = (properties.update more).update others :=
  List.foldl_append

/-- The second of two schemas for a name counts. -/
lemma insert_insert (name : Text) (first second : Schema) (properties : Properties) :
    insert name second (insert name first properties) = insert name second properties := by
  induction properties with
  | nil => exact if_pos rfl
  | cons property rest ih =>
      obtain ⟨key, old⟩ := property
      by_cases h : key = name
      · simp [insert, h]
      · simp [insert, h, ih]

/-- A name that is there keeps its place, so that its schema can be set before or after others. -/
lemma insert_comm (hne : other ≠ name) (hmem : name ∈ names properties) (schema second : Schema) :
    insert other second (insert name schema properties) =
      insert name schema (insert other second properties) := by
  induction properties with
  | nil => cases hmem
  | cons property rest ih =>
      obtain ⟨key, old⟩ := property
      by_cases hkey : key = name
      · simp [insert, hkey, hne.symm]
      · have hrest : name ∈ names rest := (List.mem_cons.mp hmem).resolve_left (Ne.symm hkey)
        by_cases hother : key = other
        · simp [insert, hother, hne]
        · simp [insert, hkey, hother, ih hrest]

lemma mem_names_insert (hmem : name ∈ names properties) (other : Text) (schema : Schema) :
    name ∈ names (insert other schema properties) := by
  induction properties with
  | nil => cases hmem
  | cons property rest ih =>
      obtain ⟨key, old⟩ := property
      rw [insert]
      split_ifs
      · exact hmem
      · rcases List.mem_cons.mp hmem with hkey | hrest
        · exact List.mem_cons.mpr (.inl hkey)
        · exact List.mem_cons_of_mem _ (ih hrest)

lemma mem_names_insert_self (name : Text) (schema : Schema) (properties : Properties) :
    name ∈ names (insert name schema properties) := by
  induction properties with
  | nil => exact List.mem_singleton_self name
  | cons property rest ih =>
      obtain ⟨key, old⟩ := property
      rw [insert]
      split_ifs with hkey
      · exact List.mem_cons.mpr (.inl hkey.symm)
      · exact List.mem_cons_of_mem _ ih

/-- So it can be set before or after several others. -/
lemma update_insert_of_mem (hmem : name ∈ names properties) (hnot : name ∉ names more)
    (schema : Schema) :
    (insert name schema properties).update more = insert name schema (properties.update more) := by
  induction more generalizing properties with
  | nil => rfl
  | cons property rest ih =>
      obtain ⟨key, second⟩ := property
      rw [names_cons, List.mem_cons, not_or] at hnot
      calc (insert key second (insert name schema properties)).update rest
          = (insert name schema (insert key second properties)).update rest := by
            rw [insert_comm (Ne.symm hnot.1) hmem]
        _ = insert name schema ((insert key second properties).update rest) :=
            ih (mem_names_insert hmem key second) hnot.2

/-- A property that is set in properties is set where these are put. -/
lemma update_insert (hmore : (names more).Nodup) (properties : Properties) (name : Text)
    (schema : Schema) :
    properties.update (insert name schema more) = insert name schema (properties.update more) := by
  induction more generalizing properties with
  | nil => rfl
  | cons property rest ih =>
      obtain ⟨key, old⟩ := property
      rw [names_cons, List.nodup_cons] at hmore
      by_cases hkey : key = name
      · -- the name is replaced in its place, where it is put first and then replaced otherwise
        obtain rfl := hkey
        have hmem := mem_names_insert_self key old properties
        calc properties.update (insert key schema ((key, old) :: rest))
            = (insert key schema (insert key old properties)).update rest := by
              rw [insert_insert, insert, if_pos rfl]
              rfl
          _ = insert key schema ((insert key old properties).update rest) :=
              update_insert_of_mem hmem hmore.1 schema
      · rw [insert, if_neg hkey]
        exact ih hmore.2 (insert key old properties)

/-! ### Names and schemas -/

lemma names_insert (name : Text) (schema : Schema) (properties : Properties) :
    names (insert name schema properties) =
      if name ∈ names properties then names properties else names properties ++ [name] := by
  induction properties with
  | nil => rfl
  | cons property rest ih =>
      obtain ⟨key, old⟩ := property
      by_cases hkey : key = name
      · simp [insert, hkey, names_cons]
      · rw [insert, if_neg hkey, names_cons, names_cons, ih]
        by_cases hmem : name ∈ names rest
        · simp [hmem]
        · simp [hmem, Ne.symm hkey]

/-- A name stands where it first occurs. -/
lemma names_update (more : Properties) : names (Properties.update [] more) = (names more).eraseDups := by
  induction more using List.reverseRecOn with
  | nil => rfl
  | append_singleton rest property ih =>
      have hconcat : names (rest ++ [property]) = names rest ++ [property.1] := List.map_append
      rw [update_concat, names_insert, ih, hconcat, eraseDups_concat]
      simp only [List.mem_eraseDups]

lemma nodup_names_update (more : Properties) : (names (Properties.update [] more)).Nodup := by
  rw [names_update]
  exact nodup_eraseDups _

/-- **To put properties together first changes nothing.** -/
lemma update_update (properties more : Properties) :
    properties.update (Properties.update [] more) = properties.update more := by
  induction more using List.reverseRecOn with
  | nil => rfl
  | append_singleton rest property ih =>
      rw [update_concat, update_insert (nodup_names_update rest), ih, ← update_concat]

lemma lookup_cons (key name : Text) (schema : Schema) (rest : Properties) :
    List.lookup key ((name, schema) :: rest) = if key = name then some schema else rest.lookup key := by
  rw [List.lookup_cons]
  by_cases h : key = name
  · rw [if_pos h, beq_iff_eq.mpr h]
  · rw [if_neg h, beq_eq_false_iff_ne.mpr h]

lemma lookup_insert (name key : Text) (schema : Schema) (properties : Properties) :
    (insert name schema properties).lookup key =
      if key = name then some schema else properties.lookup key := by
  induction properties with
  | nil => rw [insert, lookup_cons]
  | cons property rest ih =>
      obtain ⟨found, old⟩ := property
      rw [insert, lookup_cons]
      by_cases hfound : found = name
      · rw [if_pos hfound, lookup_cons, hfound]
        split_ifs <;> rfl
      · rw [if_neg hfound, lookup_cons, ih]
        by_cases hkey : key = found
        · rw [if_pos hkey, if_pos hkey, if_neg (hkey ▸ hfound)]
        · rw [if_neg hkey, if_neg hkey]

/-- **Properties put together from a list**: each name stands where it first occurs, with the schema of its
last occurrence. -/
structure IsMergeOf (all merged : Properties) : Prop where
  /-- Each name stands where it first occurs. -/
  names_eq : merged.map Prod.fst = (all.map Prod.fst).eraseDups
  /-- Its schema is the one of its last occurrence. -/
  lookup_eq : ∀ name, merged.lookup name = all.reverse.lookup name

lemma isMergeOf_update (all : Properties) : IsMergeOf all (Properties.update [] all) where
  names_eq := names_update all
  lookup_eq name := by
    induction all using List.reverseRecOn with
    | nil => rfl
    | append_singleton rest property ih =>
        rw [update_concat, lookup_insert, ih, List.reverse_concat, lookup_cons]

end Properties

/-! ## Members put together -/

namespace Schema

/-- The properties of some schemas, one after another. -/
def allProperties (schemas : List Schema) : Properties :=
  schemas.flatMap fun schema => schema.properties?.getD []

lemma allProperties_append (schemas more : List Schema) :
    allProperties (schemas ++ more) = allProperties schemas ++ allProperties more :=
  List.flatMap_append

lemma allProperties_cons (schema : Schema) (rest : List Schema) :
    allProperties (schema :: rest) = schema.properties?.getD [] ++ allProperties rest := rfl

/-- **The merged object has the properties of the members and its own**, put together in this order. -/
lemma mergeMembers_eq (declared : Declared) (schemas : List Schema) (own : Properties) :
    mergeMembers declared schemas own =
      .object declared (Properties.update [] (allProperties schemas ++ own)) := by
  have hfold : ∀ merged : Properties, schemas.foldl (fun merged schema =>
      merged.update (schema.properties?.getD [])) merged = merged.update (allProperties schemas) := by
    induction schemas with
    | nil => exact fun _ => rfl
    | cons schema rest ih =>
        intro merged
        rw [List.foldl_cons, ih, allProperties_cons, Properties.update_append]
  rw [mergeMembers, hfold, Properties.update_append]

end Schema

namespace Resolver

open Schema

/-! ### A conjunction of nothing but members -/

/-- **The schema of a conjunction that declares nothing but its members.** -/
def gather (schemas : List Schema) : Schema :=
  (lone? schemas).getD (mergeMembers .none schemas [])

section

variable {schemas more : List Schema}

lemma lone_eq_none_of_length (h : schemas.length ≠ 1) : lone? schemas = none := by
  unfold lone?
  split
  · exact (h rfl).elim
  · rfl

lemma properties_gather (schemas : List Schema) :
    (gather schemas).properties?.getD [] = Properties.update [] (allProperties schemas) := by
  rw [gather]
  cases hlone : lone? schemas with
  | some member =>
      obtain ⟨rfl, hkind⟩ := lone?_eq_some_iff.mp hlone
      rw [Option.getD_some, allProperties_cons, hkind]
      rfl
  | none =>
      rw [Option.getD_none, mergeMembers_eq, List.append_nil]
      rfl

/-- A conjunction in a conjunction is all of it exactly if one of its members is. -/
lemma lone_gather (front : List Schema) (schema : Schema) (rest back : List Schema) :
    lone? (front ++ gather (schema :: rest) :: back) = lone? (front ++ (schema :: rest) ++ back) := by
  by_cases hothers : front = [] ∧ back = []
  · obtain ⟨rfl, rfl⟩ := hothers
    rw [List.nil_append, List.nil_append, List.append_nil, gather]
    cases hlone : lone? (schema :: rest) with
    | some member =>
        obtain ⟨hsingle, -⟩ := lone?_eq_some_iff.mp hlone
        rw [Option.getD_some, ← hsingle, hlone]
    | none =>
        rw [Option.getD_none, mergeMembers_eq]
        rfl
  · -- with others around it neither list has one member only
    rw [lone_eq_none_of_length, lone_eq_none_of_length]
    all_goals
      intro hlength
      refine hothers ⟨?_, ?_⟩ <;> refine List.eq_nil_of_length_eq_zero ?_ <;>
        simp only [List.length_append, List.length_cons] at hlength <;> omega

/-- Members in a conjunction of their own give the properties that they give by themselves. -/
lemma update_allProperties_gather (front middle back : List Schema) (own : Properties) :
    Properties.update [] (allProperties (front ++ gather middle :: back) ++ own) =
      Properties.update [] (allProperties (front ++ middle ++ back) ++ own) := by
  simp only [allProperties_append, allProperties_cons, properties_gather, Properties.update_append,
    Properties.update_update]

end

section

variable (r : Resolver) (depth : Int)

/-- A conjunction in a conjunction makes no difference when members are put together. -/
lemma conjoinedAt_gather (raw : Entries) (front : List Schema) (schema : Schema)
    (rest back : List Schema) :
    r.conjoinedAt depth raw (front ++ gather (schema :: rest) :: back) =
      r.conjoinedAt depth raw (front ++ (schema :: rest) ++ back) := by
  have hmerge (own : Properties) :
      mergeMembers (Declared.ofEntries raw) (front ++ gather (schema :: rest) :: back) own =
        mergeMembers (Declared.ofEntries raw) (front ++ (schema :: rest) ++ back) own := by
    rw [mergeMembers_eq, mergeMembers_eq, update_allProperties_gather]
  unfold conjoinedAt
  rw [lone_gather]
  split
  · rfl
  · exact bind_congr fun own => congrArg pure (hmerge own)

end

end Resolver

/-! ## Conjunctions of values -/

/-- **A mapping with other members of its conjunction.** -/
def Entries.conjoining (raw : Entries) (members : List Value) : Entries :=
  raw.insert (.text "allOf") (.list members)

section

variable {raw : Entries} {members : List Value}

lemma items?_conjoining : (raw.conjoining members).items? "allOf" = some members := by
  rw [Entries.items?, Entries.conjoining, Entries.get?_insert_self]

lemma get?_conjoining {key : Text} (h : ("allOf" : Text) ≠ key) :
    (raw.conjoining members).get? key = raw.get? key :=
  Entries.get?_insert_of_ne h _ raw

lemma ofEntries_conjoining : Declared.ofEntries (raw.conjoining members) = Declared.ofEntries raw := by
  simp only [Declared.ofEntries, Entries.items?, get?_conjoining (by decide : ("allOf" : Text) ≠ "example"),
    get?_conjoining (by decide : ("allOf" : Text) ≠ "examples"),
    get?_conjoining (by decide : ("allOf" : Text) ≠ "enum")]

lemma ofProperties_conjoining : Row.ofProperties (raw.conjoining members) = Row.ofProperties raw := by
  simp only [Row.ofProperties, Entries.section?,
    get?_conjoining (by decide : ("allOf" : Text) ≠ "properties")]

/-- A mapping with members is their conjunction, unless it is a reference. -/
lemma form_conjoining (hraw : ∀ pointer, raw.get? "$ref" ≠ some (.text pointer))
    (hmembers : members ≠ []) :
    (Value.map (raw.conjoining members)).form = .conjunction (raw.conjoining members) members := by
  obtain ⟨first, rest, rfl⟩ := List.exists_cons_of_ne_nil hmembers
  rw [Value.form_of_no_reference, Form.ofSchema, items?_conjoining]
  intro pointer
  rw [get?_conjoining (by decide)]
  exact hraw pointer

end

namespace Resolver

open Schema

variable {r : Resolver} {depth : Int} {raw : Entries}

lemma ownAt_conjoining (members : List Value) :
    r.ownAt depth (raw.conjoining members) = r.ownAt depth raw := by
  rw [ownAt, ownAt, ofProperties_conjoining]

lemma conjoinedAt_conjoining (members : List Value) :
    r.conjoinedAt depth (raw.conjoining members) = r.conjoinedAt depth raw := by
  funext schemas
  rw [conjoinedAt, conjoinedAt, ofEntries_conjoining, ownAt_conjoining]

lemma resolve_conjoining (hraw : ∀ pointer, raw.get? "$ref" ≠ some (.text pointer))
    {members : List Value} (hmembers : members ≠ []) :
    r.resolve depth (.map (raw.conjoining members)) =
      r.membersAt depth members >>= r.conjoinedAt depth raw := by
  rw [resolve_eq, form_conjoining hraw hmembers, resolveForm, conjoinedAt_conjoining]

/-- A conjunction that declares nothing but its members. -/
def conjunctionOf (members : List Value) : Value := .map [(.text "allOf", .list members)]

lemma resolve_conjunctionOf {members : List Value} (hmembers : members ≠ []) :
    r.resolve depth (conjunctionOf members) =
      (do return gather (← r.membersAt depth members)) := by
  have hraw : ∀ pointer, Entries.get? "$ref" [] ≠ some (.text pointer) := by rintro _ ⟨⟩
  have hresolve : r.resolve depth (.map (Entries.conjoining [] members)) =
      r.membersAt depth members >>= r.conjoinedAt depth [] := resolve_conjoining hraw hmembers
  refine hresolve.trans (bind_congr fun schemas => ?_)
  rw [conjoinedAt, gather]
  cases lone? schemas with
  | some member => rfl
  | none => rfl

/-- **Members in a conjunction of their own can stand by themselves**: what is resolved and what is
remarked is the same. -/
theorem resolve_conjoining_nested (r : Resolver) (depth : Int) (raw : Entries)
    (front : List Value) {middle : List Value} (hmiddle : middle ≠ []) (back : List Value) :
    r.resolve depth (.map (raw.conjoining (front ++ conjunctionOf middle :: back))) =
      r.resolve depth (.map (raw.conjoining (front ++ middle ++ back))) := by
  by_cases href : ∃ pointer, raw.get? "$ref" = some (.text pointer)
  · -- a reference leads to the same place, whatever else the mapping holds
    obtain ⟨pointer, href⟩ := href
    have hform (members : List Value) :
        (Value.map (raw.conjoining members)).form = .reference pointer :=
      Value.form_of_reference ((get?_conjoining (by decide)).trans href)
    rw [resolve_eq, resolve_eq, hform, hform]
  · have hraw : ∀ pointer, raw.get? "$ref" ≠ some (.text pointer) := fun pointer h => href ⟨pointer, h⟩
    obtain ⟨first, rest, rfl⟩ := List.exists_cons_of_ne_nil hmiddle
    rw [resolve_conjoining hraw (by simp), resolve_conjoining hraw (by simp)]
    simp only [membersAt_append, membersAt_cons, resolve_conjunctionOf hmiddle, bind_assoc, pure_bind,
      conjoinedAt_gather]

/-! ## What a conjunction is resolved to -/

/-- **What a mapping with members is resolved to.** -/
inductive Conjoined (r : Resolver) (depth : Int) (raw : Entries) (members : List Value) :
    Schema → Prop where
  /-- A single member that is no object is all of it, apart from an example. -/
  | lone {value : Value} {member : Schema} (hmembers : members = [value])
    (hmember : (r.resolve depth value).outcome = .ok member) (hkind : member.properties? = none) :
    Conjoined r depth raw members (member.withExample (Declared.ofEntries raw).example?)
  /-- Otherwise the properties of the members and then those that the mapping declares itself are put
  together. -/
  | merged {schemas : List Schema} {own properties : Properties}
    (hmembers : List.Forall₂ (fun member schema => (r.resolve depth member).outcome = .ok schema)
      members schemas)
    (hobject : ∀ member, schemas = [member] → member.properties?.isSome = true)
    (hown : List.Forall₂ (fun entry property => entry.1 = .ok property.1 ∧
      (r.resolve (depth + 1) entry.2).outcome = .ok property.2) (Row.ofProperties raw) own)
    (hmerge : Properties.IsMergeOf (allProperties schemas ++ own) properties) :
    Conjoined r depth raw members (.object (Declared.ofEntries raw) properties)

lemma cases_of_conjoining (hraw : ∀ pointer, raw.get? "$ref" ≠ some (.text pointer))
    {members : List Value} (hmembers : members ≠ []) {schema : Schema}
    (h : (r.resolve depth (.map (raw.conjoining members))).outcome = .ok schema) :
    r.Conjoined depth raw members schema := by
  rw [resolve_conjoining hraw hmembers] at h
  obtain ⟨schemas, hschemas, h⟩ := Report.exists_of_bind h
  have hall := forall₂_of_membersAt hschemas
  cases hlone : lone? schemas with
  | some member =>
      rw [conjoinedAt_of_lone hlone] at h
      obtain rfl := Except.ok.inj h
      obtain ⟨value, rfl, hvalue, hkind⟩ := exists_of_lone hschemas hlone
      exact .lone rfl hvalue hkind
  | none =>
      rw [conjoinedAt_of_merged hlone] at h
      obtain ⟨own, hown, h⟩ := Report.exists_of_bind h
      obtain rfl := Except.ok.inj h
      obtain ⟨row, hrow, hown⟩ := Report.exists_of_bind hown
      obtain rfl := Except.ok.inj hown
      rw [mergeMembers_eq, Properties.update_append, Properties.update_update,
        ← Properties.update_append]
      refine .merged hall ?_ (forall₂_of_row hrow) (Properties.isMergeOf_update _)
      rintro member rfl
      rw [lone?] at hlone
      split_ifs at hlone with hnone
      exact Option.isSome_iff_ne_none.mpr fun h => hnone (Option.isNone_iff_eq_none.mpr h)

/-- **Conjunctions are merged.**  Members in a conjunction of their own can stand by themselves, and what
comes out has each property where it first occurs, as it last occurs. -/
theorem conjunctions_merged (r : Resolver) (depth : Int) (raw : Entries) :
    (∀ front middle back : List Value, middle ≠ [] →
      r.resolve depth (.map (raw.conjoining (front ++ conjunctionOf middle :: back))) =
        r.resolve depth (.map (raw.conjoining (front ++ middle ++ back)))) ∧
      ∀ members, members ≠ [] → (∀ pointer, raw.get? "$ref" ≠ some (.text pointer)) →
        ∀ schema, (r.resolve depth (.map (raw.conjoining members))).outcome = .ok schema →
          r.Conjoined depth raw members schema :=
  ⟨fun front _ back hmiddle => resolve_conjoining_nested r depth raw front hmiddle back,
    fun _ hmembers hraw _ h => cases_of_conjoining hraw hmembers h⟩

/-- A mapping that declares a single property, of a type. -/
def declaring (name type : Text) : Entries :=
  [(.text "properties", .map [(.text name, .map [(.text "type", .text type)])])]

/-- Its own properties are that one. -/
lemma ownAt_declaring {name type : Text} {schema : Schema}
    (h : ∀ depth, r.resolve depth (.map [(.text "type", .text type)]) = pure schema) :
    r.ownAt depth (declaring name type) = pure [(name, schema)] := by
  have hrow : Row.ofProperties (declaring name type) =
    [(.ok name, .map [(.text "type", .text type)])] := rfl
  rw [ownAt, hrow, row, row, h]
  rfl

lemma resolve_declaring {name type : Text} {schema : Schema}
    (h : ∀ depth, r.resolve depth (.map [(.text "type", .text type)]) = pure schema) :
    r.resolve depth (.map (declaring name type)) = pure (.object .none [(name, schema)]) := by
  have hform : (Value.map (declaring name type)).form = .object (declaring name type) := rfl
  rw [resolve_eq, hform, resolveForm, ownAt_declaring h]
  rfl

/-- Of two types for a name the second counts, in the place of the first. -/
theorem conjunctions_merged_twice :
    let r : Resolver := ⟨.null, usualDepth⟩
    let member (name type : Text) : Value := .map (declaring name type)
    let raw := declaring "shipped" "boolean"
    let middle := [member "number" "string", member "customer" "string", .null]
    let back := [member "number" "integer"]
    let merged : Schema := .object .none
      [("number", .integer .none none none), ("customer", .string .none none),
        ("shipped", .boolean .none)]
    middle ≠ [] ∧ (∀ pointer, raw.get? "$ref" ≠ some (.text pointer)) ∧
      (r.resolve 0 (.map (raw.conjoining (conjunctionOf middle :: back)))).outcome = .ok merged ∧
        r.Conjoined 0 raw (middle ++ back) merged := by
  intro r member raw middle back merged
  have hraw : ∀ pointer, raw.get? "$ref" ≠ some (.text pointer) := by rintro _ ⟨⟩
  have hstring (depth : Int) : r.resolve depth (.map [(.text "type", .text "string")]) =
      pure (.string .none none) := by rw [resolve_eq]; rfl
  have hinteger (depth : Int) : r.resolve depth (.map [(.text "type", .text "integer")]) =
      pure (.integer .none none none) := by rw [resolve_eq]; rfl
  have hboolean (depth : Int) : r.resolve depth (.map [(.text "type", .text "boolean")]) =
      pure (.boolean .none) := by rw [resolve_eq]; rfl
  have hnull : r.resolve 0 .null = pure .emptyObject := by rw [resolve_eq]; rfl
  have hmerged : r.resolve 0 (.map (raw.conjoining (middle ++ back))) = pure merged := by
    have hmembers : r.membersAt 0 [] = pure [] := rfl
    rw [resolve_conjoining hraw (by simp [middle])]
    simp only [middle, back, member, List.cons_append, List.nil_append, membersAt_cons, hmembers, hnull,
      resolve_declaring hstring, resolve_declaring hinteger, pure_bind]
    rw [conjoinedAt_of_merged rfl, ownAt_declaring hboolean]
    rfl
  obtain ⟨hflat, hcases⟩ := conjunctions_merged r 0 raw
  have hmiddle : middle ≠ [] := by simp [middle]
  refine ⟨hmiddle, hraw, ?_, hcases _ (by simp [middle]) hraw _ (by rw [hmerged]; rfl)⟩
  rw [← List.nil_append (conjunctionOf middle :: back), hflat [] middle back hmiddle, List.nil_append,
    hmerged]
  rfl

end Resolver

end LoadPlan
