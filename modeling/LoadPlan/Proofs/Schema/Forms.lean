import LoadPlan.Proofs.Schema.Kinds
import Mathlib.Data.List.Forall2

/-!
# Resolution by depth

What the resolution of a value comes to at a depth, said once for all values.

* `Form`, `Value.form_of` — what a value is taken for: a reference, a conjunction, a choice, an object, an
  array, none of these, or no schema at all.
* `Row`, `Resolver.row` — values that are resolved one after another at the same depth.
* `Resolver.resolveForm` — the schema of each form, from the schemas of its parts.
* **`Resolver.resolve_eq`** — the schema of a value is that of its form.
-/

namespace LoadPlan

/-! ## Forms -/

/-- **What a value is taken for.** -/
inductive Form where
  /-- No mapping, which says nothing. -/
  | unknown
  /-- A reference. -/
  | reference (pointer : Text)
  /-- A conjunction of at least one member. -/
  | conjunction (raw : Entries) (members : List Value)
  /-- A choice, for which its first alternative is taken. -/
  | choice (raw : Entries) (alternative : Value)
  /-- An object. -/
  | object (raw : Entries)
  /-- An array, with what its items are if that is a mapping. -/
  | array (raw : Entries) (items : Option Entries)
  /-- A mapping that has no parts. -/
  | plain (raw : Entries)

/-- What a mapping is taken for that is no reference. -/
def Form.ofSchema (raw : Entries) : Form :=
  match raw.items? "allOf" with
  | some (first :: rest) => conjunction raw (first :: rest)
  | _ =>
    match Resolver.choice? raw with
    | some alternative => choice raw alternative
    | none =>
      if isObject raw then object raw
      else if isArray raw then array raw (raw.section? "items")
      else plain raw

/-- What a mapping can be taken for that is no reference. -/
lemma Form.ofSchema_cases (raw : Entries) :
    (∃ members, ofSchema raw = conjunction raw members) ∨
      (∃ alternative, ofSchema raw = choice raw alternative) ∨ ofSchema raw = object raw ∨
        (∃ items, ofSchema raw = array raw items) ∨ ofSchema raw = plain raw := by
  unfold ofSchema
  split
  · exact .inl ⟨_, rfl⟩
  · split
    · exact .inr (.inl ⟨_, rfl⟩)
    · split_ifs
      · exact .inr (.inr (.inl rfl))
      · exact .inr (.inr (.inr (.inl ⟨_, rfl⟩)))
      · exact .inr (.inr (.inr (.inr rfl)))

/-- **The form of a value.** -/
def Value.form : Value → Form
  | map raw =>
    match Entries.get? "$ref" raw with
    | some (text pointer) => .reference pointer
    | _ => .ofSchema raw
  | _ => .unknown

lemma Value.form_of_reference {raw : Entries} {pointer : Text}
    (h : raw.get? "$ref" = some (.text pointer)) : (map raw).form = .reference pointer := by
  rw [form, h]

lemma Value.form_of_no_reference {raw : Entries}
    (h : ∀ pointer, raw.get? "$ref" ≠ some (.text pointer)) : (map raw).form = .ofSchema raw := by
  rw [form]
  split
  · exact (h _ ‹_›).elim
  · rfl

/-- What a form says of the value that is taken for it. -/
def Form.Of (value : Value) : Form → Prop
  | unknown => True
  | reference pointer => ∃ raw : Entries, value = .map raw ∧ raw.get? "$ref" = some (.text pointer)
  | conjunction raw members => value = .map raw ∧ raw.items? "allOf" = some members
  | choice raw alternative => value = .map raw ∧ Resolver.choice? raw = some alternative
  | object raw => value = .map raw
  | array raw items => value = .map raw ∧ raw.section? "items" = items
  | plain raw => value = .map raw

lemma Form.of_ofSchema (raw : Entries) : (Form.ofSchema raw).Of (.map raw) := by
  unfold Form.ofSchema
  split
  · exact ⟨rfl, ‹_›⟩
  · split
    · exact ⟨rfl, ‹_›⟩
    · split_ifs
      · rfl
      · exact ⟨rfl, rfl⟩
      · rfl

lemma Value.form_of (value : Value) : value.form.Of value := by
  cases value with
  | map raw =>
      unfold form
      dsimp only
      split
      · exact ⟨raw, rfl, ‹_›⟩
      · exact Form.of_ofSchema raw
  | _ => exact trivial

/-! ## Rows -/

/-- Values in a row, each with its name.  Names are texts, unless one is too long. -/
abbrev Row := List (Except Fault Text × Value)

namespace Row

/-- The members of a conjunction, which have no names. -/
def ofMembers (members : List Value) : Row := members.map fun raw => (.ok [], raw)

/-- The properties that a mapping declares itself. -/
def ofProperties (raw : Entries) : Row :=
  ((raw.section? "properties").getD []).map fun (name, value) => (name.shown, value)

end Row

namespace Resolver

/-- The schemas of a row, one after another. -/
def row (r : Resolver) (depth : Int) : Row → Report Properties
  | [] => return []
  | (name, raw) :: rest => do
    let shown ← Report.ofExcept name
    let schema ← r.resolve depth raw
    return (shown, schema) :: (← r.row depth rest)

/-- The properties that a mapping declares itself, one level deeper than the mapping. -/
def ownAt (r : Resolver) (depth : Int) (raw : Entries) : Report Properties := do
  return Properties.update [] (← r.row (depth + 1) (.ofProperties raw))

/-- The schemas of the members of a conjunction. -/
def membersAt (r : Resolver) (depth : Int) (members : List Value) : Report (List Schema) := do
  return (← r.row depth (.ofMembers members)).map Prod.snd

/-- The member that is all of a conjunction: a single one that is no object. -/
def lone? : List Schema → Option Schema
  | [member] => if member.properties?.isNone then some member else none
  | _ => none

lemma lone?_eq_some_iff {schemas : List Schema} {member : Schema} :
    lone? schemas = some member ↔ schemas = [member] ∧ member.properties? = none := by
  constructor
  · intro h
    unfold lone? at h
    split at h
    · split_ifs at h with hkind
      obtain rfl := Option.some.inj h
      exact ⟨rfl, Option.isNone_iff_eq_none.mp hkind⟩
    · cases h
  · rintro ⟨rfl, hkind⟩
    exact if_pos (Option.isNone_iff_eq_none.mpr hkind)

/-- The member that is all of a conjunction is one of them. -/
lemma mem_of_lone {schemas : List Schema} {member : Schema} (h : lone? schemas = some member) :
    member ∈ schemas := by
  rw [(lone?_eq_some_iff.mp h).1]
  exact List.mem_singleton_self member

/-- The schema of a conjunction from those of its members. -/
def conjoinedAt (r : Resolver) (depth : Int) (raw : Entries) (members : List Schema) :
    Report Schema :=
  match lone? members with
  | some member => return member.withExample (Declared.ofEntries raw).example?
  | none => do return mergeMembers (Declared.ofEntries raw) members (← r.ownAt depth raw)

section

variable {r : Resolver} {depth : Int} {raw : Entries} {members : List Schema}

lemma conjoinedAt_of_lone {member : Schema} (hlone : lone? members = some member) :
    r.conjoinedAt depth raw members =
      pure (member.withExample (Declared.ofEntries raw).example?) := by
  rw [conjoinedAt, hlone]

lemma conjoinedAt_of_merged (hlone : lone? members = none) :
    r.conjoinedAt depth raw members =
      (r.ownAt depth raw >>= fun own =>
        pure (mergeMembers (Declared.ofEntries raw) members own)) := by
  rw [conjoinedAt, hlone]

end

/-- **The schema of a form** at a depth. -/
def resolveForm (r : Resolver) (depth : Int) : Form → Report Schema
  | .unknown => return .emptyObject
  | .reference pointer =>
    if depth < r.maxDepth then do
      match ← Report.ofExcept (Pointer.target r.document pointer) with
      | none => unresolved pointer
      | some target => r.resolve (depth + 1) (.map target)
    else r.depthExceeded pointer
  | .conjunction raw members => r.membersAt depth members >>= r.conjoinedAt depth raw
  | .choice raw alternative => do
    return (← r.resolve depth alternative).withExample (Declared.ofEntries raw).example?
  | .object raw => do return .object (Declared.ofEntries raw) (← r.ownAt depth raw)
  | .array raw (some items) => do
    return .array (Declared.ofEntries raw) (some (← r.resolve (depth + 1) (.map items)))
  | .array raw none => return .array (Declared.ofEntries raw) none
  | .plain raw => return plainSchema raw

/-! ## Levels -/

section

variable {r : Resolver} {depth : Int}

lemma levelsAt_of_le (h : r.maxDepth ≤ depth) : r.levelsAt depth = 0 := by
  unfold levelsAt
  omega

lemma levelsAt_of_lt (h : depth < r.maxDepth) : r.levelsAt depth = r.levelsAt (depth + 1) + 1 := by
  unfold levelsAt
  omega

/-- Deeper down no more levels are left. -/
lemma levelsAt_anti {more : Int} (h : depth ≤ more) : r.levelsAt more ≤ r.levelsAt depth := by
  unfold levelsAt
  omega

lemma levelsAt_pred (r : Resolver) (depth : Int) : r.levelsAt depth - 1 = r.levelsAt (depth + 1) := by
  unfold levelsAt
  omega

end

/-! ## Forms at a depth -/

section

variable (r : Resolver) (depth : Int)

/-- The members of a conjunction are resolved one after another. -/
lemma membersAt_cons (member : Value) (rest : List Value) :
    r.membersAt depth (member :: rest) = (do
      let schema ← r.resolve depth member
      return schema :: (← r.membersAt depth rest)) := by
  have hshown : (Report.ofExcept (.ok ([] : Text))) = pure [] := rfl
  simp only [membersAt, Row.ofMembers, List.map_cons, row, hshown, pure_bind, bind_assoc]

lemma membersAt_append (members more : List Value) :
    r.membersAt depth (members ++ more) = (do
      let schemas ← r.membersAt depth members
      return schemas ++ (← r.membersAt depth more)) := by
  induction members with
  | nil =>
      have hnil : r.membersAt depth [] = pure [] := rfl
      simp only [hnil, List.nil_append, pure_bind, bind_pure]
  | cons member rest ih =>
      simp only [List.cons_append, membersAt_cons, ih, bind_assoc, pure_bind]

end

section

variable {r : Resolver} {depth : Int}

/-- A row that comes to an end holds the schema of each of its values, under its name. -/
lemma forall₂_of_row {row : Row} {properties : Properties}
    (h : (r.row depth row).outcome = .ok properties) :
    List.Forall₂ (fun entry property => entry.1 = .ok property.1 ∧
      (r.resolve depth entry.2).outcome = .ok property.2) row properties := by
  induction row generalizing properties with
  | nil =>
      obtain rfl : [] = properties := Except.ok.inj h
      exact .nil
  | cons entry rest ih =>
      obtain ⟨name, hname, h⟩ := Report.exists_of_bind h
      obtain ⟨schema, hschema, h⟩ := Report.exists_of_bind h
      obtain ⟨more, hmore, h⟩ := Report.exists_of_bind h
      obtain rfl : (name, schema) :: more = properties := Except.ok.inj h
      exact .cons ⟨hname, hschema⟩ (ih hmore)

lemma forall₂_of_membersAt {members : List Value} {schemas : List Schema}
    (h : (r.membersAt depth members).outcome = .ok schemas) :
    List.Forall₂ (fun member schema => (r.resolve depth member).outcome = .ok schema)
      members schemas := by
  obtain ⟨row, hrow, h⟩ := Report.exists_of_bind h
  obtain rfl : row.map Prod.snd = schemas := Except.ok.inj h
  have hall := forall₂_of_row hrow
  rw [Row.ofMembers, List.forall₂_map_left_iff] at hall
  exact List.forall₂_map_right_iff.mpr (hall.imp fun _ _ h => h.2)

/-- The member that is all of a conjunction is what its single value is resolved to. -/
lemma exists_of_lone {members : List Value} {schemas : List Schema} {member : Schema}
    (h : (r.membersAt depth members).outcome = .ok schemas) (hlone : lone? schemas = some member) :
    ∃ value, members = [value] ∧ (r.resolve depth value).outcome = .ok member ∧
      member.properties? = none := by
  obtain ⟨rfl, hkind⟩ := lone?_eq_some_iff.mp hlone
  cases forall₂_of_membersAt h with
  | cons hmember hrest =>
      cases hrest
      exact ⟨_, rfl, hmember, hkind⟩

end

/-! ## The schema of a value -/

section

variable (r : Resolver) (depth : Int)

lemma mappingWithin_levelsAt (raw : Entries) :
    r.mappingWithin (r.levelsAt depth) raw = r.resolve depth (.map raw) := by
  rw [resolve, within]

lemma entriesWithin_levelsAt (entries : Entries) :
    r.entriesWithin (r.levelsAt depth) entries =
      r.row depth (entries.map fun (name, value) => (name.shown, value)) := by
  induction entries with
  | nil =>
      rw [entriesWithin]
      rfl
  | cons entry rest ih =>
      obtain ⟨name, raw⟩ := entry
      rw [entriesWithin, ih]
      rfl

lemma membersWithin_levelsAt (members : List Value) :
    r.membersWithin (r.levelsAt depth) members = r.membersAt depth members := by
  induction members with
  | nil =>
      rw [membersWithin]
      rfl
  | cons member rest ih =>
      rw [membersWithin, ih, membersAt_cons]
      rfl

lemma propertiesWithin_levelsAt (raw : Entries) :
    r.propertiesWithin (r.levelsAt depth) raw = r.ownAt depth raw := by
  cases hsection : raw.section? "properties" with
  | none =>
      rw [propertiesWithin_of_none hsection, ownAt, Row.ofProperties, hsection]
      rfl
  | some entries =>
      rw [propertiesWithin_of_some hsection, levelsAt_pred, entriesWithin_levelsAt, ownAt,
        Row.ofProperties, hsection]
      rfl

lemma conjunction_levelsAt (raw : Entries) (members : List Schema) :
    r.conjunction (r.levelsAt depth) raw members = r.conjoinedAt depth raw members := by
  unfold conjunction merged conjoinedAt lone?
  rw [propertiesWithin_levelsAt]
  rcases members with _ | ⟨member, _ | ⟨second, rest⟩⟩
  · rfl
  · cases hproperties : member.properties? with
    | none => simp [hproperties]
    | some properties => simp [hproperties]
  · rfl

lemma classifyWithin_levelsAt (raw : Entries) :
    r.classifyWithin (r.levelsAt depth) raw = r.resolveForm depth (.ofSchema raw) := by
  unfold Form.ofSchema
  split
  · rename_i first rest hmembers
    rw [classifyWithin_of_members hmembers, membersWithin_levelsAt]
    exact bind_congr (conjunction_levelsAt r depth raw)
  · rename_i hsingle
    split
    · rename_i alternative hchoice
      exact classifyWithin_of_choice hsingle hchoice
    · rename_i hchoice
      rw [classifyWithin_of_single hsingle hchoice]
      split_ifs
      · rw [propertiesWithin_levelsAt]
        rfl
      · rw [levelsAt_pred]
        cases raw.section? "items" with
        | none => rfl
        | some items =>
            dsimp only
            rw [mappingWithin_levelsAt]
            rfl
      · rfl

/-- **The schema of a value is that of its form.** -/
theorem resolve_eq (raw : Value) : r.resolve depth raw = r.resolveForm depth raw.form := by
  unfold Value.form
  split
  · rename_i entries
    rw [← mappingWithin_levelsAt]
    split
    · rename_i pointer href
      rw [resolveForm]
      split_ifs with hdepth
      · rw [levelsAt_of_lt hdepth, mappingWithin_of_reference href]
        refine bind_congr fun found => ?_
        cases found with
        | none => rfl
        | some target => exact mappingWithin_levelsAt r (depth + 1) target
      · rw [levelsAt_of_le (Int.not_lt.mp hdepth), mappingWithin_of_limit href]
    · rename_i href
      rw [mappingWithin_of_no_reference href, classifyWithin_levelsAt]
  · rename_i hraw
    rw [resolve, within]
    · rfl
    · exact hraw

end

end Resolver

end LoadPlan
