import LoadPlan.Proofs.Schema.Limit
import Mathlib.Data.List.Chain

/-!
# Resolution is bounded

A document can refer to itself, and still every resolution comes to an end, after no more lookups than
there are levels, and with a schema in which nothing refers to anything.

* `Schema.IsResolved` — a schema without references, at any level.
* `Resolver.countP_looksUp_le` — along a chain of calls, each made in the one before it, no more references
  are looked up than levels are left.
* `Resolver.run_of_limit` — at the limit the document makes no difference.
* **`Resolver.resolve_bounded`** — all of this, for values and for references.
* `Resolver.resolve_longName` — a resolution can stop without a lookup.
-/

namespace LoadPlan

/-! ## Schemas without references -/

namespace Schema

mutual

/-- **A schema without references**, at any level. -/
def IsResolved : Schema → Prop
  | object _ properties => PropertiesResolved properties
  | array _ items => ItemResolved items
  | reference _ _ => False
  | _ => True

def PropertiesResolved : List (Text × Schema) → Prop
  | [] => True
  | (_, schema) :: rest => schema.IsResolved ∧ PropertiesResolved rest

def ItemResolved : Option Schema → Prop
  | none => True
  | some schema => schema.IsResolved

end

variable {schema : Schema} {properties more : Properties}

lemma IsResolved.withExample (h : schema.IsResolved) (example? : Option Value) :
    (schema.withExample example?).IsResolved := by
  cases example? with
  | none => exact h
  | some value => cases schema <;> exact h

lemma PropertiesResolved.of_mem (h : PropertiesResolved properties) :
    ∀ entry ∈ properties, entry.2.IsResolved := by
  induction properties with
  | nil => exact List.forall_mem_nil _
  | cons first rest ih => exact List.forall_mem_cons.mpr ⟨h.1, ih h.2⟩

lemma PropertiesResolved.insert (h : PropertiesResolved properties) (name : Text)
    (hschema : schema.IsResolved) : PropertiesResolved (Properties.insert name schema properties) := by
  induction properties with
  | nil => exact ⟨hschema, h⟩
  | cons first rest ih =>
      obtain ⟨key, old⟩ := first
      rw [PropertiesResolved] at h
      rw [Properties.insert]
      split_ifs
      · exact ⟨hschema, h.2⟩
      · exact ⟨h.1, ih h.2⟩

lemma PropertiesResolved.update (h : PropertiesResolved properties)
    (hmore : PropertiesResolved more) : PropertiesResolved (properties.update more) := by
  induction more generalizing properties with
  | nil => exact h
  | cons first rest ih =>
      rw [PropertiesResolved] at hmore
      exact ih (h.insert first.1 hmore.1) hmore.2

lemma IsResolved.of_properties? (h : schema.IsResolved) :
    PropertiesResolved (schema.properties?.getD []) := by
  cases schema with
  | object declared properties => exact h
  | _ => exact trivial

lemma isResolved_mergeMembers {declared : Declared} {members : List Schema} {own : Properties}
    (hmembers : ∀ member ∈ members, member.IsResolved) (hown : PropertiesResolved own) :
    (mergeMembers declared members own).IsResolved := by
  have hfold : ∀ {merged : Properties}, PropertiesResolved merged →
      PropertiesResolved (members.foldl (fun merged member =>
        Properties.update merged (member.properties?.getD [])) merged) := by
    induction members with
    | nil => exact id
    | cons first rest ih =>
        rw [List.forall_mem_cons] at hmembers
        exact fun hmerged => ih hmembers.2 (hmerged.update hmembers.1.of_properties?)
  have hnone : PropertiesResolved [] := trivial
  exact (hfold hnone).update hown

lemma isResolved_plainSchema (raw : Entries) : (plainSchema raw).IsResolved := by
  unfold plainSchema
  dsimp only
  split
  · exact trivial
  · split_ifs <;> exact trivial

end Schema

/-! ## What is resolved -/

namespace Resolver

section

variable {r : Resolver} {depth : Int}

lemma ensures_row {row : Row}
    (h : ∀ c ∈ r.reached depth row, (r.run c).Ensures Schema.IsResolved) :
    (r.row depth row).Ensures Schema.PropertiesResolved := by
  induction row with
  | nil => exact .pure trivial
  | cons entry rest ih =>
      obtain ⟨fault | name, raw⟩ := entry
      · rintro properties ⟨⟩
      · rw [forall_mem_reached_cons] at h
        rw [row_cons_ok]
        refine h.1.bind fun schema houtcome hschema => ?_
        refine (ih (h.2 ⟨schema, houtcome⟩)).bind fun more _ hmore => ?_
        exact .pure ⟨hschema, hmore⟩

lemma ensures_ownAt {raw : Entries}
    (h : ∀ c ∈ r.reached (depth + 1) (.ofProperties raw), (r.run c).Ensures Schema.IsResolved) :
    (r.ownAt depth raw).Ensures Schema.PropertiesResolved := by
  have hnone : Schema.PropertiesResolved [] := trivial
  exact (ensures_row h).bind fun own _ hown => .pure (hnone.update hown)

lemma ensures_membersAt {members : List Value}
    (h : ∀ c ∈ r.reached depth (.ofMembers members), (r.run c).Ensures Schema.IsResolved) :
    (r.membersAt depth members).Ensures fun schemas => ∀ schema ∈ schemas, schema.IsResolved := by
  refine (ensures_row h).bind fun row _ hrow => .pure fun schema hschema => ?_
  obtain ⟨entry, hentry, rfl⟩ := List.mem_map.mp hschema
  exact hrow.of_mem entry hentry

lemma ensures_conjunction {raw : Entries} {members : List Value}
    (hmembers : ∀ c ∈ r.reached depth (.ofMembers members), (r.run c).Ensures Schema.IsResolved)
    (hown : ∀ c ∈ r.reached (depth + 1) (r.ownRow depth (.conjunction raw members)),
      (r.run c).Ensures Schema.IsResolved) :
    (r.resolveForm depth (.conjunction raw members)).Ensures Schema.IsResolved := by
  refine (ensures_membersAt hmembers).bind fun schemas houtcome hschemas => ?_
  cases hlone : lone? schemas with
  | some member =>
      rw [conjoinedAt_of_lone hlone]
      exact .pure ((hschemas member (mem_of_lone hlone)).withExample _)
  | none =>
      rw [ownRow_of_merged houtcome hlone] at hown
      rw [conjoinedAt_of_merged hlone]
      exact (ensures_ownAt hown).bind fun own _ h => .pure (Schema.isResolved_mergeMembers hschemas h)

/-- A form that is no reference has a schema without references, if what is resolved for it has. -/
lemma ensures_resolveForm {form : Form} (h : ∀ pointer, form ≠ .reference pointer)
    (hinner : ∀ c ∈ r.inner depth form, (r.run c).Ensures Schema.IsResolved)
    (hown : ∀ c ∈ r.reached (depth + 1) (r.ownRow depth form), (r.run c).Ensures Schema.IsResolved) :
    (r.resolveForm depth form).Ensures Schema.IsResolved := by
  cases form with
  | unknown => exact .pure trivial
  | reference pointer => exact (h pointer rfl).elim
  | conjunction raw members => exact ensures_conjunction hinner hown
  | choice raw alternative =>
      refine (hinner _ (List.mem_singleton_self _)).bind fun schema _ hschema => ?_
      exact .pure (hschema.withExample _)
  | object raw => exact (ensures_ownAt hown).bind fun own _ h => .pure h
  | array raw items =>
      cases items with
      | none => exact .pure trivial
      | some items =>
          refine (hinner _ (List.mem_singleton_self _)).bind fun schema _ hschema => ?_
          exact .pure hschema
  | plain raw => exact .pure (Schema.isResolved_plainSchema raw)

/-- **What comes out of a resolution has no references in it.** -/
lemma ensures_run (r : Resolver) (call : Call) : (r.run call).Ensures Schema.IsResolved := by
  have hempty : Schema.emptyObject.IsResolved := trivial
  exact ensures_of_forms hempty (fun _ _ => ensures_resolveForm) call

end

/-! ## Chains of calls -/

section

variable {r : Resolver} {call c : Call}

/-- Whether a call looks a reference up. -/
def looksUp (r : Resolver) (call : Call) : Bool :=
  match call.raw.form with
  | .reference _ => call.depth < r.maxDepth
  | _ => false

lemma looksUp_iff : r.looksUp call = true ↔ ∃ pointer, r.LooksUp call pointer := by
  unfold looksUp LooksUp
  cases call.raw.form <;> simp

/-- Calls do not lead back to a smaller depth. -/
lemma le_depth_of_mem_nested (h : c ∈ r.nested call) : call.depth ≤ c.depth := by
  rcases mem_nested h with ⟨pointer, -, hdepth⟩ | ⟨-, hdepth, -⟩
  · rw [hdepth]
    omega
  · exact hdepth

/-- A reference that is looked up leads one level deeper. -/
lemma depth_of_mem_nested (hlook : r.looksUp call = true) (h : c ∈ r.nested call) :
    c.depth = call.depth + 1 := by
  obtain ⟨pointer, hform, -⟩ := looksUp_iff.mp hlook
  rcases mem_nested h with ⟨-, -, hdepth⟩ | ⟨hpart, -⟩
  · exact hdepth
  · rw [hform] at hpart
    cases hpart

/-- **Along a chain of calls**, each made in the one before it, no more references are looked up than
levels are left. -/
lemma countP_looksUp_le {chain : List Call}
    (h : List.IsChain (fun outer c => c ∈ r.nested outer) (call :: chain)) :
    (call :: chain).countP r.looksUp ≤ r.levelsAt call.depth := by
  -- a lookup takes one level away, and nothing gives one back
  induction chain generalizing call with
  | nil =>
      rw [List.countP_singleton]
      split_ifs with hlook
      · obtain ⟨pointer, -, hlimit⟩ := looksUp_iff.mp hlook
        rw [levelsAt_of_lt hlimit]
        exact Nat.le_add_left 1 _
      · exact Nat.zero_le _
  | cons next rest ih =>
      rw [List.isChain_cons_cons] at h
      have hrest := ih h.2
      rw [List.countP_cons]
      split_ifs with hlook
      · obtain ⟨pointer, -, hlimit⟩ := looksUp_iff.mp hlook
        rw [depth_of_mem_nested hlook h.1] at hrest
        rw [levelsAt_of_lt hlimit]
        exact Nat.succ_le_succ hrest
      · exact Nat.le_trans hrest (levelsAt_anti (le_depth_of_mem_nested h.1))

end

/-! ## At the limit -/

/-- A call at the limit is repeated in every document. -/
lemma repeatedBy_of_limit (r : Resolver) (document : Value) (call : Call) :
    r.maxDepth ≤ call.depth →
      (r.run call).RepeatedBy (fun _ => True) (fun _ => False)
        ((Resolver.mk document r.maxDepth).run call) := by
  induction call using call_induction (r := r) with
  | step call ih =>
    intro hlimit
    cases r.course call with
    | found h _ | missing h _ | failed h _ => exact absurd h.2 (Int.not_lt.mpr hlimit)
    | limited h hshown =>
        have hother : (Resolver.mk document r.maxDepth).IsLimited call _ := h
        rw [run_of_limited h hshown, run_of_limited hother hshown]
        exact .refl _
    | unnamed h hshown =>
        have hother : (Resolver.mk document r.maxDepth).IsLimited call _ := h
        rw [run_of_unnamed h hshown, run_of_unnamed hother hshown]
        exact .refl _
    | direct hform =>
        exact repeatedBy_run hform fun c hc =>
          ih c hc (Int.le_trans hlimit (le_depth_of_mem_nested hc))

/-- **At the limit the document makes no difference.** -/
lemma run_of_limit {r : Resolver} {call : Call} (h : r.maxDepth ≤ call.depth) (document : Value) :
    (Resolver.mk document r.maxDepth).run call = r.run call := by
  rcases repeatedBy_of_limit r document call h (fun _ _ => trivial) with hsame | ⟨_, -, hfalse⟩
  · exact hsame
  · exact hfalse.elim

/-! ## Bounded resolutions -/

/-- **A report of a resolution that is bounded**: it is that of a call. -/
structure Bounded (r : Resolver) (call : Call) (report : Report Schema) : Prop where
  /-- It comes to an end exactly if no lookup fails, the names of the properties have texts, and the
  limit has one if it is remarked on. -/
  returns_iff : report.Returns ↔ ∀ c ∈ r.calls call, r.Passes c
  /-- There is no reference in what comes out. -/
  isResolved : ∀ schema, report.outcome = .ok schema → schema.IsResolved
  /-- Along a chain of calls no more references are looked up than levels are left. -/
  lookups_le : ∀ chain, List.IsChain (fun outer c => c ∈ r.nested outer) (call :: chain) →
    ((call :: chain).countP r.looksUp : Int) ≤ max 0 (r.maxDepth - call.depth)
  /-- At the limit the document makes no difference. -/
  alone : r.maxDepth ≤ call.depth → ∀ document, (Resolver.mk document r.maxDepth).run call = report

lemma bounded_run (r : Resolver) (call : Call) : r.Bounded call (r.run call) where
  returns_iff := returns_iff r call
  isResolved := ensures_run r call
  lookups_le chain hchain := by
    have hcount := countP_looksUp_le hchain
    unfold levelsAt at hcount
    omega
  alone := run_of_limit

/-- **Every resolution is bounded**, that of a value and that of a reference. -/
theorem resolve_bounded (r : Resolver) (depth : Int) :
    (∀ raw, r.Bounded ⟨depth, raw⟩ (r.resolve depth raw)) ∧
      ∀ declared pointer, r.Bounded ⟨depth, referring pointer⟩
        (r.resolveSchema depth (.reference declared pointer)) :=
  ⟨fun raw => bounded_run r ⟨depth, raw⟩, fun _ pointer => bounded_run r ⟨depth, referring pointer⟩⟩

/-- A schema with a property whose name is a number. -/
def numberNamed (i : Int) : Value := .map [(.text "properties", .map [(.int i, .map [])])]

section

variable {r : Resolver} {depth i : Int} {fault : Fault}

lemma form_numberNamed (i : Int) :
    (numberNamed i).form = .object [(.text "properties", .map [(.int i, .map [])])] := rfl

lemma ofProperties_numberNamed (h : integerText i = .error fault) :
    Row.ofProperties [(.text "properties", .map [(.int i, .map [])])] = [(.error fault, .map [])] := by
  have hshown : (Value.int i).shown = .error fault := by
    rw [Value.shown, Value.literal, h]
    all_goals simp
  have hsection : Entries.section? [(.text "properties", .map [(.int i, .map [])])] "properties" =
      some [(.int i, .map [])] := rfl
  rw [Row.ofProperties, hsection, Option.getD_some, List.map_singleton]
  dsimp only
  rw [hshown]

/-- A number without text stops the resolution before anything else is resolved. -/
lemma calls_numberNamed (h : integerText i = .error fault) :
    r.calls ⟨depth, numberNamed i⟩ = [⟨depth, numberNamed i⟩] := by
  rw [calls_eq, nested, form_numberNamed, ownRow, ofProperties_numberNamed h]
  rfl

lemma resolve_numberNamed (h : integerText i = .error fault) :
    (r.resolve depth (numberNamed i)).outcome = .error fault := by
  rw [resolve_eq, form_numberNamed, resolveForm, ownAt, ofProperties_numberNamed h]
  rfl

end

/-- The least number that is too long to be written. -/
def longName : Value := numberNamed (Nat.pow 10 maxDigits : Nat)

/-- **A resolution can stop without a lookup**, at the name of a property. -/
theorem resolve_longName :
    (∀ c ∈ (Resolver.mk .null usualDepth).calls ⟨0, longName⟩, ∀ pointer,
      ¬ (Resolver.mk .null usualDepth).LooksUp c pointer) ∧
        ((Resolver.mk .null usualDepth).resolve 0 longName).outcome = .error .tooManyDigits := by
  have hlong : integerText (Nat.pow 10 maxDigits : Nat) = .error .tooManyDigits := by
    rcases Value.spelled_integerText (Nat.pow 10 maxDigits : Nat) with ⟨hshort, -⟩ | ⟨-, hfault⟩
    · rw [decide_eq_true_iff, Int.natAbs_natCast] at hshort
      exact absurd hshort (Nat.lt_irrefl _)
    · exact hfault
  refine ⟨?_, resolve_numberNamed hlong⟩
  rw [longName, calls_numberNamed hlong, List.forall_mem_singleton]
  rintro pointer ⟨hform, -⟩
  cases hform

end Resolver

end LoadPlan
