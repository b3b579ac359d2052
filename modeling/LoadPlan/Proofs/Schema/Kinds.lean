import LoadPlan.Schema.Resolution
import Mathlib.Tactic.Lemma
import Mathlib.Tactic.SplitIfs

/-!
# The kinds of schemas

What the resolution of a mapping comes to, said once for each kind of mapping: a reference beyond the
limit, a reference, a conjunction, a choice, an object, an array, or none of these.
-/

namespace LoadPlan.Resolver

variable {r : Resolver} {hops : Nat} {raw : Entries}

/-- A mapping without members that it is the conjunction of. -/
def IsSingle (raw : Entries) : Prop :=
  ∀ (first : Value) (rest : List Value), raw.items? "allOf" = some (first :: rest) → False

/-- The alternative that a mapping stands for, unless it has a type. -/
def choice? (raw : Entries) : Option Value :=
  if (declaredType? raw).isSome then none else alternative? raw

/-- One object from some members and the properties of a mapping itself. -/
def merged (r : Resolver) (hops : Nat) (raw : Entries) (members : List Schema) : Report Schema := do
  return mergeMembers (Declared.ofEntries raw) members (← r.propertiesWithin hops raw)

/-- The schema of a conjunction.  A single member that is no object is all of it. -/
def conjunction (r : Resolver) (hops : Nat) (raw : Entries) : List Schema → Report Schema
  | [member] =>
    match member.properties? with
    | none => return member.withExample (Declared.ofEntries raw).example?
    | some _ => r.merged hops raw [member]
  | members => r.merged hops raw members

lemma mappingWithin_of_limit {pointer : Text} (h : raw.get? "$ref" = some (.text pointer)) :
    r.mappingWithin 0 raw = r.depthExceeded pointer := by
  rw [mappingWithin, h]

lemma mappingWithin_of_reference {pointer : Text} (h : raw.get? "$ref" = some (.text pointer)) :
    r.mappingWithin (hops + 1) raw =
      (do
        match ← Report.ofExcept (Pointer.target r.document pointer) with
        | none => unresolved pointer
        | some target => r.mappingWithin hops target) := by
  rw [mappingWithin]
  split
  · rename_i found
    rw [h] at found
    obtain rfl := Value.text.inj (Option.some.inj found)
    rfl
  · rename_i none_found
    exact (none_found _ h).elim

lemma mappingWithin_of_no_reference
    (h : ∀ pointer : Text, raw.get? "$ref" = some (.text pointer) → False) :
    r.mappingWithin hops raw = r.classifyWithin hops raw := by
  rw [mappingWithin]
  split
  · exact (h _ ‹_›).elim
  · rfl

lemma classifyWithin_of_members {first : Value} {rest : List Value}
    (h : raw.items? "allOf" = some (first :: rest)) :
    r.classifyWithin hops raw =
      r.membersWithin hops (first :: rest) >>= r.conjunction hops raw := by
  rw [classifyWithin]
  split
  · rename_i found
    rw [h] at found
    obtain ⟨rfl, rfl⟩ := List.cons.inj (Option.some.inj found)
    refine bind_congr fun members => ?_
    rcases members with _ | ⟨member, _ | ⟨second, others⟩⟩
    · rfl
    · unfold conjunction merged
      cases member.properties? with
      | none => rfl
      | some properties => rfl
    · rfl
  · rename_i hnone
    exact (hnone _ _ h).elim

lemma classifyWithin_of_choice {alternative : Value} (hsingle : IsSingle raw)
    (h : choice? raw = some alternative) :
    r.classifyWithin hops raw =
      (do return (← r.within hops alternative).withExample (Declared.ofEntries raw).example?) := by
  rw [classifyWithin]
  split
  · exact (hsingle _ _ ‹_›).elim
  · split
    · rename_i found
      rw [choice?, found] at h
      obtain rfl := Option.some.inj h
      rfl
    · rename_i found
      rw [choice?, found] at h
      cases h

lemma classifyWithin_of_single (hsingle : IsSingle raw) (h : choice? raw = none) :
    r.classifyWithin hops raw =
      if isObject raw then do
        return .object (Declared.ofEntries raw) (← r.propertiesWithin hops raw)
      else if isArray raw then
        match raw.section? "items" with
        | some items => do
          return .array (Declared.ofEntries raw) (some (← r.mappingWithin (hops - 1) items))
        | none => return .array (Declared.ofEntries raw) none
      else return plainSchema raw := by
  rw [classifyWithin]
  split
  · exact (hsingle _ _ ‹_›).elim
  · split
    · rename_i found
      rw [choice?, found] at h
      cases h
    · split_ifs
      · rfl
      · split
        · rename_i found
          rw [found]
        · rename_i found
          rw [found]
      · rfl

lemma propertiesWithin_of_none (h : raw.section? "properties" = none) :
    r.propertiesWithin hops raw = pure [] := by
  rw [propertiesWithin]
  split
  · rfl
  · rename_i found
    rw [h] at found
    cases found

lemma propertiesWithin_of_some {entries : Entries} (h : raw.section? "properties" = some entries) :
    r.propertiesWithin hops raw =
      (do return Properties.update [] (← r.entriesWithin (hops - 1) entries)) := by
  rw [propertiesWithin]
  split
  · rename_i found
    rw [h] at found
    cases found
  · rename_i found
    rw [h] at found
    obtain rfl := Option.some.inj found
    rfl

end LoadPlan.Resolver
