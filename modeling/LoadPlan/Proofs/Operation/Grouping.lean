import LoadPlan.Operation.Group
import LoadPlan.Proofs.Distinct
import Mathlib.Data.List.Induction
import Mathlib.Tactic.SplitIfs

/-!
# Groups keep all operations

`group` puts operations one after another into the group of their name, which is made when the first
of them comes.  What this comes to can be said at once: there is a group for each name, in the order
in which names come up, and in it are the operations of that name, in their order.

* `IsGrouping` — what the groups of some operations have to be.
* **`group_eq`** — the groups, said at once.
* **`isGrouping_group`** — the groups of operations are what they have to be.
* `perm_flatMap_group` — the operations in groups are the operations that there were before.
-/

namespace LoadPlan.Operation

/-! ## Groups said at once -/

section

variable (strategy : Strategy)

/-- The operations of a group. -/
def ofGroup (name : Text) (operations : List Operation) : List Operation :=
  operations.filter fun operation => operation.groupName strategy = name

/-- The names of groups, in the order in which they come up. -/
def groupNames (operations : List Operation) : List Text :=
  (operations.map fun operation => operation.groupName strategy).eraseDups

lemma group_concat (operations : List Operation) (operation : Operation) :
    group strategy (operations ++ [operation]) =
      addTo (operation.groupName strategy) operation (group strategy operations) := by
  rw [group, List.foldl_append]
  rfl

lemma addTo_map (name : Text) (operation : Operation) (members : Text → List Operation) :
    ∀ names : List Text, names.Nodup →
      addTo name operation (names.map fun key => (key, members key)) =
        if name ∈ names then
          names.map fun key => (key, if key = name then members key ++ [operation] else members key)
        else names.map (fun key => (key, members key)) ++ [(name, [operation])]
  | [], _ => rfl
  | key :: names, hdistinct => by
      rw [List.nodup_cons] at hdistinct
      rw [List.map_cons, addTo]
      by_cases hkey : key = name
      · subst hkey
        have hothers : ∀ other ∈ names, other ≠ key := by
          rintro other hother rfl
          exact hdistinct.1 hother
        rw [if_pos rfl, if_pos List.mem_cons_self, List.map_cons, if_pos rfl]
        refine congrArg _ (List.map_congr_left fun other hother => ?_)
        rw [if_neg (hothers other hother)]
      · rw [if_neg hkey, addTo_map name operation members names hdistinct.2]
        by_cases hmem : name ∈ names
        · rw [if_pos hmem, if_pos (List.mem_cons_of_mem key hmem), List.map_cons, if_neg hkey]
        · have hnew : name ∉ key :: names := by
            simp [hmem, Ne.symm hkey]
          rw [if_neg hmem, if_neg hnew]
          rfl

lemma ofGroup_concat (name : Text) (operations : List Operation) (operation : Operation) :
    ofGroup strategy name (operations ++ [operation]) =
      if name = operation.groupName strategy then ofGroup strategy name operations ++ [operation]
      else ofGroup strategy name operations := by
  rw [ofGroup, List.filter_append]
  split_ifs with h
  · rw [List.filter_cons_of_pos (by simp [h])]
    rfl
  · rw [List.filter_cons_of_neg (by simp [Ne.symm h])]
    exact List.append_nil _

lemma mem_groupNames {name : Text} {operations : List Operation} :
    name ∈ groupNames strategy operations ↔
      ∃ operation ∈ operations, operation.groupName strategy = name := by
  rw [groupNames, List.mem_eraseDups, List.mem_map]

lemma nodup_groupNames (operations : List Operation) : (groupNames strategy operations).Nodup :=
  nodup_eraseDups _

lemma ofGroup_ne_nil {name : Text} {operations : List Operation}
    (h : name ∈ groupNames strategy operations) : ofGroup strategy name operations ≠ [] := by
  obtain ⟨operation, hmem, hname⟩ := (mem_groupNames strategy).mp h
  exact List.ne_nil_of_mem (List.mem_filter.mpr ⟨hmem, decide_eq_true hname⟩)

/-- **The groups of some operations**: for each name, in the order in which names come up, the
operations of that name. -/
theorem group_eq (operations : List Operation) : group strategy operations =
    (groupNames strategy operations).map fun name => (name, ofGroup strategy name operations) := by
  induction operations using List.reverseRecOn with
  | nil => rfl
  | append_singleton operations operation ih =>
      have hnames : groupNames strategy (operations ++ [operation]) =
          if operation.groupName strategy ∈ groupNames strategy operations then
            groupNames strategy operations
          else groupNames strategy operations ++ [operation.groupName strategy] := by
        rw [groupNames, List.map_append, List.map_singleton, eraseDups_concat, groupNames]
        simp only [List.mem_eraseDups]
      rw [group_concat, ih, addTo_map _ _ (fun name => ofGroup strategy name operations) _
        (nodup_groupNames strategy operations), hnames]
      by_cases hmem : operation.groupName strategy ∈ groupNames strategy operations
      · rw [if_pos hmem, if_pos hmem]
        simp only [ofGroup_concat]
      · have hempty : ofGroup strategy (operation.groupName strategy) operations = [] := by
          refine List.filter_eq_nil_iff.mpr fun other hother => ?_
          simpa using fun hname => hmem ((mem_groupNames strategy).mpr ⟨other, hother, hname⟩)
        have hothers : ∀ name ∈ groupNames strategy operations,
            name ≠ operation.groupName strategy := by
          rintro name hname rfl
          exact hmem hname
        rw [if_neg hmem, if_neg hmem, List.map_append, List.map_singleton, ofGroup_concat,
          if_pos rfl, hempty]
        refine congrArg (· ++ _) (List.map_congr_left fun name hname => ?_)
        rw [ofGroup_concat, if_neg (hothers name hname)]

/-! ## Grouping again -/

lemma addTo_of_not_mem {name : Text} (operation : Operation) :
    ∀ {groups : Groups}, name ∉ groups.map Prod.fst →
      addTo name operation groups = groups ++ [(name, [operation])]
  | [], _ => rfl
  | (key, members) :: groups, h => by
      rw [List.map_cons, List.mem_cons, not_or] at h
      rw [addTo, if_neg (Ne.symm h.1), addTo_of_not_mem operation h.2]
      rfl

/-- The last group goes on if it is the first of its name. -/
lemma addTo_concat {name : Text} (operation : Operation) (members : List Operation) :
    ∀ {groups : Groups}, name ∉ groups.map Prod.fst →
      addTo name operation (groups ++ [(name, members)]) =
        groups ++ [(name, members ++ [operation])]
  | [], _ => by rw [List.nil_append, addTo, if_pos rfl]; rfl
  | (key, others) :: groups, h => by
      rw [List.map_cons, List.mem_cons, not_or] at h
      rw [List.cons_append, addTo, if_neg (Ne.symm h.1), addTo_concat operation members h.2]
      rfl

/-- Operations of one name go on with one group. -/
lemma foldl_addTo_same {name : Text} {groups : Groups} (h : name ∉ groups.map Prod.fst) :
    ∀ (members before : List Operation), (∀ o ∈ members, o.groupName strategy = name) →
      members.foldl (fun groups o => addTo (o.groupName strategy) o groups)
        (groups ++ [(name, before)]) = groups ++ [(name, before ++ members)]
  | [], before, _ => by rw [List.append_nil]; rfl
  | operation :: members, before, hname => by
      rw [List.foldl_cons, hname operation List.mem_cons_self, addTo_concat operation before h,
        foldl_addTo_same h members _ fun o ho => hname o (List.mem_cons_of_mem operation ho),
        List.append_assoc]
      rfl

/-- Groups of distinct names are made again, one after another, from their operations. -/
lemma foldl_addTo_groups : ∀ groups before : Groups,
    (∀ pair ∈ groups, pair.2 ≠ [] ∧ ∀ o ∈ pair.2, o.groupName strategy = pair.1) →
    ((before ++ groups).map Prod.fst).Nodup →
      (groups.flatMap Prod.snd).foldl (fun groups o => addTo (o.groupName strategy) o groups)
        before = before ++ groups
  | [], before, _, _ => (List.append_nil before).symm
  | (name, members) :: groups, before, hgroups, hdistinct => by
      obtain ⟨hne, hname⟩ := hgroups _ List.mem_cons_self
      obtain ⟨first, others, rfl⟩ := List.exists_cons_of_ne_nil hne
      have hnew : name ∉ before.map Prod.fst := by
        rw [List.map_append, List.map_cons] at hdistinct
        exact fun hmem => (List.nodup_append.mp hdistinct).2.2 name hmem name List.mem_cons_self rfl
      have hgroup : (first :: others).foldl
          (fun groups o => addTo (o.groupName strategy) o groups) before =
            before ++ [(name, first :: others)] := by
        rw [List.foldl_cons, hname first List.mem_cons_self, addTo_of_not_mem first hnew]
        exact foldl_addTo_same strategy hnew others [first]
          fun o ho => hname o (List.mem_cons_of_mem first ho)
      rw [List.flatMap_cons, List.foldl_append, hgroup, foldl_addTo_groups groups _
        (fun pair hpair => hgroups pair (List.mem_cons_of_mem _ hpair)) (by simpa using hdistinct),
        List.append_assoc]
      rfl

/-! ## What groups have to be -/

/-- **What the groups of some operations have to be.** -/
structure IsGrouping (operations : List Operation) (groups : Groups) : Prop where
  /-- There is a group for each name, in the order in which names come up. -/
  names : groups.map Prod.fst =
    (operations.map fun operation => operation.groupName strategy).eraseDups
  /-- No name has two groups. -/
  distinct : (groups.map Prod.fst).Nodup
  /-- No group is empty. -/
  nonempty : ∀ pair ∈ groups, pair.2 ≠ []
  /-- A group holds the operations of its name, in their order. -/
  members : ∀ pair ∈ groups,
    pair.2 = operations.filter fun operation => operation.groupName strategy = pair.1
  /-- Operations that are put together from groups have the same groups. -/
  again : group strategy (groups.flatMap Prod.snd) = groups

/-- **The groups of operations are what they have to be.** -/
theorem isGrouping_group (operations : List Operation) :
    IsGrouping strategy operations (group strategy operations) := by
  have hnames : (group strategy operations).map Prod.fst = groupNames strategy operations := by
    rw [group_eq, List.map_map]
    exact List.map_id _
  have hdistinct : ((group strategy operations).map Prod.fst).Nodup :=
    hnames ▸ nodup_groupNames strategy operations
  have hpair : ∀ pair ∈ group strategy operations,
      pair.2 = ofGroup strategy pair.1 operations ∧ pair.2 ≠ [] := by
    intro pair hmem
    rw [group_eq] at hmem
    obtain ⟨name, hname, rfl⟩ := List.mem_map.mp hmem
    exact ⟨rfl, ofGroup_ne_nil strategy hname⟩
  refine ⟨hnames, hdistinct, fun pair hmem => (hpair pair hmem).2,
    fun pair hmem => (hpair pair hmem).1, ?_⟩
  refine foldl_addTo_groups strategy _ [] (fun pair hmem => ⟨(hpair pair hmem).2, ?_⟩) hdistinct
  intro operation hoperation
  rw [(hpair pair hmem).1, ofGroup, List.mem_filter] at hoperation
  exact of_decide_eq_true hoperation.2

lemma perm_flatMap_addTo (name : Text) (operation : Operation) : ∀ groups : Groups,
    ((addTo name operation groups).flatMap Prod.snd).Perm (groups.flatMap Prod.snd ++ [operation])
  | [] => .refl _
  | (key, members) :: groups => by
      rw [addTo]
      split_ifs
      · simp only [List.flatMap_cons, List.append_assoc]
        exact .append_left _ List.perm_append_comm
      · rw [List.flatMap_cons, List.flatMap_cons, List.append_assoc]
        exact .append_left _ (perm_flatMap_addTo name operation groups)

/-- **The operations in groups are the operations that there were before**, in another order. -/
theorem perm_flatMap_group (operations : List Operation) :
    ((group strategy operations).flatMap Prod.snd).Perm operations := by
  induction operations using List.reverseRecOn with
  | nil => exact .refl _
  | append_singleton operations operation ih =>
      rw [group_concat]
      exact (perm_flatMap_addTo _ _ _).trans (ih.append_right _)

/-- There are as many operations in groups as there were before. -/
lemma length_flatMap_group (operations : List Operation) :
    ((group strategy operations).flatMap Prod.snd).length = operations.length :=
  (perm_flatMap_group strategy operations).length_eq

end

end LoadPlan.Operation
