import Mathlib.Data.List.Basic
import Mathlib.Data.List.Induction
import Mathlib.Tactic.Lemma

/-!
# Each element once

A list from which repetitions are erased: each element stays where it came up first.

* `nodup_eraseDups` — no element is left twice.
* `eraseDups_concat` — one more element is added at the end, unless it was there.
* `eraseDups_map` — different elements that are made something different of stay where they are.
-/

namespace LoadPlan

variable {α : Type} [BEq α] [LawfulBEq α]

lemma nodup_eraseDups : ∀ xs : List α, xs.eraseDups.Nodup
  | [] => by simp
  | x :: xs => by
      rw [List.eraseDups_cons, List.nodup_cons]
      refine ⟨?_, nodup_eraseDups _⟩
      simp [List.mem_eraseDups]
termination_by xs => xs.length
decreasing_by
  exact Nat.lt_succ_of_le (List.length_filter_le _ _)

lemma eraseDups_concat (xs : List α) (x : α) :
    (xs ++ [x]).eraseDups = if x ∈ xs then xs.eraseDups else xs.eraseDups ++ [x] := by
  rw [List.eraseDups_append]
  by_cases h : x ∈ xs
  · rw [if_pos h]
    simp [List.removeAll, h]
  · rw [if_neg h]
    simp [List.removeAll, h, List.eraseDups_cons]

lemma eraseDups_map {β : Type} [BEq β] [LawfulBEq β] {f : α → β} (hf : Function.Injective f) (xs : List α) :
    (xs.map f).eraseDups = xs.eraseDups.map f := by
  induction xs using List.reverseRecOn with
  | nil => simp
  | append_singleton xs x ih =>
      have hmem : f x ∈ xs.map f ↔ x ∈ xs := List.mem_map_of_injective hf
      rw [List.map_append, List.map_singleton, eraseDups_concat, eraseDups_concat, ih]
      simp only [hmem]
      split_ifs
      · rfl
      · rw [List.map_append, List.map_singleton]

end LoadPlan
