import LoadPlan.Value
import Mathlib.Tactic.Lemma
import Mathlib.Tactic.SplitIfs

/-!
# Which values can be shown

A value is inserted into texts with a text of its own, and the one thing that can keep it from having
such a text is an integer of too many digits somewhere in it.

* `Value.isSpellable` — all integers in a value are short enough.
* `Spelled` — an outcome that is there if a condition holds, and otherwise stops at an integer.
* **`spelled_literal`**, **`spelled_shown`** — values are shown exactly if they are spellable.
* `ShownIf` — an outcome that is there at least if a condition holds, which for what is shown of parts
  of a document is that the document is spellable.
-/

namespace LoadPlan

/-! ## Outcomes -/

section

variable {α β : Type} {p q : Bool}

/-- **An outcome that is there if a condition holds**, and otherwise stops at an integer of too many
digits. -/
def Spelled (p : Bool) (outcome : Except Fault α) : Prop :=
  (p = true ∧ ∃ a, outcome = .ok a) ∨ (p = false ∧ outcome = .error .tooManyDigits)

lemma Spelled.ok (a : α) : Spelled true (.ok a : Except Fault α) := .inl ⟨rfl, a, rfl⟩

lemma Spelled.exists_of_true {outcome : Except Fault α} (h : Spelled p outcome) (hp : p = true) :
    ∃ a, outcome = .ok a := by
  rcases h with ⟨-, h⟩ | ⟨hno, -⟩
  · exact h
  · rw [hp] at hno
    cases hno

lemma Spelled.eq_of_error {outcome : Except Fault α} {fault : Fault} (h : Spelled p outcome)
    (herror : outcome = .error fault) : fault = .tooManyDigits := by
  rcases h with ⟨-, a, h⟩ | ⟨-, h⟩
  · rw [h] at herror
    cases herror
  · rw [h] at herror
    exact (Except.error.inj herror).symm

lemma Spelled.bind {outcome : Except Fault α} {next : α → Except Fault β} (h : Spelled p outcome)
    (hnext : ∀ a, Spelled q (next a)) : Spelled (p && q) (outcome >>= next) := by
  rcases h with ⟨rfl, a, rfl⟩ | ⟨rfl, rfl⟩
  · exact hnext a
  · exact .inr ⟨rfl, rfl⟩

lemma Spelled.map {outcome : Except Fault α} {f : α → β} (h : Spelled p outcome) :
    Spelled p (outcome >>= fun a => pure (f a)) := by
  rw [← Bool.and_true p]
  exact h.bind fun a => .ok (f a)

end

/-! ## Values -/

/-- An integer that is not too long is written as its decimal text. -/
lemma integerText_eq_ok_iff {i : Int} {text : Text} :
    integerText i = .ok text ↔ i.natAbs < Nat.pow 10 maxDigits ∧ text = Text.ofInt i := by
  unfold integerText
  split_ifs with h
  · exact ⟨fun htext => ⟨h, (Except.ok.inj htext).symm⟩, fun htext => congrArg Except.ok htext.2.symm⟩
  · refine ⟨fun htext => ?_, fun htext => (h htext.1).elim⟩
    cases htext

namespace Value

mutual

/-- **Whether all integers in a value have decimal texts.** -/
def isSpellable : Value → Bool
  | int i => i.natAbs < Nat.pow 10 maxDigits
  | list items => areSpellable items
  | tuple items => areSpellable items
  | set items => areSpellable items
  | map entries => entriesSpellable entries
  | _ => true

def areSpellable : List Value → Bool
  | [] => true
  | item :: items => isSpellable item && areSpellable items

/-- Keys count as well. -/
def entriesSpellable : List (Value × Value) → Bool
  | [] => true
  | (key, value) :: entries => isSpellable key && (isSpellable value && entriesSpellable entries)

end

lemma spelled_integerText (i : Int) :
    Spelled (decide (i.natAbs < Nat.pow 10 maxDigits)) (integerText i) := by
  unfold integerText
  split_ifs with h
  · exact .inl ⟨decide_eq_true h, _, rfl⟩
  · exact .inr ⟨decide_eq_false h, rfl⟩

mutual

/-- **A value has a text that messages quote it with exactly if it is spellable.** -/
lemma spelled_literal : ∀ v : Value, Spelled v.isSpellable v.literal
  | null | bool _ | float _ | text _ | date _ | moment _ | clock _ | bytes _ => .ok _
  | int i => spelled_integerText i
  | list items => (spelled_literals items).map
  | map entries => (spelled_entryLiterals entries).map
  | set [] => .ok _
  | set (item :: items) => (spelled_literals (item :: items)).map
  | tuple [] => (spelled_literals []).map
  | tuple [item] => by
      have h : Spelled (isSpellable item && true) (literal (tuple [item])) := by
        rw [Bool.and_true]
        exact (spelled_literal item).map
      exact h
  | tuple (first :: second :: items) => (spelled_literals (first :: second :: items)).map

lemma spelled_literals : ∀ items : List Value, Spelled (areSpellable items) (literals items)
  | [] => .ok []
  | item :: items => (spelled_literal item).bind fun _ => (spelled_literals items).map

lemma spelled_entryLiterals : ∀ entries : List (Value × Value),
    Spelled (entriesSpellable entries) (entryLiterals entries)
  | [] => .ok []
  | (key, value) :: entries =>
      (spelled_literal key).bind fun _ =>
        (spelled_literal value).bind fun _ => (spelled_entryLiterals entries).map

end

/-- **A value is shown exactly if it is spellable.** -/
lemma spelled_shown (v : Value) : Spelled v.isSpellable v.shown := by
  cases v with
  | text t => exact .ok t
  | date d => exact .ok d.iso
  | moment m => exact .ok (m.isoWith " ")
  | clock c => exact .ok c.iso
  | _ => exact spelled_literal _

end Value

/-! ## Parts of a document -/

section

variable {α β : Type} {P : Prop}

/-- **An outcome that is there at least if a condition holds**, and otherwise may stop at an integer
of too many digits. -/
def ShownIf (P : Prop) (outcome : Except Fault α) : Prop :=
  (∃ a, outcome = .ok a) ∨ (¬ P ∧ outcome = .error .tooManyDigits)

lemma ShownIf.ok (a : α) : ShownIf P (.ok a : Except Fault α) := .inl ⟨a, rfl⟩

lemma ShownIf.exists_of {outcome : Except Fault α} (h : ShownIf P outcome) (hP : P) :
    ∃ a, outcome = .ok a := by
  rcases h with h | ⟨hno, -⟩
  · exact h
  · exact absurd hP hno

lemma ShownIf.eq_of_error {outcome : Except Fault α} {fault : Fault} (h : ShownIf P outcome)
    (herror : outcome = .error fault) : fault = .tooManyDigits := by
  rcases h with ⟨a, h⟩ | ⟨-, h⟩
  · rw [h] at herror
    cases herror
  · rw [h] at herror
    exact (Except.error.inj herror).symm

lemma ShownIf.bind {outcome : Except Fault α} {next : α → Except Fault β} (h : ShownIf P outcome)
    (hnext : ∀ a, ShownIf P (next a)) : ShownIf P (outcome >>= next) := by
  rcases h with ⟨a, rfl⟩ | ⟨hno, rfl⟩
  · exact hnext a
  · exact .inr ⟨hno, rfl⟩

lemma ShownIf.map {outcome : Except Fault α} (f : α → β) (h : ShownIf P outcome) :
    ShownIf P (outcome.map f) := by
  rcases h with ⟨a, rfl⟩ | ⟨hno, rfl⟩
  · exact .ok (f a)
  · exact .inr ⟨hno, rfl⟩

lemma ShownIf.mapM {f : α → Except Fault β} : ∀ {xs : List α}, (∀ x ∈ xs, ShownIf P (f x)) →
    ShownIf P (xs.mapM f)
  | [], _ => .ok []
  | x :: xs, h => by
      rw [List.mapM_cons]
      refine (h x List.mem_cons_self).bind fun y => ?_
      exact (ShownIf.mapM fun x' hx => h x' (List.mem_cons_of_mem x hx)).bind fun ys => .ok _

lemma Value.shownIf {v : Value} (h : P → v.isSpellable = true) : ShownIf P v.shown := by
  rcases spelled_shown v with ⟨-, hok⟩ | ⟨hno, herror⟩
  · exact .inl hok
  · refine .inr ⟨fun hP => ?_, herror⟩
    rw [h hP] at hno
    cases hno

end

namespace Value

lemma isSpellable_of_mem {items : List Value} (h : areSpellable items = true) :
    ∀ item ∈ items, item.isSpellable = true := by
  induction items with
  | nil => exact fun _ hitem => nomatch hitem
  | cons first rest ih =>
      rw [areSpellable, Bool.and_eq_true] at h
      intro item hitem
      rcases List.mem_cons.mp hitem with rfl | hitem
      · exact h.1
      · exact ih h.2 item hitem

lemma isSpellable_of_mem_entries {entries : Entries} (h : entriesSpellable entries = true) :
    ∀ entry ∈ entries, entry.1.isSpellable = true ∧ entry.2.isSpellable = true := by
  induction entries with
  | nil => exact fun _ hentry => nomatch hentry
  | cons first rest ih =>
      rw [entriesSpellable, Bool.and_eq_true, Bool.and_eq_true] at h
      intro entry hentry
      rcases List.mem_cons.mp hentry with rfl | hentry
      · exact ⟨h.1, h.2.1⟩
      · exact ih h.2.2 entry hentry

end Value

namespace Entries

lemma mem_of_get? {key : Text} {value : Value} : ∀ {entries : Entries},
    entries.get? key = some value → (.text key, value) ∈ entries
  | (k, v) :: rest, h => by
      unfold get? at h
      split at h
      · cases h
      · rename_i found
        obtain ⟨⟨rfl, rfl⟩, rfl⟩ := by simpa using found
        split_ifs at h with hkey
        · obtain rfl := Option.some.inj h
          rw [hkey]
          exact List.mem_cons_self
        · exact List.mem_cons_of_mem _ (mem_of_get? h)
      · rename_i found
        obtain ⟨rfl, rfl⟩ := List.cons.inj found
        exact List.mem_cons_of_mem _ (mem_of_get? h)

lemma isSpellable_getD {entries : Entries} (h : Value.entriesSpellable entries = true) (key : Text) :
    (entries.getD key).isSpellable = true := by
  unfold getD
  cases hfound : entries.get? key with
  | none => rfl
  | some value => exact (Value.isSpellable_of_mem_entries h _ (mem_of_get? hfound)).2

end Entries

end LoadPlan
