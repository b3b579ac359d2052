import LoadPlan.Text.LetterCase
import Mathlib.Tactic.Lemma
import Mathlib.Tactic.SplitIfs

/-!
# Lower case once and for all

The lower case of a text is put together from a table of runs and from two letters that are treated apart.
Nothing that comes out is in the table again, and neither of the two letters comes out: so it does not matter
in which surroundings a text in lower case is put into lower case once more.

* `CaseRun.misses` — what a run leads to is out of reach of another run; **`caseSources_miss`** says so of the
  whole table.
* `Rune.IsSettled` — a code point that lower case leaves as it is.
* **`Text.isSettled_of_mem_lower`** — a lower case has no others.
* `Text.lower_of_isSettled` — a text without others is its own lower case.
-/

namespace LoadPlan

/-! ## Runs that miss each other -/

namespace CaseRun

/-- The lowest code point that a run leads to. -/
def lowest (run : CaseRun) : Nat := Int.toNat (run.first + run.shift)

/-- The highest code point that a run leads to. -/
def highest (run : CaseRun) : Nat := Int.toNat (run.last + run.shift)

/-- **Whether what a run leads to is out of reach of another**: it ends before the other begins, it begins
where the other has ended, or it passes between the code points of the other. -/
def misses (run other : CaseRun) : Bool :=
  Nat.blt run.highest other.first || Nat.blt other.last run.lowest ||
    (other.step == 2 && (run.step == 2 || run.first == run.last) && (run.lowest + other.first) % 2 == 1)

/-- Whether a run stays among the code points. -/
def staysInside (run : CaseRun) : Bool := 0 ≤ run.first + run.shift && Nat.blt run.highest 0x110000

variable {run other : CaseRun} {code : Nat}

lemma covers_iff : run.covers code = true ↔
    run.first ≤ code ∧ code ≤ run.last ∧ (code - run.first) % run.step = 0 := by
  simp [covers, and_assoc]

lemma staysInside_iff : run.staysInside = true ↔
    0 ≤ run.first + run.shift ∧ Int.toNat (run.last + run.shift) < 0x110000 := by
  simp [staysInside, highest]

/-- What a run leads to is not covered by a run that it misses. -/
lemma not_covers_of_misses (hinside : run.staysInside = true) (hmisses : run.misses other = true)
    (hcovers : run.covers code = true) : other.covers (Int.toNat (code + run.shift)) = false := by
  rw [← Bool.not_eq_true, covers_iff]
  rintro ⟨hfirst, hlast, hstep⟩
  obtain ⟨hstart, -⟩ := staysInside_iff.mp hinside
  obtain ⟨hfrom, hto, hrun⟩ := covers_iff.mp hcovers
  simp only [misses, lowest, highest, Bool.or_eq_true, Bool.and_eq_true, Nat.blt_eq, beq_iff_eq] at hmisses
  rcases hmisses with (hbefore | hafter) | ⟨⟨htwo, hpace⟩, hodd⟩
  · omega
  · omega
  · -- the other goes in steps of two, and so does this one, if it goes on at all: they are never in phase
    rw [htwo] at hstep
    rcases hpace with hpace | hsingle
    · rw [hpace] at hrun
      omega
    · omega

end CaseRun

/-- What is put into lower case: the runs of the table, the capital sigma, and the capital i with a dot. -/
def caseSources : List CaseRun := ⟨0x3A3, 0x3A3, 1, 0⟩ :: ⟨0x130, 0x130, 1, 0⟩ :: lowerRuns

/-- **The table leads out of itself**: each of its runs misses all that is put into lower case. -/
lemma caseSources_miss :
    (lowerRuns.all fun run => run.staysInside && caseSources.all run.misses) = true := by
  decide +kernel

/-- What the two letters become. -/
def specialForms : Text := [Rune.ofCode 0x3C2, Rune.ofCode 0x3C3, Rune.ofChar 'i', Rune.ofCode 0x307]

/-! ## Code points that are left as they are -/

namespace Rune

/-- **A code point that lower case leaves as it is.** -/
def IsSettled (r : Rune) : Prop := ∀ run ∈ caseSources, run.covers r.code = false

variable {r : Rune}

/-- Nor is anything put into lower case that the two letters become. -/
lemma isSettled_specialForms : ∀ r ∈ specialForms, r.IsSettled := by
  unfold IsSettled
  decide +kernel

lemma IsSettled.ne_sigma (h : r.IsSettled) : r.code ≠ 0x3A3 := by
  intro heq
  have hsigma := h ⟨0x3A3, 0x3A3, 1, 0⟩ List.mem_cons_self
  rw [heq] at hsigma
  cases hsigma

lemma IsSettled.ne_dotted (h : r.IsSettled) : r.code ≠ 0x130 := by
  intro heq
  have hdotted := h ⟨0x130, 0x130, 1, 0⟩ (List.mem_cons_of_mem _ List.mem_cons_self)
  rw [heq] at hdotted
  cases hdotted

lemma IsSettled.apply_lowerRuns (h : r.IsSettled) : CaseRun.apply lowerRuns r = r := by
  have hnone : lowerRuns.find? (·.covers r.code) = none := by
    rw [List.find?_eq_none]
    intro run hrun
    rw [h run (List.mem_cons_of_mem _ (List.mem_cons_of_mem _ hrun))]
    exact Bool.false_ne_true
  rw [CaseRun.apply, hnone]

/-- What the table makes of a code point is left as it is. -/
lemma isSettled_apply_lowerRuns (hsigma : r.code ≠ 0x3A3) (hdotted : r.code ≠ 0x130) :
    (CaseRun.apply lowerRuns r).IsSettled := by
  unfold CaseRun.apply
  split
  · rename_i run hfound
    have hcovers := List.find?_some hfound
    have hmisses := List.all_eq_true.mp caseSources_miss run (List.mem_of_find?_eq_some hfound)
    obtain ⟨hinside, hmisses⟩ := Bool.and_eq_true_iff.mp hmisses
    obtain ⟨hfrom, hto, -⟩ := CaseRun.covers_iff.mp hcovers
    obtain ⟨hstart, hend⟩ := CaseRun.staysInside_iff.mp hinside
    intro other hother
    rw [Rune.code_ofCode (by omega)]
    exact CaseRun.not_covers_of_misses hinside (List.all_eq_true.mp hmisses other hother) hcovers
  · rename_i hnone
    have hno := List.find?_eq_none.mp hnone
    intro run hrun
    rw [caseSources, List.mem_cons, List.mem_cons] at hrun
    rw [← Bool.not_eq_true]
    rcases hrun with rfl | rfl | hrun
    · rw [CaseRun.covers_iff]
      dsimp only
      omega
    · rw [CaseRun.covers_iff]
      dsimp only
      omega
    · exact hno run hrun

end Rune

/-! ## Texts -/

namespace Text

lemma isSettled_of_mem_lowerAt {after : Bool} {r x : Rune} {rest : Text} (h : x ∈ lowerAt after r rest) :
    x.IsSettled := by
  unfold lowerAt at h
  split_ifs at h with hsigma hfinal hdotted
  · obtain rfl := List.mem_singleton.mp h
    exact Rune.isSettled_specialForms _ (by simp [specialForms])
  · obtain rfl := List.mem_singleton.mp h
    exact Rune.isSettled_specialForms _ (by simp [specialForms])
  · refine Rune.isSettled_specialForms x ?_
    rw [specialForms, List.mem_cons, List.mem_cons]
    exact .inr (.inr h)
  · obtain rfl := List.mem_singleton.mp h
    exact Rune.isSettled_apply_lowerRuns hsigma hdotted

/-- **A lower case has only code points that are left as they are.** -/
lemma isSettled_of_mem_lower {t : Text} {x : Rune} (h : x ∈ t.lower) : x.IsSettled := by
  unfold lower at h
  generalize false = after at h
  induction t generalizing after with
  | nil => cases h
  | cons r rest ih =>
      rw [lowerFrom, List.mem_append] at h
      rcases h with h | h
      · exact isSettled_of_mem_lowerAt h
      · exact ih _ h

lemma lowerAt_of_isSettled {r : Rune} (h : r.IsSettled) (after : Bool) (rest : Text) :
    lowerAt after r rest = [r] := by
  rw [lowerAt, if_neg h.ne_sigma, if_neg h.ne_dotted, h.apply_lowerRuns]

/-- A text whose code points are left as they are is its own lower case. -/
lemma lower_of_isSettled {t : Text} (h : ∀ r ∈ t, r.IsSettled) : t.lower = t := by
  unfold lower
  generalize false = after
  induction t generalizing after with
  | nil => rfl
  | cons r rest ih =>
      obtain ⟨hfirst, hrest⟩ := List.forall_mem_cons.mp h
      rw [lowerFrom, lowerAt_of_isSettled hfirst, ih hrest]
      rfl

end Text

end LoadPlan
