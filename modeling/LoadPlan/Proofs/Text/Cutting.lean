import LoadPlan.Text
import Mathlib.Data.List.DropRight
import Mathlib.Tactic.Lemma
import Mathlib.Tactic.SplitIfs

/-!
# Cutting and replacing

* `Text.splitOn_eq`, `Text.join_eq_intercalate` — cutting a text at a separator, and putting pieces
  together, are what they are for lists.
* `Text.cut_append` — a text is cut at the first separator.
* `Text.suffix_of_after?`, `Text.afterLast_suffix`, `Text.trimEnd_eq` — pieces are ends and beginnings of the
  whole, and so have its characters.
* `Text.replace_append`, `Text.replace_cons` — replacing goes through a text from the front: an occurrence
  there is replaced, and a code point that no occurrence begins at is kept.
* `Text.replace_single`, `Text.replace_pair` — the same for patterns of one and of two code points.
-/

namespace LoadPlan.Text

/-! ## Pieces -/

section

variable {separator : Rune}

lemma before_subset (separator : Rune) (t : Text) : t.before separator ⊆ t :=
  (List.takeWhile_prefix _).subset

/-- A text without the separator is all before it. -/
lemma before_of_notMem {t : Text} (h : separator ∉ t) : t.before separator = t :=
  List.takeWhile_eq_self_iff.mpr fun _ hr => bne_iff_ne.mpr fun heq => h (heq ▸ hr)

lemma after?_of_notMem : ∀ {t : Text}, separator ∉ t → t.after? separator = none
  | [], _ => rfl
  | c :: t, h => by
      rw [List.mem_cons, not_or] at h
      rw [after?, if_neg (Ne.symm h.1), after?_of_notMem h.2]

/-- A text is cut at the first separator. -/
lemma cut_append {name : Text} (h : separator ∉ name) (rest : Text) :
    before separator (name ++ separator :: rest) = name ∧
      after? separator (name ++ separator :: rest) = some rest := by
  induction name with
  | nil =>
      refine ⟨?_, if_pos rfl⟩
      rw [List.nil_append, before, List.takeWhile_cons, if_neg fun hne => bne_iff_ne.mp hne rfl]
  | cons r name ih =>
      rw [List.mem_cons, not_or] at h
      obtain ⟨hbefore, hafter⟩ := ih h.2
      refine ⟨?_, ?_⟩
      · rw [List.cons_append, before, List.takeWhile_cons, if_pos (bne_iff_ne.mpr (Ne.symm h.1))]
        exact congrArg (r :: ·) hbefore
      · rw [List.cons_append, after?, if_neg (Ne.symm h.1), hafter]

lemma suffix_of_after? : ∀ {t rest : Text}, t.after? separator = some rest → rest <:+ t
  | c :: t, rest, h => by
      rw [after?] at h
      split_ifs at h with hfound
      · obtain rfl := Option.some.inj h
        exact List.suffix_cons c _
      · exact (suffix_of_after? h).trans (List.suffix_cons c t)

lemma subset_of_after? {t rest : Text} (h : t.after? separator = some rest) : rest ⊆ t :=
  (suffix_of_after? h).subset

lemma getD_after?_subset (separator : Rune) (t : Text) : (t.after? separator).getD [] ⊆ t := by
  cases h : t.after? separator with
  | none => exact List.nil_subset t
  | some rest => exact subset_of_after? h

lemma afterLast_go_suffix : ∀ (n : Nat) (t : Text), afterLast.go separator n t <:+ t
  | 0, t => List.suffix_rfl
  | n + 1, t => by
      rw [afterLast.go]
      split
      · exact List.suffix_rfl
      · rename_i hshorter
        exact (afterLast_go_suffix n _).trans (suffix_of_after? hshorter)

lemma afterLast_suffix (separator : Rune) (t : Text) : t.afterLast separator <:+ t := by
  rw [afterLast]
  split
  · exact List.suffix_rfl
  · rename_i hrest
    exact (afterLast_go_suffix _ _).trans (suffix_of_after? hrest)

lemma afterLast_subset (separator : Rune) (t : Text) : t.afterLast separator ⊆ t :=
  (afterLast_suffix separator t).subset

lemma afterLast_of_notMem {t : Text} (h : separator ∉ t) : t.afterLast separator = t := by
  rw [afterLast, after?_of_notMem h]

/-- After a separator at the front there is less than all. -/
lemma afterLast_cons_suffix (separator : Rune) (t : Text) :
    afterLast separator (separator :: t) <:+ t := by
  rw [afterLast, after?, if_pos rfl]
  exact afterLast_go_suffix _ _

end

lemma trimEnd_eq (drop : Rune → Bool) (t : Text) : t.trimEnd drop = t.rdropWhile drop := rfl

lemma trimEnd_subset (drop : Rune → Bool) (t : Text) : t.trimEnd drop ⊆ t :=
  trimEnd_eq drop t ▸ (List.rdropWhile_prefix drop t).subset

/-- A text is trimmed at its end; only if nothing is left there, what is in front of it is trimmed. -/
lemma trimEnd_append (drop : Rune → Bool) (t rest : Text) : (t ++ rest).trimEnd drop =
    if rest.trimEnd drop = [] then t.trimEnd drop else t ++ rest.trimEnd drop := by
  simp only [trimEnd, List.reverse_append, List.dropWhile_append, List.isEmpty_iff, List.reverse_eq_nil_iff]
  split_ifs
  · rfl
  · rw [List.reverse_append, List.reverse_reverse]

/-! ## Separators -/

lemma splitOn_eq (separator : Rune) : ∀ t : Text, splitOn separator t = List.splitOn separator t
  | [] => by
      rw [List.splitOn_nil]
      rfl
  | c :: rest => by
      rw [List.splitOn_cons_eq_if_modifyHead, splitOn, splitOn_eq separator rest]
      simp only [beq_iff_eq]
      split_ifs
      · rfl
      · cases hpieces : List.splitOn separator rest with
        | nil => exact absurd hpieces (List.splitOn_ne_nil _ _)
        | cons piece pieces => rfl

lemma join_eq_intercalate (separator : Text) : ∀ pieces : List Text,
    join separator pieces = separator.intercalate pieces
  | [] => rfl
  | [piece] => by rw [join, List.intercalate_singleton]
  | piece :: next :: pieces => by
      rw [join, List.intercalate_cons_cons, join_eq_intercalate separator (next :: pieces)]

lemma replace_go_append (pattern replacement : Text) : ∀ passed rest : Text,
    replace.go pattern replacement passed.length (passed ++ rest) =
      replace.go pattern replacement 0 rest
  | [], _ => rfl
  | _ :: passed, rest => replace_go_append pattern replacement passed rest

/-- An occurrence at the front is replaced. -/
lemma replace_append (first : Rune) (pattern replacement rest : Text) :
    replace (first :: (pattern ++ rest)) (first :: pattern) replacement =
      replacement ++ replace rest (first :: pattern) replacement := by
  have hfront : (first :: pattern).isPrefixOf (first :: (pattern ++ rest)) = true :=
    List.isPrefixOf_iff_prefix.mpr (List.prefix_append (first :: pattern) rest)
  show replace.go (first :: pattern) replacement 0 (first :: (pattern ++ rest)) = _
  rw [replace.go, if_pos hfront]
  exact congrArg (replacement ++ ·) (replace_go_append _ _ pattern rest)

/-- A code point that no occurrence begins at is kept. -/
lemma replace_cons {c : Rune} {pattern rest : Text} (h : ¬ pattern <+: c :: rest)
    (replacement : Text) :
    replace (c :: rest) pattern replacement = c :: replace rest pattern replacement := by
  show replace.go pattern replacement 0 (c :: rest) = _
  rw [replace.go, if_neg (mt List.isPrefixOf_iff_prefix.mp h)]
  rfl

section

variable (first second : Rune) (pattern replacement rest : Text)

lemma replace_single :
    replace (first :: rest) [first] replacement = replacement ++ replace rest [first] replacement :=
  replace_append first [] replacement rest

lemma replace_pair :
    replace (first :: second :: rest) [first, second] replacement =
      replacement ++ replace rest [first, second] replacement :=
  replace_append first [second] replacement rest

variable {first second}

lemma replace_cons_of_ne {c : Rune} (h : c ≠ first) :
    replace (c :: rest) (first :: pattern) replacement =
      c :: replace rest (first :: pattern) replacement := by
  refine replace_cons ?_ replacement
  rw [List.cons_prefix_cons]
  exact fun hfront => h hfront.1.symm

/-- No occurrence begins at a code point that another one than the second follows. -/
lemma replace_cons_of_head?_ne {c : Rune} (h : c = first → rest.head? ≠ some second) :
    replace (c :: rest) [first, second] replacement =
      c :: replace rest [first, second] replacement := by
  refine replace_cons ?_ replacement
  rw [List.cons_prefix_cons]
  rintro ⟨hfirst, more, rfl⟩
  exact h hfirst.symm rfl

end

end LoadPlan.Text
