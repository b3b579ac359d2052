import LoadPlan.Operation.Extraction
import Mathlib.Data.Nat.Digits.Defs
import Mathlib.Tactic.Lemma
import Mathlib.Tactic.SplitIfs

/-!
# Keys that name methods

A key of a path names a method if its text in lower case is the key of the method.  Lower case is full
case mapping here, and keys may be of any kind; what it comes to is that the key is a text that
differs from the key of the method in the case of ASCII letters at most.

* `Value.NamesMethod` — that a key names a method, without case mapping.
* **`ofKey?_lower_shown`** — a key is taken for a method if it names it.
-/

namespace LoadPlan

/-- A capital letter of ASCII as a small one; anything else as it is. -/
def Rune.asciiLower (r : Rune) : Rune :=
  if 0x41 ≤ r.code ∧ r.code ≤ 0x5A then Rune.ofCode (r.code + 32) else r

/-- **A key that names a method**, in any mixture of small letters and capitals. -/
def Value.NamesMethod (key : Value) (method : Method) : Prop :=
  ∃ name : Text, key = .text name ∧ name.map Rune.asciiLower = method.key

/-! ## Lower case -/

namespace Rune

lemma code_asciiLower (r : Rune) :
    r.asciiLower.code = if 0x41 ≤ r.code ∧ r.code ≤ 0x5A then r.code + 32 else r.code := by
  unfold asciiLower
  split_ifs with hletter
  · exact code_ofCode (by omega)
  · rfl

lemma ascii_of_asciiLower {r : Rune} (h : r.asciiLower.code < 0x80) : r.code < 0x80 := by
  rw [code_asciiLower] at h
  split_ifs at h with hletter
  · omega
  · exact h

/-- Among the runs of the table only the first is within ASCII, and no other leads there, except to
the letter k. -/
lemma lowerRuns_ascii : ∀ run ∈ lowerRuns,
    (run.first = 0x41 ∧ run.last = 0x5A ∧ run.step = 1 ∧ run.shift = 32) ∨
      (0x80 ≤ run.first ∧ (0x80 ≤ run.first + run.shift ∨
        (run.first = run.last ∧ run.first + run.shift = 0x6B))) := by
  decide +kernel

lemma covers_capital {code : Nat} (h : 0x41 ≤ code ∧ code ≤ 0x5A) :
    (⟨0x41, 0x5A, 1, 32⟩ : CaseRun).covers code = true := by
  simp only [CaseRun.covers, Nat.mod_one, beq_self_eq_true, Bool.and_true, Bool.and_eq_true,
    decide_eq_true_eq]
  exact h

lemma apply_lowerRuns_of_ascii {r : Rune} (h : r.code < 0x80) :
    CaseRun.apply lowerRuns r = r.asciiLower := by
  unfold CaseRun.apply asciiLower
  cases hfound : lowerRuns.find? (·.covers r.code) with
  | none =>
      have hcapital : ¬ (0x41 ≤ r.code ∧ r.code ≤ 0x5A) := by
        intro hletter
        have hnone := List.find?_eq_none.mp hfound ⟨0x41, 0x5A, 1, 32⟩ List.mem_cons_self
        exact hnone (covers_capital hletter)
      rw [if_neg hcapital]
  | some run =>
      have hcovers := List.find?_some hfound
      simp only [CaseRun.covers, Bool.and_eq_true, decide_eq_true_eq] at hcovers
      rcases lowerRuns_ascii run (List.mem_of_find?_eq_some hfound) with
        ⟨hfirst, hlast, -, hshift⟩ | ⟨hfirst, -⟩
      · rw [if_pos ⟨by omega, by omega⟩]
        dsimp only
        rw [hshift]
        rfl
      · omega

lemma apply_lowerRuns_of_not_ascii {r : Rune} (h : 0x80 ≤ r.code) :
    0x80 ≤ (CaseRun.apply lowerRuns r).code ∨ (CaseRun.apply lowerRuns r).code = 0x6B := by
  unfold CaseRun.apply
  cases hfound : lowerRuns.find? (·.covers r.code) with
  | none => exact .inl h
  | some run =>
      have hcovers := List.find?_some hfound
      simp only [CaseRun.covers, Bool.and_eq_true, decide_eq_true_eq] at hcovers
      dsimp only
      unfold ofCode
      split_ifs with hbound
      · show _ ≤ Int.toNat _ ∨ Int.toNat _ = _
        rcases lowerRuns_ascii run (List.mem_of_find?_eq_some hfound) with
          ⟨-, hlast, -, -⟩ | ⟨-, hshift | ⟨hsingle, hshift⟩⟩
        · omega
        · left
          omega
        · right
          omega
      · left
        show 0x80 ≤ 0xFFFD
        omega

end Rune

namespace Text

lemma lowerAt_of_ascii {r : Rune} (h : r.code < 0x80) (after : Bool) (rest : Text) :
    lowerAt after r rest = [r.asciiLower] := by
  rw [lowerAt, if_neg (by omega), if_neg (by omega), Rune.apply_lowerRuns_of_ascii h]

/-- What is not of ASCII leaves something behind that is not, or the letter k. -/
lemma exists_mem_lowerAt {r : Rune} (h : 0x80 ≤ r.code) (after : Bool) (rest : Text) :
    ∃ x ∈ lowerAt after r rest, 0x80 ≤ x.code ∨ x.code = 0x6B := by
  unfold lowerAt
  split_ifs
  · exact ⟨_, List.mem_singleton.mpr rfl, .inl (by decide)⟩
  · exact ⟨_, List.mem_singleton.mpr rfl, .inl (by decide)⟩
  · exact ⟨Rune.ofCode 0x307, by simp, .inl (by decide)⟩
  · exact ⟨_, List.mem_singleton.mpr rfl, Rune.apply_lowerRuns_of_not_ascii h⟩

lemma lowerFrom_of_ascii : ∀ {t : Text} (after : Bool), (∀ r ∈ t, r.code < 0x80) →
    lowerFrom after t = t.map Rune.asciiLower
  | [], _, _ => rfl
  | r :: t, after, h => by
      rw [lowerFrom, lowerAt_of_ascii (h r List.mem_cons_self),
        lowerFrom_of_ascii _ fun x hx => h x (List.mem_cons_of_mem r hx)]
      rfl

lemma ascii_of_lowerFrom : ∀ {t : Text} {after : Bool},
    (∀ x ∈ lowerFrom after t, x.code < 0x80 ∧ x.code ≠ 0x6B) → ∀ r ∈ t, r.code < 0x80
  | r :: t, after, h, x, hx => by
      rw [lowerFrom] at h
      rcases List.mem_cons.mp hx with rfl | hx
      · by_contra hlarge
        obtain ⟨y, hy, hbad⟩ := exists_mem_lowerAt (Nat.le_of_not_lt hlarge) after t
        have := h y (List.mem_append_left _ hy)
        omega
      · exact ascii_of_lowerFrom (fun y hy => h y (List.mem_append_right _ hy)) x hx

/-- **Full case mapping finds no more than ASCII does**, where the result is of ASCII without the
letter k. -/
lemma lower_eq_iff {t key : Text} (hkey : ∀ r ∈ key, r.code < 0x80 ∧ r.code ≠ 0x6B) :
    t.lower = key ↔ t.map Rune.asciiLower = key := by
  constructor
  · rintro rfl
    exact (lowerFrom_of_ascii false (ascii_of_lowerFrom hkey)).symm
  · rintro rfl
    refine lowerFrom_of_ascii false fun r hr => ?_
    exact Rune.ascii_of_asciiLower (hkey r.asciiLower (List.mem_map_of_mem hr)).1

end Text

lemma Method.ascii_key (method : Method) :
    ∀ r ∈ method.key, r.code < 0x80 ∧ r.code ≠ 0x6B := by
  cases method <;> decide

/-! ## Keys of other kinds -/

/-- Whether a code point can begin the key of a method. -/
def Rune.beginsMethod (r : Rune) : Bool :=
  Method.all.any fun method => method.key.head? = some r.asciiLower

/-- **A text that begins as no key of a method does.** -/
def Text.IsForeign (t : Text) : Prop := ∀ r, t.head? = some r → r.beginsMethod = false

lemma Text.IsForeign.ne_key {t : Text} (h : t.IsForeign) (method : Method) :
    t.map Rune.asciiLower ≠ method.key := by
  intro heq
  have hmem : method ∈ Method.all := by cases method <;> decide
  cases t with
  | nil => cases method <;> cases heq
  | cons r rest =>
      have hno := h r rfl
      rw [Rune.beginsMethod, List.any_eq_false] at hno
      refine hno method hmem (decide_eq_true ?_)
      rw [← heq]
      rfl

lemma Text.isForeign_cons {r : Rune} (h : r.beginsMethod = false) (rest : Text) :
    Text.IsForeign (r :: rest) := by
  intro first hfirst
  obtain rfl := Option.some.inj hfirst
  exact h

/-- The characters of numbers, days and times. -/
def figures : Text := "0123456789.-+: einafT"

/-- A text of such characters. -/
def Text.IsFigures (t : Text) : Prop := ∀ r ∈ t, r ∈ figures

instance (t : Text) : Decidable t.IsFigures :=
  inferInstanceAs (Decidable (∀ r ∈ t, r ∈ figures))

lemma Text.IsFigures.isForeign {t : Text} (h : t.IsFigures) : t.IsForeign := by
  have hfigures : ∀ r ∈ figures, r.beginsMethod = false := by decide
  intro r hr
  exact hfigures r (h r (List.mem_of_mem_head? hr))

namespace Text

lemma IsFigures.append {s t : Text} (hs : s.IsFigures) (ht : t.IsFigures) : (s ++ t).IsFigures := by
  intro r hr
  rcases List.mem_append.mp hr with hr | hr
  · exact hs r hr
  · exact ht r hr

lemma IsFigures.ite {p : Prop} [Decidable p] {s t : Text} (hs : s.IsFigures) (ht : t.IsFigures) :
    IsFigures (if p then s else t) := by
  split_ifs
  · exact hs
  · exact ht

lemma IsFigures.of_subset {s t : Text} (ht : t.IsFigures) (h : s ⊆ t) : s.IsFigures :=
  fun r hr => ht r (h hr)

lemma isFigures_zeros (n : Nat) : IsFigures (List.replicate n ('0' : Rune)) := by
  intro r hr
  obtain rfl := List.eq_of_mem_replicate hr
  decide

lemma mem_figures_of_digit {r : Rune} (h : 0x30 ≤ r.code ∧ r.code ≤ 0x39) : r ∈ figures := by
  have hdigits : ∀ n < 10, Rune.ofCode (0x30 + n) ∈ figures := by decide
  have hr : r = Rune.ofCode (0x30 + (r.code - 0x30)) := by
    rw [Nat.add_sub_cancel' h.1, Rune.ofCode_code]
  rw [hr]
  exact hdigits _ (by omega)

lemma isFigures_ofNat (n : Nat) : (ofNat n).IsFigures := by
  intro r hr
  obtain ⟨c, hc, rfl⟩ := List.mem_map.mp hr
  have hdigit : c.isDigit = true := Nat.isDigit_of_mem_toDigits (by decide) (by decide) hc
  simp only [Char.isDigit, Bool.and_eq_true, decide_eq_true_eq] at hdigit
  exact mem_figures_of_digit
    ⟨UInt32.le_iff_toNat_le.mp hdigit.1, UInt32.le_iff_toNat_le.mp hdigit.2⟩

lemma isFigures_ofNatPadded (width n : Nat) : (ofNatPadded width n).IsFigures :=
  (isFigures_zeros _).append (isFigures_ofNat n)

lemma isFigures_ofInt : ∀ i : Int, (ofInt i).IsFigures
  | .ofNat n => isFigures_ofNat n
  | .negSucc n => IsFigures.append (s := "-") (by decide) (isFigures_ofNat (n + 1))

end Text

lemma isFigures_mantissa (digits : Nat) (place : Int) : (mantissa digits place).1.IsFigures := by
  refine (Text.isFigures_ofNat digits).of_subset fun r hr => ?_
  have hr := List.mem_reverse.mp hr
  exact List.mem_reverse.mp (List.dropWhile_subset _ hr)

lemma isFigures_decimalText {digits : Text} (h : digits.IsFigures) (exponent : Int) :
    (decimalText digits exponent).IsFigures := by
  have htake : ∀ n, Text.IsFigures (digits.take n) := fun n => h.of_subset (List.take_subset n _)
  have hdrop : ∀ n, Text.IsFigures (digits.drop n) := fun n => h.of_subset (List.drop_subset n _)
  have hpoint : Text.IsFigures "." := by decide
  have hmark : Text.IsFigures "e" := by decide
  unfold decimalText
  dsimp only
  refine .ite (.ite ?_ (.ite ?_ ?_)) ?_
  · exact .append (.append (by decide) (Text.isFigures_zeros _)) h
  · exact .append (h.append (Text.isFigures_zeros _)) (by decide)
  · exact ((htake _).append hpoint).append (hdrop _)
  · -- a mantissa with an exponent
    refine .append (.append (.append (.append (htake 1) ?_) hmark) ?_)
      (Text.isFigures_ofNatPadded _ _)
    · exact .ite (by decide) (hpoint.append (hdrop 1))
    · exact .ite (by decide) (by decide)

lemma Double.isFigures_text (x : Double) : x.text.IsFigures := by
  unfold Double.text
  split
  · decide
  · exact .ite (by decide) (by decide)
  · dsimp only
    refine .ite (.append (by decide) ?_) ?_
    all_goals exact .ite (by decide) (isFigures_decimalText (isFigures_mantissa _ _) _)

lemma Date.isFigures_iso (d : Date) : d.iso.IsFigures := by
  have hhyphen : Text.IsFigures "-" := by decide
  exact ((((Text.isFigures_ofNatPadded 4 _).append hhyphen).append
    (Text.isFigures_ofNatPadded 2 _)).append hhyphen).append (Text.isFigures_ofNatPadded 2 _)

lemma Clock.isFigures_iso (c : Clock) : c.iso.IsFigures := by
  have hcolon : Text.IsFigures ":" := by decide
  refine (((((Text.isFigures_ofNatPadded 2 _).append hcolon).append
    (Text.isFigures_ofNatPadded 2 _)).append hcolon).append
      (Text.isFigures_ofNatPadded 2 _)).append ?_
  exact .ite (by decide) (.append (by decide) (Text.isFigures_ofNatPadded 6 _))

lemma isFigures_offsetText (seconds : Int) : (offsetText seconds).IsFigures := by
  have hcolon : Text.IsFigures ":" := by decide
  refine .append (.append (.append (.append ?_ (Text.isFigures_ofNatPadded 2 _)) hcolon)
    (Text.isFigures_ofNatPadded 2 _)) ?_
  · exact .ite (by decide) (by decide)
  · exact .ite (by decide) (hcolon.append (Text.isFigures_ofNatPadded 2 _))

lemma Moment.isFigures_isoWith {separator : Text} (h : separator.IsFigures) (m : Moment) :
    (m.isoWith separator).IsFigures := by
  refine ((m.date.isFigures_iso.append h).append m.clock.isFigures_iso).append ?_
  cases m.offset with
  | none => exact (by decide : Text.IsFigures [])
  | some seconds => exact isFigures_offsetText seconds

/-! ## Names of methods -/

/-- What is shown of a key that is no text begins as no key of a method does. -/
lemma isForeign_of_shown {key : Value} {t : Text} (hkey : ∀ name, key ≠ .text name)
    (h : key.shown = .ok t) : t.IsForeign := by
  cases key with
  | text name => exact absurd rfl (hkey name)
  | null =>
      obtain rfl := Except.ok.inj h
      exact Text.isForeign_cons (by decide) _
  | bool b =>
      obtain rfl := Except.ok.inj h
      cases b
      · exact Text.isForeign_cons (by decide) _
      · exact Text.isForeign_cons (by decide) _
  | int i =>
      simp only [Value.shown, Value.literal] at h
      unfold integerText at h
      split_ifs at h
      obtain rfl := Except.ok.inj h
      exact (Text.isFigures_ofInt i).isForeign
  | float x =>
      obtain rfl := Except.ok.inj h
      exact x.isFigures_text.isForeign
  | date d =>
      obtain rfl := Except.ok.inj h
      exact d.isFigures_iso.isForeign
  | moment m =>
      obtain rfl := Except.ok.inj h
      exact (m.isFigures_isoWith (by decide)).isForeign
  | clock c =>
      obtain rfl := Except.ok.inj h
      exact c.isFigures_iso.isForeign
  | bytes octets =>
      obtain rfl := Except.ok.inj h
      exact Text.isForeign_cons (by decide) _
  | list items =>
      obtain ⟨parts, -, h⟩ := exists_of_except_bind h
      obtain rfl := Except.ok.inj h
      exact Text.isForeign_cons (by decide) _
  | map entries =>
      obtain ⟨parts, -, h⟩ := exists_of_except_bind h
      obtain rfl := Except.ok.inj h
      exact Text.isForeign_cons (by decide) _
  | tuple items =>
      match items, h with
      | [item], h =>
          obtain ⟨part, -, h⟩ := exists_of_except_bind h
          obtain rfl := Except.ok.inj h
          exact Text.isForeign_cons (by decide) _
      | [], h | _ :: _ :: _, h =>
          obtain ⟨parts, -, h⟩ := exists_of_except_bind h
          obtain rfl := Except.ok.inj h
          exact Text.isForeign_cons (by decide) _
  | set items =>
      match items, h with
      | [], h =>
          obtain rfl := Except.ok.inj h
          exact Text.isForeign_cons (by decide) _
      | _ :: _, h =>
          obtain ⟨parts, -, h⟩ := exists_of_except_bind h
          obtain rfl := Except.ok.inj h
          exact Text.isForeign_cons (by decide) _

lemma Method.ofKey?_eq_some_iff {key : Text} {method : Method} :
    ofKey? key = some method ↔ key = method.key := by
  constructor
  · intro hfound
    have hsame := List.find?_some (p := fun m : Method => decide (m.key = key)) hfound
    exact (of_decide_eq_true hsame).symm
  · rintro rfl
    cases method <;> rfl

/-- **A key is taken for a method if it names it.** -/
theorem ofKey?_lower_shown {key : Value} {t : Text} (h : key.shown = .ok t) (method : Method) :
    Method.ofKey? t.lower = some method ↔ key.NamesMethod method := by
  rw [Method.ofKey?_eq_some_iff, Text.lower_eq_iff method.ascii_key]
  constructor
  · intro heq
    by_cases hkey : ∃ name, key = .text name
    · obtain ⟨name, rfl⟩ := hkey
      obtain rfl := Except.ok.inj h
      exact ⟨name, rfl, heq⟩
    · have hforeign := isForeign_of_shown (fun name hname => hkey ⟨name, hname⟩) h
      exact absurd heq (hforeign.ne_key method)
  · rintro ⟨name, rfl, heq⟩
    obtain rfl := Except.ok.inj h
    exact heq

end LoadPlan
