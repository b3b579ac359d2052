import LoadPlan.Number.Numeral
import Mathlib.Tactic.Lemma

/-!
# Decimal texts are read back

* `digitsValue_toDigits` — the value of the digits of a number is the number.
* `readNatural_toDigits` — the digits of a number are read back, unless they are too many.
* **`readInteger?_toDigits`** — a number that is written in decimal is read back, unless it has too many
  digits.
* `isDigits_ofNat` — the decimal text of a number consists of digits.
-/

namespace LoadPlan

/-! ## Digits -/

lemma isAsciiDigit_of_mem {n : Nat} {c : Char} (h : c ∈ Nat.toDigits 10 n) :
    isAsciiDigit c = true := by
  have hdigit : c.isDigit = true := Nat.isDigit_of_mem_toDigits (by decide) (by decide) h
  simp only [Char.isDigit, Bool.and_eq_true, decide_eq_true_eq] at hdigit
  exact Bool.and_eq_true_iff.mpr ⟨decide_eq_true hdigit.1, decide_eq_true hdigit.2⟩

lemma toNat_of_isAsciiDigit {c : Char} (h : isAsciiDigit c = true) : 0x30 ≤ c.toNat ∧ c.toNat ≤ 0x39 := by
  simp only [isAsciiDigit, Bool.and_eq_true, decide_eq_true_eq] at h
  exact h

lemma charDigit?_of_isAsciiDigit {c : Char} (h : isAsciiDigit c = true) :
    charDigit? c = some (c.toNat - 48) := by
  simp only [isAsciiDigit, Bool.and_eq_true, decide_eq_true_eq] at h
  rw [charDigit?, if_pos h]

/-- The value of the digits of a number is the number. -/
lemma digitsValue_toDigits (n : Nat) : digitsValue 10 (Nat.toDigits 10 n) = n := by
  have hfold : ∀ (cs : List Char) (start : Nat), (∀ c ∈ cs, isAsciiDigit c = true) →
      cs.foldl (fun value c => value * 10 + (charDigit? c).getD 0) start =
        Nat.ofDigitChars 10 cs start := by
    intro cs
    induction cs with
    | nil => exact fun _ _ => rfl
    | cons c cs ih =>
        intro start h
        rw [List.foldl_cons, ih _ fun d hd => h d (List.mem_cons_of_mem c hd),
          charDigit?_of_isAsciiDigit (h c List.mem_cons_self), Nat.mul_comm]
        rfl
  rw [digitsValue, hfold _ _ fun _ => isAsciiDigit_of_mem]
  exact Nat.ofDigitChars_toDigits (by decide) (by decide)

lemma length_toDigits_le_iff {n k : Nat} (hk : 0 < k) :
    (Nat.toDigits 10 n).length ≤ k ↔ n < Nat.pow 10 k :=
  Nat.length_toDigits_le_iff (by decide) hk

/-- A number that is not too long is read. -/
lemma readNatural_toDigits {n : Nat} (h : n < Nat.pow 10 maxDigits) :
    readNatural (Nat.toDigits 10 n) = .ok n := by
  rw [readNatural, if_neg (Nat.not_lt.mpr ((length_toDigits_le_iff (by decide)).mpr h)),
    digitsValue_toDigits]

/-- A number with few digits has no more digits than another bound allows. -/
lemma lt_pow_of_lt {n e k : Nat} (h : n < Nat.pow 10 e) (he : e ≤ k) : n < Nat.pow 10 k :=
  Nat.lt_of_lt_of_le h (Nat.pow_le_pow_right (show 0 < 10 by decide) he)

lemma splitSign_toDigits (n : Nat) : splitSign (Nat.toDigits 10 n) = (false, Nat.toDigits 10 n) := by
  have hdigits : ∀ c ∈ Nat.toDigits 10 n, c.isDigit = true :=
    fun c hc => Nat.isDigit_of_mem_toDigits (by decide) (by decide) hc
  unfold splitSign
  split
  · rename_i rest heq
    exact absurd (hdigits '-' (by rw [heq]; exact List.mem_cons_self)) (by decide)
  · rename_i rest heq
    exact absurd (hdigits '+' (by rw [heq]; exact List.mem_cons_self)) (by decide)
  · rfl

/-! ## Reading -/

section

variable {cs : List Char}

lemma asciiNumeral?_of_digits (h : ∀ c ∈ cs, isAsciiDigit c = true) : asciiNumeral? cs = some cs := by
  induction cs with
  | nil => rfl
  | cons c cs ih =>
      rw [List.forall_mem_cons] at h
      have hascii : (Rune.ofChar c).isAscii = true :=
        decide_eq_true (Nat.lt_of_le_of_lt (toNat_of_isAsciiDigit h.1).2 (by decide))
      have hrest := ih h.2
      unfold asciiNumeral? at hrest ⊢
      rw [List.mapM_cons, hrest]
      simp [hascii]

lemma not_isAsciiBlank_of_isAsciiDigit {c : Char} (h : isAsciiDigit c = true) :
    ¬ isAsciiBlank c = true := by
  have hcode := toNat_of_isAsciiDigit h
  rw [isAsciiBlank, Bool.or_eq_true, Bool.and_eq_true, decide_eq_true_iff, decide_eq_true_iff,
    decide_eq_true_iff]
  rintro (rfl | ⟨-, hle⟩)
  · exact absurd h (by decide)
  · have hsmall : c.toNat ≤ 13 := hle
    omega

/-- There is no blank in front of digits or behind them. -/
lemma trimAsciiBlanks_of_digits (h : ∀ c ∈ cs, isAsciiDigit c = true) : trimAsciiBlanks cs = cs := by
  have hkept : ∀ {ds : List Char}, (∀ c ∈ ds, isAsciiDigit c = true) →
      ds.dropWhile isAsciiBlank = ds := by
    intro ds hds
    cases ds with
    | nil => rfl
    | cons d ds =>
        exact List.dropWhile_cons_of_neg (not_isAsciiBlank_of_isAsciiDigit (hds d List.mem_cons_self))
  rw [trimAsciiBlanks, hkept h, hkept fun c hc => h c (List.mem_reverse.mp hc), List.reverse_reverse]

/-- Decimal rows have no mark of their base. -/
lemma dropBaseMark_ten (cs : List Char) : dropBaseMark 10 cs = cs := by
  unfold dropBaseMark
  split
  · rfl
  · rfl

/-- There are no low lines between digits. -/
lemma ungroup?_of_digits : ∀ {cs : List Char}, cs ≠ [] → (∀ c ∈ cs, isAsciiDigit c = true) →
    ungroup? 10 cs = some cs
  | [], hne, _ => absurd rfl hne
  | [c], _, h => by
      rw [List.forall_mem_singleton] at h
      have hc := toNat_of_isAsciiDigit h
      rw [ungroup?, charDigit?_of_isAsciiDigit h, Option.any_some, if_pos (decide_eq_true (by omega))]
  | c :: d :: rest, _, h => by
      rw [List.forall_mem_cons] at h
      have hc := toNat_of_isAsciiDigit h.1
      have hd : d ≠ '_' := by
        rintro rfl
        exact absurd (h.2 '_' List.mem_cons_self) (by decide)
      have hrest := ungroup?_of_digits (List.cons_ne_nil d rest) h.2
      rw [ungroup?, charDigit?_of_isAsciiDigit h.1, Option.any_some,
        if_pos (decide_eq_true (by omega)), hrest, Option.map_some]
      exact hd

end

/-- **The digits of a number are read back**, unless there are too many of them. -/
lemma readInteger?_toDigits (n : Nat) :
    readInteger? 10 (Nat.toDigits 10 n) =
      if n < Nat.pow 10 maxDigits then some (n : Int) else none := by
  have hdigits : ∀ c ∈ Nat.toDigits 10 n, isAsciiDigit c = true := fun _ => isAsciiDigit_of_mem
  have hne : Nat.toDigits 10 n ≠ [] := List.ne_nil_of_length_pos Nat.length_toDigits_pos
  have hlength : (Nat.toDigits 10 n).length ≤ maxDigits ↔ n < Nat.pow 10 maxDigits :=
    length_toDigits_le_iff (by decide)
  unfold readInteger?
  rw [asciiNumeral?_of_digits hdigits]
  dsimp only
  rw [trimAsciiBlanks_of_digits hdigits, splitSign_toDigits]
  dsimp only
  rw [dropBaseMark_ten, ungroup?_of_digits hne hdigits]
  dsimp only
  rw [digitsValue_toDigits]
  by_cases h : n < Nat.pow 10 maxDigits
  · rw [if_pos h, if_neg fun hlong => Nat.not_lt.mpr (hlength.mpr h) hlong.2]
    rfl
  · rw [if_neg h, if_pos ⟨rfl, Nat.not_le.mp (mt hlength.mp h)⟩]

lemma isDigit_of_isAsciiDigit {c : Char} (h : isAsciiDigit c = true) : (Rune.ofChar c).isDigit = true := by
  obtain ⟨hlow, hhigh⟩ := toNat_of_isAsciiDigit h
  have hzero : ∃ start ∈ decimalZeros,
      (decide (start ≤ (Rune.ofChar c).code) && decide ((Rune.ofChar c).code < start + 10)) = true :=
    ⟨0x30, List.mem_cons_self,
      Bool.and_eq_true_iff.mpr ⟨decide_eq_true hlow, decide_eq_true (Nat.lt_succ_of_le hhigh)⟩⟩
  rw [Rune.isDigit, Rune.decimalValue?, Option.isSome_map, List.find?_isSome.mpr hzero, Bool.true_or]

lemma Text.ofNat_ne_nil (n : Nat) : Text.ofNat n ≠ [] :=
  mt List.map_eq_nil_iff.mp (List.ne_nil_of_length_pos Nat.length_toDigits_pos)

lemma Text.isAsciiDigit_ofNat {n : Nat} : ∀ r ∈ Text.ofNat n, r.isAsciiDigit = true := by
  intro r hr
  obtain ⟨c, hc, rfl⟩ := List.mem_map.mp hr
  obtain ⟨hlow, hhigh⟩ := toNat_of_isAsciiDigit (isAsciiDigit_of_mem hc)
  exact Bool.and_eq_true_iff.mpr ⟨decide_eq_true hlow, decide_eq_true hhigh⟩

/-- The decimal text of a number consists of digits. -/
lemma Text.isDigits_ofNat (n : Nat) : (Text.ofNat n).isDigits = true := by
  rw [isDigits, Bool.and_eq_true, Bool.not_eq_true', List.isEmpty_eq_false_iff, List.all_eq_true]
  refine ⟨ofNat_ne_nil n, fun r hr => ?_⟩
  obtain ⟨c, hc, rfl⟩ := List.mem_map.mp hr
  exact isDigit_of_isAsciiDigit (isAsciiDigit_of_mem hc)

end LoadPlan
