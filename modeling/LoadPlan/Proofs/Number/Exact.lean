import LoadPlan.Number.Double
import Mathlib.Algebra.Order.Floor.Ring
import Mathlib.Data.Rat.Floor
import Mathlib.Tactic.Lemma
import Mathlib.Tactic.NormNum
import Mathlib.Tactic.SplitIfs

/-!
# What numbers are exactly

* `Double.exact?`, `Numeric.exact?` — the rational number that a number is.
* `Double.floor?_of_exact`, `Double.ceil?_of_exact` — the integers next to it.
* `Double.largest` — the largest number of the format.
* **`Double.ofInt?_of_le`** — an integer up to that has a number near it.
-/

namespace LoadPlan

/-! ## Exact values -/

/-- **The rational number that a finite number is.** -/
def Double.exact? : Double → Option ℚ
  | nan => none
  | infinite _ => none
  | finite negative significand exponent =>
    some ((if negative then -1 else 1) * significand * (2 : ℚ) ^ exponent)

/-- The same for numbers of both kinds. -/
def Numeric.exact? : Numeric → Option ℚ
  | int i => some i
  | float x => x.exact?

namespace Double

variable {x : Double} {q : ℚ}

/-- The fraction of a number is what it is exactly. -/
lemma exists_of_exact (h : x.exact? = some q) :
    ∃ (n : Int) (d : Nat), x.toFraction? = some (n, d) ∧ q = n / d := by
  cases x with
  | nan => cases h
  | infinite negative => cases h
  | finite negative significand exponent =>
      obtain rfl := Option.some.inj h
      refine ⟨_, _, rfl, ?_⟩
      have hpow : (2 : ℚ) ^ exponent = 2 ^ exponent.toNat / 2 ^ (-exponent).toNat := by
        rcases Int.le_total 0 exponent with hle | hle
        · rw [Int.toNat_eq_zero.mpr (Int.neg_nonpos_of_nonneg hle), pow_zero, div_one, ← zpow_natCast,
            Int.toNat_of_nonneg hle]
        · rw [Int.toNat_eq_zero.mpr hle, pow_zero, one_div, ← zpow_natCast, ← zpow_neg,
            Int.toNat_of_nonneg (Int.neg_nonneg_of_nonpos hle), neg_neg]
      rw [hpow, ← mul_div_assoc]
      cases negative with
      | false => simp [Nat.pow_eq]
      | true => simp [Nat.pow_eq]

lemma floor?_of_exact (h : x.exact? = some q) : x.floor? = some ⌊q⌋ := by
  obtain ⟨n, d, hfraction, rfl⟩ := exists_of_exact h
  rw [floor?, hfraction, Rat.floor_intCast_div_natCast]
  exact congrArg some (Int.fdiv_eq_ediv_of_nonneg n (Int.natCast_nonneg d))

lemma ceil?_of_exact (h : x.exact? = some q) : x.ceil? = some ⌈q⌉ := by
  obtain ⟨n, d, hfraction, rfl⟩ := exists_of_exact h
  have hneg : ⌈(n : ℚ) / d⌉ = -⌊((-n : Int) : ℚ) / d⌋ := by
    rw [Int.cast_neg, neg_div, Int.floor_neg, neg_neg]
  rw [ceil?, hfraction, hneg, Rat.floor_intCast_div_natCast]
  exact congrArg some (congrArg Neg.neg (Int.fdiv_eq_ediv_of_nonneg (-n) (Int.natCast_nonneg d)))

end Double

/-! ## The range of the format -/

lemma roundHalfEven_le {numerator denominator limit : Nat} (hpos : 0 < denominator)
    (h : numerator ≤ limit * denominator) : roundHalfEven numerator denominator ≤ limit := by
  have hquotient : numerator / denominator ≤ limit := Nat.div_le_of_le_mul (by rwa [Nat.mul_comm])
  rcases Nat.lt_or_eq_of_le hquotient with hlt | heq
  · unfold roundHalfEven
    dsimp only
    split_ifs <;> omega
  · -- nothing is left over then
    have hrest : numerator % denominator = 0 := by
      have hdiv := Nat.div_add_mod numerator denominator
      rw [heq, Nat.mul_comm] at hdiv
      omega
    unfold roundHalfEven
    dsimp only
    rw [hrest, if_pos (by omega)]
    exact hquotient

namespace Double

/-- The largest number of the format. -/
def largest : Nat := (2 ^ 53 - 1) * 2 ^ 971

section

variable {n : Nat}

lemma exponentFor_le (hn : n ≠ 0) (h : n ≤ largest) : exponentFor n 1 ≤ 971 := by
  have hlog : n.log2 < 53 + 971 := by
    rw [Nat.log2_lt hn]
    calc n ≤ (2 ^ 53 - 1) * 2 ^ 971 := h
      _ < 2 ^ 53 * 2 ^ 971 := Nat.mul_lt_mul_of_pos_right (by decide) (pow_pos two_pos 971)
      _ = 2 ^ (53 + 971) := (pow_add 2 53 971).symm
  have hone : Nat.log2 1 = 0 := by decide
  unfold exponentFor
  dsimp only
  rw [hone]
  split_ifs <;> omega

lemma scaleDown_one (n exponent : Nat) : scaleDown n 1 exponent = (n, 2 ^ exponent) := by
  rw [scaleDown, if_pos (Int.natCast_nonneg exponent), Nat.one_mul, Int.toNat_natCast]
  rfl

/-- At the largest exponent the significand is one of the format. -/
lemma significand_lt (h : n ≤ largest) :
    roundHalfEven (scaleDown n 1 971).1 (scaleDown n 1 971).2 < Nat.pow 2 53 := by
  have hscaled : scaleDown n 1 971 = (n, 2 ^ 971) := scaleDown_one n 971
  rw [hscaled]
  exact Nat.lt_of_le_of_lt (roundHalfEven_le (pow_pos two_pos 971) h) (by decide)

lemma exists_of_ofRatio (h : n ≤ largest) (negative : Bool) :
    ∃ significand exponent, ofRatio negative n 1 = finite negative significand exponent := by
  unfold ofRatio
  dsimp only
  split_ifs with hn hsignificand hexponent hexponent
  · exact ⟨_, _, rfl⟩
  · exact ⟨_, _, rfl⟩
  · exact (hexponent (exponentFor_le hn h)).elim
  · exact ⟨_, _, rfl⟩
  · have hlargest : exponentFor n 1 = 971 :=
      Int.le_antisymm (exponentFor_le hn h) (Int.not_lt.mp hexponent)
    rw [hlargest] at hsignificand
    exact (hsignificand (significand_lt h)).elim

/-- **An integer in the range of the format has a number near it.** -/
lemma ofInt?_of_le {i : Int} (h : i.natAbs ≤ largest) : ∃ x, ofInt? i = some x := by
  obtain ⟨significand, exponent, hfinite⟩ := exists_of_ofRatio h (decide (i < 0))
  exact ⟨_, by rw [ofInt?, ofInt, hfinite]⟩

end

end Double

end LoadPlan
