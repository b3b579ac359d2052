import LoadPlan.Text
import Mathlib.Algebra.BigOperators.Fin
import Mathlib.Tactic.Lemma
import Mathlib.RingTheory.Coprime.Lemmas
import Mathlib.Tactic.NormNum
import Mathlib.Tactic.Ring

/-!
# The hash of a text

The hash is computed in 32 bits from step to step.  It is the value of a polynomial that is wrapped once, at
the end.  Elsewhere the hash of a text is taken over the units of UTF-16; a code point beyond the first plane
is two of these, so the two hashes are the same as long as no such code point occurs.

* `polynomial` — the polynomial in 31 with some coefficients; `wrap32` — a number in 32 bits with sign.
* **`Text.hash_eq`** — the hash is the polynomial of the code points, wrapped.
* `Text.units`, `Text.unitHash` — the units of a text, and the hash over them.
* **`Text.hash_eq_unitHash`** — both hashes of a text of the first plane are the same.
* `Text.hash_ne_unitHash` — they differ for a text whose only code point beyond that plane is the first.
-/

namespace LoadPlan

/-! ## Polynomials -/

/-- **The polynomial in 31** with some coefficients, the first of which has the highest power. -/
def polynomial (us : List Nat) : Nat := ∑ i : Fin us.length, us[i] * 31 ^ (us.length - 1 - i)

lemma polynomial_cons (u : Nat) (us : List Nat) :
    polynomial (u :: us) = u * 31 ^ us.length + polynomial us := by
  have hpower : ∀ i : Fin us.length, us.length - (i + 1) = us.length - 1 - i := fun i => by omega
  show ∑ i : Fin (us.length + 1), (u :: us)[i] * 31 ^ (us.length + 1 - 1 - i) = _
  rw [Fin.sum_univ_succ]
  simp only [Fin.val_zero, Fin.val_succ, Fin.getElem_fin, List.getElem_cons_zero, List.getElem_cons_succ,
    Nat.add_sub_cancel, Nat.sub_zero, hpower,
    polynomial]

/-- Coefficients one after another: the value so far is raised, and the next coefficient is added. -/
lemma foldl_eq_polynomial (us : List Nat) (h : Nat) :
    us.foldl (fun h u => 31 * h + u) h = h * 31 ^ us.length + polynomial us := by
  induction us generalizing h with
  | nil => simp [polynomial]
  | cons u us ih =>
      rw [List.foldl_cons, ih, polynomial_cons, List.length_cons, pow_succ]
      ring

/-- It does not matter whether remainders are taken in each step or at the end. -/
lemma foldl_mod (m : Nat) (us : List Nat) (h : Nat) :
    us.foldl (fun h u => (31 * h + u) % m) (h % m) = us.foldl (fun h u => 31 * h + u) h % m := by
  induction us generalizing h with
  | nil => rfl
  | cons u us ih =>
      rw [List.foldl_cons, List.foldl_cons, ← ih]
      congr 1
      rw [Nat.add_mod, Nat.mul_mod_mod, ← Nat.add_mod]

/-! ## Words of 32 bits -/

/-- **A number in 32 bits with sign.** -/
def wrap32 (n : Nat) : Int := (BitVec.ofNat 32 n).toInt

lemma signed32_mod (n : Nat) : signed32 (n % 2 ^ 32) = wrap32 n := by
  simp only [signed32, wrap32, BitVec.toInt, BitVec.toNat_ofNat, Nat.pow_eq]
  split_ifs <;> omega

lemma wrap32_range (n : Nat) : -2 ^ 31 ≤ wrap32 n ∧ wrap32 n < 2 ^ 31 :=
  ⟨BitVec.le_toInt _, BitVec.toInt_lt⟩

/-- Numbers are the same in 32 bits if their difference is a multiple of the next power of two. -/
lemma wrap32_eq_iff (m n : Nat) : wrap32 m = wrap32 n ↔ (2 ^ 32 : Int) ∣ m - n := by
  rw [wrap32, wrap32, BitVec.toInt_inj, ← BitVec.toNat_inj, BitVec.toNat_ofNat, BitVec.toNat_ofNat]
  omega

/-! ## Hashes -/

/-- **The units of a code point** in UTF-16.  Beyond the first plane it is written as two of them. -/
def Rune.units (r : Rune) : List Nat :=
  if r.code < 0x10000 then [r.code]
  else [0xD800 + (r.code - 0x10000) / 0x400, 0xDC00 + (r.code - 0x10000) % 0x400]

namespace Text

/-- The units of a text. -/
def units (t : Text) : List Nat := t.flatMap Rune.units

/-- **The hash of a text over its units.** -/
def unitHash (t : Text) : Int := wrap32 (polynomial t.units)

/-- **The hash of a text** is the polynomial of its code points, wrapped once. -/
theorem hash_eq (t : Text) : t.hash = wrap32 (polynomial (t.map Rune.code)) := by
  have hfold : t.foldl (fun h r => (31 * h + r.code) % Nat.pow 2 32) 0 =
      polynomial (t.map Rune.code) % 2 ^ 32 := by
    have hmod := foldl_mod (2 ^ 32) (t.map Rune.code) 0
    rw [foldl_eq_polynomial, Nat.zero_mul, Nat.zero_add, List.foldl_map] at hmod
    exact hmod
  rw [hash, hfold, signed32_mod]

lemma units_eq {t : Text} (h : ∀ r ∈ t, r.code < 0x10000) : t.units = t.map Rune.code := by
  have hunits : ∀ r ∈ t, Rune.units r = [r.code] := fun r hr => if_pos (h r hr)
  rw [units, List.flatMap_congr hunits, List.map_eq_flatMap]

/-- **In the first plane, the hash over units is the hash over code points.** -/
theorem hash_eq_unitHash {t : Text} (h : ∀ r ∈ t, r.code < 0x10000) : t.hash = t.unitHash := by
  rw [hash_eq, unitHash, units_eq h]

/-- **A code point beyond the first plane changes the hash** if no other one follows.  The two values differ by
less than one wrap, and the power of 31 that it is multiplied with does not make up for that. -/
theorem hash_ne_unitHash {r : Rune} {t : Text} (hr : 0x10000 ≤ r.code)
    (h : ∀ s ∈ t, s.code < 0x10000) : hash (r :: t) ≠ unitHash (r :: t) := by
  have hunits : units (r :: t) = (0xD800 + (r.code - 0x10000) / 0x400) ::
      (0xDC00 + (r.code - 0x10000) % 0x400) :: t.map Rune.code := by
    have hpair : r.units = [0xD800 + (r.code - 0x10000) / 0x400, 0xDC00 + (r.code - 0x10000) % 0x400] :=
      if_neg (Nat.not_lt.mpr hr)
    rw [units, List.flatMap_cons, hpair, ← units_eq h]
    rfl
  rw [hash_eq, unitHash, hunits, List.map_cons, polynomial_cons, polynomial_cons, polynomial_cons, ne_eq,
    wrap32_eq_iff]
  simp only [List.length_cons, List.length_map]
  intro hdvd
  have hlt := r.code_lt
  obtain ⟨high, low, hhigh, hlow⟩ : ∃ high low : Nat, (r.code - 0x10000) / 0x400 = high ∧
      (r.code - 0x10000) % 0x400 = low := ⟨_, _, rfl, rfl⟩
  rw [hhigh, hlow] at hdvd
  have hdifference : ((r.code * 31 ^ t.length + polynomial (t.map Rune.code) : Nat) : Int) -
      ((0xD800 + high) * 31 ^ (t.length + 1) + ((0xDC00 + low) * 31 ^ t.length +
        polynomial (t.map Rune.code)) : Nat) =
      (r.code - (0xD800 + high) * 31 - (0xDC00 + low)) * 31 ^ t.length := by
    push_cast
    ring
  rw [hdifference] at hdvd
  have hcoprime : IsCoprime (2 ^ 32 : Int) (31 ^ t.length) :=
    IsCoprime.pow (Int.isCoprime_iff_gcd_eq_one.mpr rfl)
  have hsmall := hcoprime.dvd_of_dvd_mul_right hdvd
  omega

end Text

end LoadPlan
