import Mathlib.Algebra.Order.Field.Rat
import Mathlib.Data.Rat.Cast.Order
import Mathlib.Order.Compare
import ShapeGraph.Number.Binary64

namespace ShapeGraph.Binary64

def value? : Binary64 → Option ℚ
  | .finite negative e f =>
    some ((if negative then -1 else 1) * significand e f * (2 : ℚ) ^ scale e)
  | .infinite _ => none

theorem value?_eq_none_iff {x : Binary64} :
    x.value? = none ↔ ∃ negative, x = .infinite negative := by
  cases x <;> simp [value?]

theorem zpow_eq_div (b : ℚ) (k : Int) : b ^ k = b ^ k.toNat / b ^ (-k).toNat := by
  rcases Int.le_total 0 k with h | h
  · obtain ⟨n, rfl⟩ := Int.eq_ofNat_of_zero_le h
    simp
  · obtain ⟨n, hn⟩ := Int.eq_ofNat_of_zero_le (Int.neg_nonneg_of_nonpos h)
    obtain rfl : k = -n := by omega
    simp

def fraction (negative : Bool) (e : Fin 2047) (f : Fin fractions) : Int × Nat :=
  let num : Int := significand e f * Nat.pow 2 (scale e).toNat
  (if negative then -num else num, Nat.pow 2 (-scale e).toNat)

theorem value?_finite (negative : Bool) (e : Fin 2047) (f : Fin fractions) :
    value? (.finite negative e f) =
      some (((fraction negative e f).1 : ℚ) / (fraction negative e f).2) := by
  simp only [value?, fraction, zpow_eq_div]
  cases negative
  · push_cast
    simp [mul_div_assoc]
  · push_cast
    simp [mul_div_assoc, neg_div]

theorem compareInt_finite (negative : Bool) (e : Fin 2047) (f : Fin fractions) (n : Int) :
    compareInt (.finite negative e f) n =
      compare (fraction negative e f).1 (n * (fraction negative e f).2) := by
  cases negative <;> rfl

theorem fraction_den_pos (negative : Bool) (e : Fin 2047) (f : Fin fractions) :
    (0 : ℚ) < (fraction negative e f).2 := by
  have : 0 < (fraction negative e f).2 := Nat.two_pow_pos _
  exact_mod_cast this

theorem compareInt_eq_lt_iff {x : Binary64} {q : ℚ} (h : x.value? = some q) (n : Int) :
    x.compareInt n = .lt ↔ q < n := by
  cases x with
  | infinite negative => simp [value?] at h
  | finite negative e f =>
    rw [value?_finite, Option.some.injEq] at h
    rw [← h, compareInt_finite, compare_lt_iff_lt, div_lt_iff₀ (fraction_den_pos negative e f)]
    exact_mod_cast Iff.rfl

theorem compareInt_eq_gt_iff {x : Binary64} {q : ℚ} (h : x.value? = some q) (n : Int) :
    x.compareInt n = .gt ↔ n < q := by
  cases x with
  | infinite negative => simp [value?] at h
  | finite negative e f =>
    rw [value?_finite, Option.some.injEq] at h
    rw [← h, compareInt_finite, compare_gt_iff_gt, lt_div_iff₀ (fraction_den_pos negative e f)]
    exact_mod_cast Iff.rfl

theorem compareInt_infinite (negative : Bool) (n : Int) :
    compareInt (.infinite negative) n = if negative then .lt else .gt := rfl

end ShapeGraph.Binary64
