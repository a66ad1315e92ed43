import Mathlib.Algebra.Order.Field.Power
import Mathlib.Tactic.NormNum
import Mathlib.Tactic.Positivity
import ShapeGraph.Proofs.Number.Value

namespace ShapeGraph.Binary64

variable {num den : Nat} {t : Int}

theorem two_zpow_le_div_iff (hden : 0 < den) :
    (2 : ℚ) ^ t ≤ num / den ↔ den * Nat.pow 2 t.toNat ≤ num * Nat.pow 2 (-t).toNat := by
  have hden' : (0 : ℚ) < den := by exact_mod_cast hden
  have hpow : (0 : ℚ) < 2 ^ (-t).toNat := by positivity
  rw [zpow_eq_div, div_le_div_iff₀ hpow hden', mul_comm]
  norm_cast

theorem two_zpow_lt_div (hnum : 0 < num) (hden : 0 < den) :
    (2 : ℚ) ^ ((num.log2 : Int) - den.log2 - 1) < num / den := by
  have hnum' : (2 : ℚ) ^ num.log2 ≤ num := by exact_mod_cast Nat.log2_self_le hnum.ne'
  have hden' : (den : ℚ) < 2 ^ (den.log2 + 1) := by exact_mod_cast Nat.lt_log2_self
  calc
    (2 : ℚ) ^ ((num.log2 : Int) - den.log2 - 1) = 2 ^ num.log2 / 2 ^ (den.log2 + 1) := by
      rw [sub_sub, zpow_sub₀ two_ne_zero]
      norm_cast
    _ < num / den := div_lt_div₀' hnum' hden' (by exact_mod_cast hnum) (by exact_mod_cast hden)

theorem div_lt_two_zpow (hden : 0 < den) :
    (num : ℚ) / den < 2 ^ ((num.log2 : Int) - den.log2 + 1) := by
  have hnum' : (num : ℚ) < 2 ^ (num.log2 + 1) := by exact_mod_cast Nat.lt_log2_self
  have hden' : (2 : ℚ) ^ den.log2 ≤ den := by exact_mod_cast Nat.log2_self_le hden.ne'
  calc
    (num : ℚ) / den < 2 ^ (num.log2 + 1) / 2 ^ den.log2 :=
      div_lt_div₀ hnum' hden' (by positivity) (by positivity)
    _ = 2 ^ ((num.log2 : Int) - den.log2 + 1) := by
      rw [sub_add_eq_add_sub, zpow_sub₀ two_ne_zero]
      norm_cast

theorem floorLog2_spec (hnum : 0 < num) (hden : 0 < den) :
    (2 : ℚ) ^ floorLog2 num den ≤ num / den ∧ (num : ℚ) / den < 2 ^ (floorLog2 num den + 1) := by
  unfold floorLog2
  dsimp only
  split
  · rename_i h
    exact ⟨(two_zpow_le_div_iff hden).2 h, div_lt_two_zpow hden⟩
  · rename_i h
    rw [sub_add_cancel]
    exact ⟨(two_zpow_lt_div hnum hden).le,
      lt_of_not_ge fun hle => h ((two_zpow_le_div_iff hden).1 hle)⟩

section

-- `n / m` is the logarithm of two to the base ten, not quite.
variable {n m : Nat} (hle : 2 ^ m ≤ 10 ^ n)

include hle

theorem ten_zpow_mul_le (hlt : 10 ^ n ≤ 2 ^ (m + 1)) (ht : t ≤ m) :
    (10 : ℚ) ^ (t * n) ≤ 2 ^ (t * m) * 10 ^ m := by
  have hle' : (2 : ℚ) ^ m ≤ 10 ^ n := by exact_mod_cast hle
  have hlt' : (10 : ℚ) ^ n ≤ 2 ^ (m + 1) := by exact_mod_cast hlt
  have hone : (1 : ℚ) ≤ 10 ^ m := one_le_pow₀ (by norm_num)
  rcases Int.le_total 0 t with h | h
  · obtain ⟨u, rfl⟩ := Int.eq_ofNat_of_zero_le h
    have hu : (2 : ℚ) ^ u ≤ 10 ^ m := by
      calc
        (2 : ℚ) ^ u ≤ 2 ^ m := pow_le_pow_right₀ (by norm_num) (by omega)
        _ ≤ 10 ^ m := pow_le_pow_left₀ (by norm_num) (by norm_num) m
    calc
      (10 : ℚ) ^ ((u : Int) * n) = (10 ^ n) ^ u := by
        rw [← pow_mul, mul_comm]
        norm_cast
      _ ≤ (2 ^ (m + 1)) ^ u := pow_le_pow_left₀ (by positivity) hlt' u
      _ = 2 ^ ((u : Int) * m) * 2 ^ u := by
        rw [← pow_mul, add_mul, pow_add, one_mul, mul_comm m]
        norm_cast
      _ ≤ 2 ^ ((u : Int) * m) * 10 ^ m := mul_le_mul_of_nonneg_left hu (by positivity)
  · obtain ⟨u, hu⟩ := Int.eq_ofNat_of_zero_le (Int.neg_nonneg_of_nonpos h)
    obtain rfl : t = -u := by omega
    calc
      (10 : ℚ) ^ (-(u : Int) * n) = ((10 ^ n) ^ u)⁻¹ := by
        rw [← pow_mul, mul_comm n, neg_mul, zpow_neg]
        norm_cast
      _ ≤ ((2 ^ m) ^ u)⁻¹ :=
        inv_anti₀ (by positivity) (pow_le_pow_left₀ (by positivity) hle' u)
      _ = 2 ^ (-(u : Int) * m) := by
        rw [← pow_mul, mul_comm m, neg_mul, zpow_neg]
        norm_cast
      _ ≤ 2 ^ (-(u : Int) * m) * 10 ^ m := le_mul_of_one_le_right (by positivity) hone

variable (hm : 0 < m)

include hm

theorem ten_zpow_le_two_zpow_of (hlt : 10 ^ n ≤ 2 ^ (m + 1)) (ht : t ≤ m) :
    (10 : ℚ) ^ (t * n / m - 1) ≤ 2 ^ t := by
  have hg : t * n / m * m ≤ t * n := Int.ediv_mul_le _ (by omega)
  refine (pow_le_pow_iff_left₀ (by positivity) (by positivity) hm.ne').1 ?_
  calc
    ((10 : ℚ) ^ (t * n / m - 1)) ^ m = 10 ^ (t * n / m * m - m) := by
      rw [← zpow_natCast, ← zpow_mul, sub_mul, one_mul]
    _ ≤ 10 ^ (t * n - m) := zpow_le_zpow_right₀ (by norm_num) (by omega)
    _ = 10 ^ (t * n) / 10 ^ m := by rw [zpow_sub₀ (by norm_num), zpow_natCast]
    _ ≤ 2 ^ (t * m) := (div_le_iff₀ (by positivity)).2 (ten_zpow_mul_le hle hlt ht)
    _ = (2 ^ t) ^ m := by rw [zpow_mul, zpow_natCast]

theorem two_pow_lt_ten_zpow_of (t : Nat) : (2 : ℚ) ^ t < 10 ^ ((t : Int) * n / m + 1) := by
  have hle' : (2 : ℚ) ^ m ≤ 10 ^ n := by exact_mod_cast hle
  have hg : (t : Int) * n < ((t : Int) * n / m + 1) * m := Int.lt_ediv_add_one_mul_self _ (by omega)
  refine lt_of_pow_lt_pow_left₀ m (by positivity) ?_
  calc
    ((2 : ℚ) ^ t) ^ m = (2 ^ m) ^ t := pow_right_comm ..
    _ ≤ (10 ^ n) ^ t := pow_le_pow_left₀ (by positivity) hle' t
    _ = 10 ^ ((t : Int) * n) := by
      rw [← pow_mul, mul_comm]
      norm_cast
    _ < 10 ^ (((t : Int) * n / m + 1) * m) := zpow_lt_zpow_right₀ (by norm_num) hg
    _ = (10 ^ ((t : Int) * n / m + 1)) ^ m := by rw [zpow_mul, zpow_natCast]

end

theorem two_pow_le_ten_pow : 2 ^ 100000 ≤ 10 ^ 30103 := by
  decide +kernel

theorem ten_pow_le_two_pow : 10 ^ 30103 ≤ 2 ^ (100000 + 1) := by
  decide +kernel

theorem ten_zpow_le_two_zpow (h : t ≤ 100000) : (10 : ℚ) ^ (t * 30103 / 100000 - 1) ≤ 2 ^ t :=
  ten_zpow_le_two_zpow_of (n := 30103) (m := 100000) two_pow_le_ten_pow (by decide)
    ten_pow_le_two_pow h

theorem two_pow_lt_ten_zpow (t : Nat) : (2 : ℚ) ^ t < 10 ^ ((t : Int) * 30103 / 100000 + 1) :=
  two_pow_lt_ten_zpow_of (n := 30103) (m := 100000) two_pow_le_ten_pow (by decide) t

end ShapeGraph.Binary64
