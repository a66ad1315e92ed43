import ShapeGraph.Number.Shortest
import ShapeGraph.Proofs.Number.Nearest

namespace ShapeGraph.Binary64

variable {e : Fin 2047} {f : Fin fractions} {r : Rounding} {a b d n : Nat} {k : Int} {q : ℚ}

theorem powerRatio_pos (k : Int) : 0 < (powerRatio k).1 ∧ 0 < (powerRatio k).2 :=
  ⟨Nat.pow_pos (by decide), Nat.pow_pos (by decide)⟩

theorem ten_zpow_eq (k : Int) : (10 : ℚ) ^ k = (powerRatio k).1 / (powerRatio k).2 := by
  simp only [powerRatio, zpow_eq_div 10 k, Nat.pow_eq, Nat.cast_pow, Nat.cast_ofNat]

theorem div_le_decimal_iff (hb : 0 < b) :
    (a : ℚ) / b ≤ d * 10 ^ k ↔ a * (powerRatio k).2 ≤ d * (powerRatio k).1 * b := by
  have hb' : (0 : ℚ) < b := by exact_mod_cast hb
  have hpow : (0 : ℚ) < (powerRatio k).2 := by exact_mod_cast (powerRatio_pos k).2
  rw [ten_zpow_eq, ← mul_div_assoc, div_le_div_iff₀ hb' hpow]
  norm_cast

theorem decimal_le_div_iff (hb : 0 < b) :
    d * (10 : ℚ) ^ k ≤ a / b ↔ d * (powerRatio k).1 * b ≤ a * (powerRatio k).2 := by
  have hb' : (0 : ℚ) < b := by exact_mod_cast hb
  have hpow : (0 : ℚ) < (powerRatio k).2 := by exact_mod_cast (powerRatio_pos k).2
  rw [ten_zpow_eq, ← mul_div_assoc, div_le_div_iff₀ hpow hb']
  norm_cast

theorem rounding_den_pos (e : Fin 2047) (f : Fin fractions) : 0 < (rounding e f).den :=
  Nat.two_pow_pos _

theorem rounding_eq {x : Nat} :
    ((x * Nat.pow 2 (scale e - 2).toNat : Nat) : ℚ) / (rounding e f).den
      = x / 4 * 2 ^ scale e := by
  have hunit : (2 : ℚ) ^ scale e / 4 = 2 ^ (scale e - 2).toNat / 2 ^ (2 - scale e).toNat := by
    have h := zpow_eq_div 2 (scale e - 2)
    rw [neg_sub] at h
    rw [← h, zpow_sub₀ two_ne_zero]
    norm_num
  simp only [rounding, Nat.pow_eq, Nat.cast_mul, Nat.cast_pow, Nat.cast_ofNat]
  rw [mul_div_assoc, ← hunit]
  ring

theorem rounding_value :
    ((rounding e f).value : ℚ) / (rounding e f).den = significand e f * 2 ^ scale e := by
  refine (rounding_eq (x := 4 * significand e f)).trans ?_
  push_cast
  ring

theorem rounding_high :
    ((rounding e f).high : ℚ) / (rounding e f).den
      = (significand e f + 1 / 2) * 2 ^ scale e := by
  refine (rounding_eq (x := 4 * significand e f + 2)).trans ?_
  push_cast
  ring

theorem rounding_low (hs : 0 < significand e f) :
    ((rounding e f).low : ℚ) / (rounding e f).den
      = (significand e f - gap e f) * 2 ^ scale e := by
  refine rounding_eq.trans ?_
  rw [gap, Nat.cast_sub (by split <;> omega)]
  split
  · push_cast
    ring
  · push_cast
    ring

theorem roundsTo_iff_of_even (h : significand e f % 2 = 0) :
    RoundsTo q e f ↔ (significand e f - gap e f) * 2 ^ scale e ≤ q
      ∧ q ≤ (significand e f + 1 / 2) * 2 ^ scale e :=
  ⟨fun hq => ⟨hq.lower, hq.upper⟩, fun hq => ⟨hq.1, hq.2, fun _ => h, fun _ => h⟩⟩

theorem roundsTo_of_lt (hlower : (significand e f - gap e f) * 2 ^ scale e < q)
    (hupper : q < (significand e f + 1 / 2) * 2 ^ scale e) : RoundsTo q e f :=
  ⟨hlower.le, hupper.le, fun h => absurd h hlower.ne', fun h => absurd h hupper.ne⟩

theorem roundsTo_iff_of_odd (h : significand e f % 2 ≠ 0) :
    RoundsTo q e f ↔ (significand e f - gap e f) * 2 ^ scale e < q
      ∧ q < (significand e f + 1 / 2) * 2 ^ scale e := by
  refine ⟨fun hq => ⟨?_, ?_⟩, fun hq => roundsTo_of_lt hq.1 hq.2⟩
  · exact lt_of_le_of_ne hq.lower fun heq => h (hq.even_lower heq.symm)
  · exact lt_of_le_of_ne hq.upper fun heq => h (hq.even_upper heq)

theorem admits_iff (hs : 0 < significand e f) :
    (rounding e f).admits d k ↔ RoundsTo (d * 10 ^ k) e f := by
  have hden := rounding_den_pos e f
  have hclosed : (rounding e f).closed = (significand e f % 2 == 0) := rfl
  unfold Rounding.admits
  dsimp only
  rw [hclosed]
  split
  · rename_i heven
    rw [Bool.and_eq_true, decide_eq_true_iff, decide_eq_true_iff,
      roundsTo_iff_of_even (beq_iff_eq.1 heven), ← rounding_low hs, ← rounding_high,
      div_le_decimal_iff hden, decimal_le_div_iff hden]
  · rename_i hodd
    rw [Bool.and_eq_true, decide_eq_true_iff, decide_eq_true_iff,
      roundsTo_iff_of_odd (mt beq_iff_eq.2 hodd), ← rounding_low hs, ← rounding_high,
      ← not_le, ← not_le, ← not_le, ← not_le, div_le_decimal_iff hden, decimal_le_div_iff hden]

theorem rounding_value_pos (hs : 0 < significand e f) : 0 < (rounding e f).value :=
  Nat.mul_pos (Nat.mul_pos (by decide) hs) (Nat.two_pow_pos _)

theorem floorLog2_rounding (hs : 0 < significand e f) :
    -1075 ≤ floorLog2 (rounding e f).value (rounding e f).den
      ∧ floorLog2 (rounding e f).value (rounding e f).den ≤ 1024 := by
  obtain ⟨hle, hlt⟩ := floorLog2_spec (rounding_value_pos hs) (rounding_den_pos e f)
  have hunit := two_zpow_pos (scale e)
  have hs' : (1 : ℚ) ≤ significand e f := by exact_mod_cast hs
  have hs'' : (significand e f : ℚ) ≤ 2 ^ (53 : Nat) := by exact_mod_cast (significand_lt e f).le
  rw [rounding_value] at hle hlt
  have hbelow : (2 : ℚ) ^ scale e ≤ significand e f * 2 ^ scale e :=
    le_mul_of_one_le_left hunit.le hs'
  have habove : significand e f * (2 : ℚ) ^ scale e ≤ 2 ^ (53 + scale e) := by
    rw [zpow_add₀ two_ne_zero]
    exact mul_le_mul_of_nonneg_right (by exact_mod_cast hs'') hunit.le
  have hlo := (zpow_lt_zpow_iff_right₀ one_lt_two).1 (hbelow.trans_lt hlt)
  have hhi := (zpow_le_zpow_iff_right₀ one_lt_two).1 (hle.trans habove)
  have hscale := le_scale e
  have hscale' := scale_le e
  omega

theorem leading_spec (hs : 0 < significand e f) :
    (10 : ℚ) ^ (rounding e f).leading ≤ significand e f * 2 ^ scale e
      ∧ -325 ≤ (rounding e f).leading := by
  have hden := rounding_den_pos e f
  obtain ⟨hlo, hhi⟩ := floorLog2_rounding hs
  have hle := (floorLog2_spec (rounding_value_pos hs) hden).1
  have hreaches {k : Int} (h : (powerRatio k).1 * (rounding e f).den
      ≤ (rounding e f).value * (powerRatio k).2) :
      (10 : ℚ) ^ k ≤ significand e f * 2 ^ scale e := by
    have h' := (decimal_le_div_iff (d := 1) (k := k) hden).2 (by rwa [Nat.one_mul])
    rwa [Nat.cast_one, one_mul, rounding_value] at h'
  unfold Rounding.leading
  simp only [decide_eq_true_iff]
  split_ifs with hmore hmost
  · exact ⟨hreaches hmore, by omega⟩
  · exact ⟨hreaches hmost, by omega⟩
  · refine ⟨?_, by omega⟩
    rw [← rounding_value]
    exact (ten_zpow_le_two_zpow (by omega)).trans hle

theorem roundsTo_of_isNearest (h : IsNearest n (significand e f * 2 ^ scale e / 10 ^ k))
    (hk : 1 / 2 * (10 : ℚ) ^ k < gap e f * 2 ^ scale e) : RoundsTo (n * 10 ^ k) e f := by
  have hten : (0 : ℚ) < 10 ^ k := zpow_pos (by norm_num) k
  have hunit := two_zpow_pos (scale e)
  have habove := (div_le_iff₀ hten).1 h.above
  have hbelow := (le_div_iff₀ hten).1 h.below
  have hgap := mul_le_mul_of_nonneg_right (gap_le e f) hunit.le
  apply roundsTo_of_lt
  · linarith
  · linarith

theorem significand_le_gap (e : Fin 2047) (f : Fin fractions) :
    (significand e f : ℚ) ≤ gap e f * 2 ^ (54 : Nat) := by
  have hlt : (significand e f : ℚ) ≤ 2 ^ (53 : Nat) := by exact_mod_cast (significand_lt e f).le
  unfold gap
  split
  · rename_i h
    have hs := significand_of_ne_zero (e := e) (f := f) (by omega)
    rw [hs, h.1]
    norm_num
  · linarith

theorem seventeen_digits (hs : 0 < significand e f) :
    1 / 2 * (10 : ℚ) ^ ((rounding e f).leading - 16) < gap e f * 2 ^ scale e := by
  have hunit := two_zpow_pos (scale e)
  have hgap := mul_le_mul_of_nonneg_right (significand_le_gap e f) hunit.le
  have hleading := (leading_spec hs).1
  have hten : (10 : ℚ) ^ (rounding e f).leading
      = 10 ^ (16 : Nat) * 10 ^ ((rounding e f).leading - 16) := by
    rw [← zpow_natCast, ← zpow_add₀ (by norm_num)]
    congr 1
    omega
  have hpos : (0 : ℚ) < 10 ^ ((rounding e f).leading - 16) := zpow_pos (by norm_num) _
  rw [hten] at hleading
  linarith

theorem admits_of_onGrid (h : r.onGrid k = some d) : r.admits d k := by
  unfold Rounding.onGrid at h
  dsimp only at h
  split_ifs at h <;> cases h <;> assumption

theorem isSome_onGrid (hs : 0 < significand e f)
    (hk : 1 / 2 * (10 : ℚ) ^ k < gap e f * 2 ^ scale e) : ((rounding e f).onGrid k).isSome := by
  obtain ⟨hnum, -⟩ := powerRatio_pos k
  have hnearest := isNearest_roundQuotient ((rounding e f).value * (powerRatio k).2)
    (Nat.mul_pos (rounding_den_pos e f) hnum)
  rw [Nat.cast_mul, Nat.cast_mul, mul_div_mul_comm, rounding_value, ← one_div_div, ← ten_zpow_eq,
    mul_one_div] at hnearest
  have hadmits := (admits_iff hs).2 (roundsTo_of_isNearest hnearest hk)
  unfold Rounding.onGrid
  dsimp only
  rw [if_pos hadmits]
  rfl

theorem exists_search {leading : Int} (hlast : (r.onGrid (leading - 16)).isSome) {fuel digits : Nat}
    (hsum : digits + fuel = 18) (hdigits : digits ≤ 17) :
    ∃ d k, r.search leading fuel digits = (d, k) ∧ r.onGrid k = some d ∧ leading - 16 ≤ k := by
  induction fuel generalizing digits with
  | zero => omega
  | succ fuel ih =>
    rw [Rounding.search]
    split
    · rename_i d hd
      exact ⟨d, _, rfl, hd, by omega⟩
    · rename_i hnone
      have hless : digits ≠ 17 := by
        rintro rfl
        rw [show leading - 16 = leading + 1 - (17 : Nat) by omega, hnone] at hlast
        cases hlast
      exact ih (by omega) (by omega)

theorem exists_shortest (hs : 0 < significand e f) :
    ∃ d k, (rounding e f).shortest = (d, k) ∧ RoundsTo (d * 10 ^ k) e f ∧ -341 ≤ k := by
  have hlast := isSome_onGrid hs (seventeen_digits hs)
  obtain ⟨d, k, hsearch, hgrid, hk⟩ := exists_search hlast (rfl : 1 + 17 = 18) (by decide)
  have hleading := (leading_spec hs).2
  exact ⟨d, k, hsearch, (admits_iff hs).1 (admits_of_onGrid hgrid), by omega⟩

end ShapeGraph.Binary64
