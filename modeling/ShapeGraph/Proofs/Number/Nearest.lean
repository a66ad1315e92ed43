import Mathlib.Tactic.Linarith
import Mathlib.Tactic.Ring
import ShapeGraph.Proofs.Number.Logarithm

namespace ShapeGraph.Binary64

variable {num den : Nat} {q : ℚ} {negative : Bool} {e : Fin 2047} {f : Fin fractions}

structure IsNearest (n : Nat) (q : ℚ) : Prop where
  above : q ≤ n + 1 / 2
  below : n - 1 / 2 ≤ q
  even_above : q = n + 1 / 2 → n % 2 = 0
  even_below : q = n - 1 / 2 → n % 2 = 0

theorem isNearest_roundQuotient (num : Nat) (hden : 0 < den) :
    IsNearest (roundQuotient num den) (num / den) := by
  have hden' : (0 : ℚ) < den := by exact_mod_cast hden
  obtain ⟨x, hx⟩ : ∃ x : ℚ, ((num % den : Nat) : ℚ) = x * den :=
    ⟨_, (div_mul_cancel₀ _ hden'.ne').symm⟩
  have hsplit : (num : ℚ) / den = (num / den : Nat) + x := by
    rw [div_eq_iff hden'.ne', add_mul, ← hx]
    exact_mod_cast (Nat.div_add_mod' num den).symm
  have hlt : x < 1 := by
    have h : ((num % den : Nat) : ℚ) < den := by exact_mod_cast Nat.mod_lt num hden
    rw [hx] at h
    exact (mul_lt_iff_lt_one_left hden').1 h
  have hpos : 0 ≤ x := by
    have h : (0 : ℚ) ≤ (num % den : Nat) := Nat.cast_nonneg _
    rw [hx] at h
    exact nonneg_of_mul_nonneg_left h hden'
  have hmore : 2 * (num % den) > den ↔ 1 / 2 < x := by
    have h : (den : ℚ) < 2 * (num % den : Nat) ↔ 1 / 2 < x := by
      rw [hx, ← mul_assoc, lt_mul_iff_one_lt_left hden', div_lt_iff₀' two_pos]
    exact_mod_cast h
  have htie : 2 * (num % den) = den ↔ x = 1 / 2 := by
    have h : 2 * ((num % den : Nat) : ℚ) = den ↔ x = 1 / 2 := by
      rw [hx, ← mul_assoc, mul_eq_right₀ hden'.ne', eq_div_iff two_ne_zero, mul_comm]
    exact_mod_cast h
  rw [hsplit]
  unfold roundQuotient
  dsimp only
  simp only [hmore, htie]
  split
  · rename_i h
    have hhalf : 1 / 2 ≤ x := h.elim le_of_lt fun h => h.1.ge
    refine ⟨?_, ?_, ?_, ?_⟩
    · push_cast
      linarith
    · push_cast
      linarith
    · intro heq
      push_cast at heq
      linarith
    · intro heq
      push_cast at heq
      have hodd := h.resolve_left (by linarith)
      omega
  · rename_i h
    rw [not_or, not_lt] at h
    refine ⟨by linarith [h.1], by linarith, ?_, fun heq => by linarith⟩
    intro heq
    have heven := h.2
    rw [not_and] at heven
    have := heven (by linarith)
    omega

theorem IsNearest.not_succ {n : Nat} (h : IsNearest n q) (h' : IsNearest (n + 1) q) : False := by
  have habove := h.above
  have hbelow := h'.below
  push_cast at hbelow
  have heven := h.even_above (by linarith)
  have heven' := h'.even_below (by push_cast; linarith)
  omega

theorem IsNearest.unique {a b : Nat} (ha : IsNearest a q) (hb : IsNearest b q) : a = b := by
  have hab : a ≤ b + 1 := by
    have h : (a : ℚ) ≤ b + 1 := by linarith [ha.below, hb.above]
    exact_mod_cast h
  have hba : b ≤ a + 1 := by
    have h : (b : ℚ) ≤ a + 1 := by linarith [hb.below, ha.above]
    exact_mod_cast h
  rcases Nat.lt_trichotomy a b with h | h | h
  · obtain rfl : b = a + 1 := by omega
    exact (ha.not_succ hb).elim
  · exact h
  · obtain rfl : a = b + 1 := by omega
    exact (hb.not_succ ha).elim

def gap (e : Fin 2047) (f : Fin fractions) : ℚ := if f.val = 0 ∧ 1 < e.val then 1 / 4 else 1 / 2

/-- The interval of a double has its ends if its last digit is even. -/
structure RoundsTo (q : ℚ) (e : Fin 2047) (f : Fin fractions) : Prop where
  lower : (significand e f - gap e f) * 2 ^ scale e ≤ q
  upper : q ≤ (significand e f + 1 / 2) * 2 ^ scale e
  even_lower : q = (significand e f - gap e f) * 2 ^ scale e → significand e f % 2 = 0
  even_upper : q = (significand e f + 1 / 2) * 2 ^ scale e → significand e f % 2 = 0

theorem gap_le (e : Fin 2047) (f : Fin fractions) : gap e f ≤ 1 / 2 := by
  unfold gap
  split <;> norm_num

theorem significand_of_ne_zero (h : e.val ≠ 0) : significand e f = fractions + f.val := if_neg h

theorem eq_zero_of_significand_eq_zero (h : significand e f = 0) : e = 0 ∧ f = 0 := by
  unfold significand at h
  split at h
  · rename_i he
    exact ⟨Fin.ext he, Fin.ext h⟩
  · omega

theorem significand_lt (e : Fin 2047) (f : Fin fractions) : significand e f < 2 * fractions := by
  have hf := f.isLt
  unfold significand
  split <;> omega

theorem le_scale (e : Fin 2047) : -1074 ≤ scale e := by
  unfold scale
  omega

theorem scale_le (e : Fin 2047) : scale e ≤ 971 := by
  have he := e.isLt
  unfold scale
  omega

theorem two_zpow_pos (t : Int) : (0 : ℚ) < 2 ^ t := zpow_pos two_pos t

theorem cast_fractions : ((fractions : Nat) : ℚ) = 2 ^ 52 := by norm_num

theorem two_zpow_eq_fractions (t : Int) : (2 : ℚ) ^ (52 + t) = fractions * 2 ^ t := by
  rw [cast_fractions, zpow_add₀ two_ne_zero]
  norm_cast

namespace RoundsTo

theorem isNearest (h : RoundsTo q e f) : IsNearest (significand e f) (q / 2 ^ scale e) := by
  have hunit := two_zpow_pos (scale e)
  have hgap := mul_le_mul_of_nonneg_right (gap_le e f) hunit.le
  have hlower := h.lower
  rw [sub_mul] at hlower
  refine ⟨(div_le_iff₀ hunit).2 h.upper, (le_div_iff₀ hunit).2 ?_, ?_, ?_⟩
  · rw [sub_mul]
    linarith
  · intro heq
    exact h.even_upper ((div_eq_iff hunit.ne').1 heq)
  · intro heq
    rw [div_eq_iff hunit.ne', sub_mul] at heq
    apply h.even_lower
    rw [sub_mul]
    linarith

theorem lt (h : RoundsTo q e f) : q < 2 ^ (53 + scale e) := by
  have hunit := two_zpow_pos (scale e)
  have hs : (significand e f : ℚ) + 1 ≤ 2 ^ (53 : Nat) := by exact_mod_cast significand_lt e f
  calc
    q ≤ (significand e f + 1 / 2) * 2 ^ scale e := h.upper
    _ < 2 ^ (53 : Nat) * 2 ^ scale e := mul_lt_mul_of_pos_right (by linarith) hunit
    _ = 2 ^ (53 + scale e) := by
      rw [zpow_add₀ two_ne_zero]
      norm_cast

theorem le (h : RoundsTo q e f) (hs : 0 < significand e f) : 2 ^ (-1075 : Int) ≤ q := by
  have hunit := two_zpow_pos (scale e)
  have hs' : (1 : ℚ) ≤ significand e f := by exact_mod_cast hs
  calc
    (2 : ℚ) ^ (-1075 : Int) = 1 / 2 * 2 ^ (-1074 : Int) := by
      rw [show (-1075 : Int) = -1074 - 1 from rfl, zpow_sub_one₀ two_ne_zero]
      ring
    _ ≤ 1 / 2 * 2 ^ scale e :=
      mul_le_mul_of_nonneg_left (zpow_le_zpow_right₀ one_le_two (le_scale e)) (by norm_num)
    _ ≤ (significand e f - gap e f) * 2 ^ scale e :=
      mul_le_mul_of_nonneg_right (by linarith [gap_le e f]) hunit.le
    _ ≤ q := h.lower

end RoundsTo

theorem toNat_scale (h : e.val ≠ 0) : (scale e + 1075).toNat = e.val := by
  unfold scale
  omega

theorem ofSignificand_of_le {s : Nat} (hne : e.val ≠ 0) (hs : fractions ≤ s)
    (hlt : s < 2 * fractions) :
    ofSignificand negative s (scale e) = .finite negative e (Fin.ofNat fractions s) := by
  unfold ofSignificand
  rw [if_neg hlt.ne]
  dsimp only
  rw [if_neg (Nat.not_lt.2 hs)]
  simp only [toNat_scale hne, e.isLt, dite_true]

theorem ofSignificand_significand (negative : Bool) (e : Fin 2047) (f : Fin fractions) :
    ofSignificand negative (significand e f) (scale e) = .finite negative e f := by
  by_cases h : e.val = 0
  · have he : e = 0 := Fin.ext h
    have hs : significand e f = f.val := if_pos h
    unfold ofSignificand
    rw [if_neg (significand_lt e f).ne]
    dsimp only
    rw [hs, if_pos f.isLt, he]
    congr 1
    exact Fin.ext (Nat.mod_eq_of_lt f.isLt)
  · have hs := significand_of_ne_zero (f := f) h
    rw [ofSignificand_of_le h (by omega) (significand_lt e f), hs]
    congr 1
    apply Fin.ext
    exact (Nat.add_mod_left fractions f.val).trans (Nat.mod_eq_of_lt f.isLt)

theorem ofSignificand_carry (negative : Bool) (h : e.val ≠ 0) :
    ofSignificand negative (2 * fractions) (scale e - 1) = .finite negative e 0 := by
  have hfirst := ofSignificand_significand negative e 0
  rw [significand_of_ne_zero h] at hfirst
  rw [← hfirst]
  unfold ofSignificand
  rw [if_pos rfl, sub_add_cancel, if_neg (by simp)]
  rfl

theorem ofRatio_eq_ofSignificand {n : Nat} {t : Int} (hden : 0 < den)
    (ht : max (floorLog2 num den - 52) (-1074) = t) (hn : IsNearest n (num / den / 2 ^ t)) :
    ofRatio negative num den = ofSignificand negative n t := by
  have hden' : 0 < den * Nat.pow 2 t.toNat := Nat.mul_pos hden (Nat.two_pow_pos _)
  have hquotient : ((num * Nat.pow 2 (-t).toNat : Nat) : ℚ) / (den * Nat.pow 2 t.toNat : Nat)
      = num / den / 2 ^ t := by
    simp only [zpow_eq_div 2 t, div_div_div_eq, Nat.pow_eq, Nat.cast_mul, Nat.cast_pow,
      Nat.cast_ofNat]
  have hround := isNearest_roundQuotient (num * Nat.pow 2 (-t).toNat) hden'
  rw [hquotient] at hround
  unfold ofRatio
  dsimp only
  rw [ht, hround.unique hn]

namespace RoundsTo

theorem fraction_eq_zero (h : RoundsTo q e f) (he : 1 < e.val) (hq : q < 2 ^ (52 + scale e)) :
    f = 0 := by
  have hs := significand_of_ne_zero (e := e) (f := f) (by omega)
  rw [two_zpow_eq_fractions] at hq
  have hlt := lt_of_mul_lt_mul_right (h.lower.trans_lt hq) (two_zpow_pos (scale e)).le
  rw [hs, Nat.cast_add] at hlt
  have hlt' : (f.val : ℚ) < (1 : Nat) := by
    rw [Nat.cast_one]
    linarith [gap_le e f]
  exact Fin.ext (Nat.lt_one_iff.1 (Nat.cast_lt.1 hlt'))

theorem isNearest_carry (h : RoundsTo q e f) (he : 1 < e.val) (hq : q < 2 ^ (52 + scale e)) :
    2 ^ (51 + scale e) ≤ q ∧ IsNearest (2 * fractions) (q / 2 ^ (scale e - 1)) := by
  -- `q` is rounded with the digits of the binade below, and the last of them carries
  have hf : f.val = 0 := congrArg Fin.val (h.fraction_eq_zero he hq)
  have hs := significand_of_ne_zero (e := e) (f := f) (by omega)
  have hgap : gap e f = 1 / 4 := if_pos ⟨hf, he⟩
  have hhalf : (2 : ℚ) ^ scale e = 2 * 2 ^ (scale e - 1) := by
    rw [zpow_sub_one₀ two_ne_zero]
    ring
  have hunit := two_zpow_pos (scale e - 1)
  have hlower := h.lower
  rw [hs, hf, hgap, Nat.add_zero, cast_fractions, hhalf] at hlower
  rw [two_zpow_eq_fractions, cast_fractions, hhalf] at hq
  constructor
  · rw [zpow_add₀ two_ne_zero, hhalf]
    refine le_trans ?_ hlower
    exact mul_le_mul_of_nonneg_right (by norm_num) (by linarith)
  · refine ⟨(div_le_iff₀ hunit).2 ?_, (le_div_iff₀ hunit).2 ?_, fun _ => rfl, fun _ => rfl⟩
    · rw [Nat.cast_mul, Nat.cast_two, cast_fractions]
      linarith
    · rw [Nat.cast_mul, Nat.cast_two, cast_fractions]
      linarith

end RoundsTo

theorem ofRatio_eq (hnum : 0 < num) (hden : 0 < den) (h : RoundsTo (num / den) e f) :
    ofRatio negative num den = .finite negative e f := by
  obtain ⟨hle, hlt⟩ := floorLog2_spec hnum hden
  have hscale := le_scale e
  have habove : floorLog2 num den < 53 + scale e :=
    (zpow_lt_zpow_iff_right₀ one_lt_two).1 (hle.trans_lt h.lt)
  have hplain : max (floorLog2 num den - 52) (-1074) = scale e →
      ofRatio negative num den = .finite negative e f := by
    intro ht
    rw [ofRatio_eq_ofSignificand hden ht h.isNearest, ofSignificand_significand]
  by_cases he : e.val ≤ 1
  · -- the smallest scale, whether or not the quotient reaches the first binade
    apply hplain
    unfold scale at habove ⊢
    omega
  · rcases le_or_gt (2 ^ (52 + scale e)) ((num : ℚ) / den) with hq | hq
    · have hbinade := (zpow_lt_zpow_iff_right₀ one_lt_two).1 (hq.trans_lt hlt)
      apply hplain
      omega
    · obtain ⟨hge, hn⟩ := h.isNearest_carry (by omega) hq
      have hlo := (zpow_lt_zpow_iff_right₀ one_lt_two).1 (hge.trans_lt hlt)
      have hhi := (zpow_lt_zpow_iff_right₀ one_lt_two).1 (hle.trans_lt hq)
      have ht : max (floorLog2 num den - 52) (-1074) = scale e - 1 := by
        unfold scale at hlo hhi ⊢
        omega
      rw [ofRatio_eq_ofSignificand hden ht hn, ofSignificand_carry negative (by omega),
        h.fraction_eq_zero (by omega) hq]

theorem two_pow_1024_le : 2 ^ 1024 ≤ 10 ^ 310 := by
  decide +kernel

theorem two_pow_1075_le : 2 ^ 1075 ≤ 10 ^ 328 := by
  decide +kernel

theorem ten_pow_1310_le : 10 ^ 1310 ≤ 2 ^ 100000 := by
  decide +kernel

namespace RoundsTo

theorem lt_ten_zpow (h : RoundsTo q e f) : q < 10 ^ (310 : Int) := by
  calc
    q < 2 ^ (53 + scale e) := h.lt
    _ ≤ 2 ^ (1024 : Int) := zpow_le_zpow_right₀ one_le_two (by linarith [scale_le e])
    _ ≤ 10 ^ (310 : Int) := by exact_mod_cast two_pow_1024_le

theorem ten_zpow_le (h : RoundsTo q e f) (hs : 0 < significand e f) :
    10 ^ (-328 : Int) ≤ q := by
  refine le_trans ?_ (h.le hs)
  rw [zpow_neg, zpow_neg]
  exact inv_anti₀ (by positivity) (by exact_mod_cast two_pow_1075_le)

end RoundsTo

section

variable {digits : Nat} {E : Int}

theorem RoundsTo.ne_zero (h : RoundsTo (digits * 10 ^ E) e f) (hs : 0 < significand e f) :
    digits ≠ 0 := by
  rintro rfl
  have hzero := h.ten_zpow_le hs
  rw [Nat.cast_zero, zero_mul] at hzero
  exact absurd hzero (not_le.2 (zpow_pos (by norm_num) _))

theorem ten_zpow_le_decimal (hpos : digits ≠ 0) (hsize : digits.log2 ≤ 100000) :
    (10 : ℚ) ^ ((digits.log2 : Int) * 30103 / 100000 + E - 1) ≤ digits * 10 ^ E := by
  have hlog : (2 : ℚ) ^ (digits.log2 : Int) ≤ digits := by
    exact_mod_cast Nat.log2_self_le hpos
  rw [add_sub_right_comm, zpow_add₀ (by norm_num)]
  exact mul_le_mul_of_nonneg_right ((ten_zpow_le_two_zpow (by omega)).trans hlog) (by positivity)

theorem decimal_lt_ten_zpow :
    (digits : ℚ) * 10 ^ E < 10 ^ ((digits.log2 : Int) * 30103 / 100000 + E + 2) := by
  have hlog : (digits : ℚ) < 2 ^ (digits.log2 + 1) := by exact_mod_cast Nat.lt_log2_self
  have hpow := two_pow_lt_ten_zpow digits.log2
  have htwo : (digits : ℚ) < 10 ^ ((digits.log2 : Int) * 30103 / 100000 + 2) := by
    rw [show (2 : Int) = 1 + 1 from rfl, ← add_assoc, zpow_add_one₀ (by norm_num)]
    rw [pow_succ] at hlog
    linarith
  rw [add_right_comm, zpow_add₀ (by norm_num)]
  exact mul_lt_mul_of_pos_right htwo (by positivity)

theorem log2_le_of_roundsTo (hpos : digits ≠ 0) (hE : -1000 ≤ E)
    (h : RoundsTo (digits * 10 ^ E) e f) : digits.log2 ≤ 100000 := by
  have hq : (digits : ℚ) * 10 ^ (-1000 : Int) < 10 ^ (310 : Int) := by
    refine lt_of_le_of_lt ?_ h.lt_ten_zpow
    exact mul_le_mul_of_nonneg_left (zpow_le_zpow_right₀ (by norm_num) hE) (Nat.cast_nonneg _)
  have hdigits : (digits : ℚ) < (10 ^ 1310 : Nat) := by
    rw [← lt_div_iff₀ (by positivity), ← zpow_sub₀ (by norm_num),
      show (310 : Int) - -1000 = (1310 : Nat) from rfl, zpow_natCast] at hq
    rwa [Nat.cast_pow, Nat.cast_ofNat]
  exact ((Nat.log2_lt hpos).2 ((Nat.cast_lt.1 hdigits).trans_le ten_pow_1310_le)).le

theorem ofDecimal_eq (hs : 0 < significand e f) (hE : -1000 ≤ E)
    (h : RoundsTo (digits * 10 ^ E) e f) : ofDecimal negative digits E = .finite negative e f := by
  have hpos := h.ne_zero hs
  have hten : (1 : ℚ) < 10 := by norm_num
  have hlarge := (zpow_lt_zpow_iff_right₀ hten).1
    ((ten_zpow_le_decimal hpos (log2_le_of_roundsTo hpos hE h)).trans_lt h.lt_ten_zpow)
  have hsmall := (zpow_lt_zpow_iff_right₀ hten).1 ((h.ten_zpow_le hs).trans_lt decimal_lt_ten_zpow)
  have hquotient : (digits : ℚ) * 10 ^ E =
      (digits * Nat.pow 10 E.toNat : Nat) / (Nat.pow 10 (-E).toNat : Nat) := by
    simp only [zpow_eq_div 10 E, mul_div_assoc, Nat.pow_eq, Nat.cast_mul, Nat.cast_pow,
      Nat.cast_ofNat]
  unfold ofDecimal
  dsimp only
  rw [if_neg hpos, if_neg (by omega), if_neg (by omega)]
  rw [hquotient] at h
  exact ofRatio_eq (Nat.mul_pos (Nat.pos_of_ne_zero hpos) (Nat.pow_pos (by decide)))
    (Nat.pow_pos (by decide)) h

end

end ShapeGraph.Binary64
