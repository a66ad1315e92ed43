import ShapeGraph.Json.Printer
import ShapeGraph.Proofs.Json.Grammar
import ShapeGraph.Proofs.Number.Shortest

namespace ShapeGraph.Json

open Binary64

variable {c : Char} {cs ds sign : List Char} {negative : Bool} {n : Nat} {e : Fin 2047}
  {f : Fin fractions}

theorem isDigit_of_mem_toDigits (h : c ∈ Nat.toDigits 10 n) : isDigit c :=
  Nat.isDigit_of_mem_toDigits (by decide) (by decide) h

theorem digitChar_ne_zero (hpos : 0 < n) (h : n < 10) : n.digitChar ≠ '0' := by
  have hall : ∀ i : Fin 10, 0 < i.val → i.val.digitChar ≠ '0' := by decide
  exact hall ⟨n, h⟩ hpos

theorem exists_toDigits_eq_cons (hpos : 0 < n) :
    ∃ c cs, Nat.toDigits 10 n = c :: cs ∧ c ≠ '0' := by
  induction n using Nat.strongRecOn with
  | ind n ih =>
    by_cases h : n < 10
    · exact ⟨n.digitChar, [], Nat.toDigits_of_lt_base h, digitChar_ne_zero hpos h⟩
    · obtain ⟨c, cs, hcs, hc⟩ := ih (n / 10) (by omega) (by omega)
      refine ⟨c, cs ++ [(n % 10).digitChar], ?_, hc⟩
      rw [Nat.toDigits_of_base_le (by decide) (Nat.not_lt.1 h), hcs, List.cons_append]

theorem digitsValue_append_zeros (ds : List Char) (n : Nat) :
    digitsValue (ds ++ List.replicate n '0') = digitsValue ds * 10 ^ n := by
  rw [digitsValue, Nat.ofDigitChars_append, Nat.ofDigitChars_replicate_zero, mul_comm]
  rfl

theorem digitsValue_zeros_append (n : Nat) (ds : List Char) :
    digitsValue (List.replicate n '0' ++ ds) = digitsValue ds := by
  rw [digitsValue, Nat.ofDigitChars_append, Nat.ofDigitChars_replicate_zero, Nat.mul_zero]
  rfl

theorem forall_isDigit_zeros (n : Nat) : ∀ d ∈ List.replicate n '0', isDigit d := by
  intro d hd
  rw [List.eq_of_mem_replicate hd]
  rfl

structure Significant (ds : List Char) : Prop where
  first : ∃ c cs, ds = c :: cs ∧ c ≠ '0'
  isDigit : ∀ d ∈ ds, isDigit d

theorem significant_toDigits (hn : 0 < n) : Significant (Nat.toDigits 10 n) :=
  ⟨exists_toDigits_eq_cons hn, fun _ hd => isDigit_of_mem_toDigits hd⟩

namespace Significant

theorem ne_nil (h : Significant ds) : ds ≠ [] := by
  obtain ⟨c, cs, rfl, -⟩ := h.first
  exact List.cons_ne_nil c cs

theorem wholeText (h : Significant ds) : WholeText ds := by
  have hdigits := h.isDigit
  obtain ⟨c, cs, rfl, hc⟩ := h.first
  rw [List.forall_mem_cons] at hdigits
  exact .digits hc hdigits.1 hdigits.2

theorem append_zeros (h : Significant ds) (n : Nat) :
    Significant (ds ++ List.replicate n '0') := by
  refine ⟨?_, List.forall_mem_append.2 ⟨h.isDigit, forall_isDigit_zeros n⟩⟩
  obtain ⟨c, cs, rfl, hc⟩ := h.first
  exact ⟨c, _, List.cons_append, hc⟩

theorem take (h : Significant ds) (hn : 0 < n) : Significant (ds.take n) := by
  refine ⟨?_, fun d hd => h.isDigit d (List.mem_of_mem_take hd)⟩
  obtain ⟨c, cs, rfl, hc⟩ := h.first
  obtain ⟨i, rfl⟩ := Nat.exists_eq_add_of_lt hn
  rw [Nat.zero_add, List.take_succ_cons]
  exact ⟨c, _, rfl, hc⟩

theorem exists_zeros (h : Significant ds) :
    ∃ j, ds = (ds.reverse.dropWhile (· == '0')).reverse ++ List.replicate j '0'
      ∧ Significant (ds.reverse.dropWhile (· == '0')).reverse := by
  obtain ⟨zeros, hds, hzeros, -⟩ := Text.dropWhile_eq_iff.1
    (rfl : ds.reverse.dropWhile (· == '0') = _)
  have hreplicate : zeros = List.replicate zeros.length '0' :=
    List.eq_replicate_of_mem fun c hc => beq_iff_eq.1 (hzeros c hc)
  generalize ds.reverse.dropWhile (· == '0') = rest at hds ⊢
  rw [List.reverse_eq_iff, List.reverse_append, hreplicate, List.reverse_replicate] at hds
  refine ⟨_, hds, ?_, fun d hd => h.isDigit d ?_⟩
  · obtain ⟨c, cs, hcs, hc⟩ := h.first
    rw [hcs] at hds
    cases hrest : rest.reverse with
    | nil =>
      rw [hrest, List.nil_append] at hds
      exact absurd (List.eq_of_mem_replicate (hds ▸ List.mem_cons_self)) hc
    | cons d tail =>
      rw [hrest, List.cons_append] at hds
      exact ⟨d, tail, rfl, (List.cons.inj hds).1 ▸ hc⟩
  · rw [hds]
    exact List.mem_append_left _ hd

end Significant

theorem signed_of_neg {x : Int} (h : x < 0) : signed true x.natAbs = x := by
  simp only [signed, if_true]
  omega

theorem signed_of_not_neg {x : Int} (h : ¬x < 0) : signed false x.natAbs = x := by
  simp only [signed, Bool.false_eq_true, if_false]
  omega

theorem wholeText_toDigits (n : Nat) : WholeText (Nat.toDigits 10 n) := by
  cases n with
  | zero => exact .zero
  | succ n => exact (significant_toDigits (Nat.succ_pos n)).wholeText

theorem numberText_printInt {n : Int} (h : n.natAbs < 10 ^ integerLimit) :
    NumberText (printInt n) (.int n) := by
  have hlength : (Nat.toDigits 10 n.natAbs).length ≤ integerLimit :=
    (Nat.length_toDigits_le_iff (by decide) (by decide)).2 h
  have hvalue : digitsValue (Nat.toDigits 10 n.natAbs) = n.natAbs := Nat.ofDigitChars_ten_toDigits
  unfold printInt
  split
  · rename_i hneg
    have htext := NumberText.int .minus (wholeText_toDigits n.natAbs) hlength
    rwa [hvalue, signed_of_neg hneg] at htext
  · rename_i hneg
    have htext := NumberText.int .none (wholeText_toDigits n.natAbs) hlength
    rwa [hvalue, signed_of_not_neg hneg] at htext

inductive MagnitudeText : List Char → Nat → Int → Prop
  | intro {whole fraction exponent : List Char} {places : Option (List Char)}
      {power : Option Int} : WholeText whole → Perhaps FractionText fraction places →
      Perhaps ExponentText exponent power → places.isSome ∨ power.isSome →
      MagnitudeText (whole ++ (fraction ++ exponent)) (digitsValue (whole ++ places.getD []))
        (power.getD 0 - (places.getD []).length)

theorem MagnitudeText.numberText {d : Nat} {k : Int} (h : MagnitudeText cs d k)
    (hsign : SignText sign negative) :
    NumberText (sign ++ cs) (.real (.ofDecimal negative d k)) := by
  cases h with
  | intro hwhole hfraction hexponent hsome => exact .real hsign hwhole hfraction hexponent hsome

theorem magnitudeText_point {whole places : List Char} (hwhole : WholeText whole)
    (hne : places ≠ []) (hplaces : ∀ d ∈ places, isDigit d) :
    MagnitudeText (whole ++ '.' :: places) (digitsValue (whole ++ places)) (-places.length) := by
  have h := MagnitudeText.intro hwhole (.given (.intro hne hplaces)) .without (.inl rfl)
  rwa [List.append_nil, Option.getD_none, zero_sub] at h

theorem exponentText_layout (x : Int) :
    ExponentText ('e' :: (if x < 0 then '-' else '+')
      :: List.replicate (2 - (Nat.toDigits 10 x.natAbs).length) '0'
        ++ Nat.toDigits 10 x.natAbs) x := by
  generalize hzeros : List.replicate (2 - (Nat.toDigits 10 x.natAbs).length) '0' = zeros
  have hdigits : ∀ d ∈ zeros ++ Nat.toDigits 10 x.natAbs, isDigit d := by
    rw [← hzeros]
    exact List.forall_mem_append.2
      ⟨forall_isDigit_zeros _, fun _ hd => isDigit_of_mem_toDigits hd⟩
  have hvalue : digitsValue (zeros ++ Nat.toDigits 10 x.natAbs) = x.natAbs := by
    rw [← hzeros, digitsValue_zeros_append]
    exact Nat.ofDigitChars_ten_toDigits
  have hne : zeros ++ Nat.toDigits 10 x.natAbs ≠ [] := by simp
  split
  · rename_i hneg
    have htext := ExponentText.intro (.inl rfl) (.sign .minus) hne hdigits
    rwa [hvalue, signed_of_neg hneg] at htext
  · rename_i hneg
    have htext := ExponentText.intro (.inl rfl) .plus hne hdigits
    rwa [hvalue, signed_of_not_neg hneg] at htext

theorem magnitudeText_zeros_append (hne : ds ≠ []) (hdigits : ∀ d ∈ ds, isDigit d) (n : Nat) :
    MagnitudeText ('0' :: '.' :: List.replicate n '0' ++ ds) (digitsValue ds)
      (-(n + ds.length : Nat)) := by
  have htext := magnitudeText_point .zero (List.append_ne_nil_of_right_ne_nil _ hne)
    (List.forall_mem_append.2 ⟨forall_isDigit_zeros n, hdigits⟩)
  have hvalue := digitsValue_zeros_append 1 (List.replicate n '0' ++ ds)
  rw [digitsValue_zeros_append n] at hvalue
  rw [List.length_append, List.length_replicate] at htext
  exact hvalue ▸ htext

theorem magnitudeText_append_zeros (h : Significant ds) (n : Nat) :
    MagnitudeText (ds ++ List.replicate n '0' ++ ['.', '0']) (digitsValue ds * 10 ^ (n + 1))
      (-1) := by
  have htext := magnitudeText_point (h.append_zeros n).wholeText (List.cons_ne_nil _ _)
    (forall_isDigit_zeros 1)
  have hvalue := digitsValue_append_zeros (ds ++ List.replicate n '0') 1
  rw [digitsValue_append_zeros ds, mul_assoc, pow_one, ← pow_succ] at hvalue
  exact hvalue ▸ htext

theorem magnitudeText_take_drop (h : Significant ds) (hpos : 0 < n) (hlt : n < ds.length) :
    MagnitudeText (ds.take n ++ '.' :: ds.drop n) (digitsValue ds) (-(ds.length - n : Nat)) := by
  have hne : ds.drop n ≠ [] := fun hnil => Nat.not_le.2 hlt (List.drop_eq_nil_iff.1 hnil)
  have htext := magnitudeText_point (h.take hpos).wholeText hne
    fun d hd => h.isDigit d (List.mem_of_mem_drop hd)
  rwa [List.take_append_drop, List.length_drop] at htext

theorem magnitudeText_exponent {whole exponent : List Char} {x : Int} (hwhole : WholeText whole)
    (hexponent : ExponentText exponent x) :
    MagnitudeText (whole ++ exponent) (digitsValue whole) x := by
  have h := MagnitudeText.intro hwhole .without (.given hexponent) (.inr rfl)
  rwa [Option.getD_none, List.append_nil, List.nil_append, Option.getD_some, List.length_nil,
    Nat.cast_zero, sub_zero] at h

theorem magnitudeText_point_exponent {exponent : List Char} {x : Int}
    (h : Significant (c :: ds)) (hne : ds ≠ []) (hexponent : ExponentText exponent x) :
    MagnitudeText (c :: '.' :: (ds ++ exponent)) (digitsValue (c :: ds)) (x - ds.length) := by
  have hdigits := List.forall_mem_cons.1 h.isDigit
  obtain ⟨_, _, hcons, hc⟩ := h.first
  cases hcons
  have hwhole : WholeText [c] := .digits hc hdigits.1 (List.forall_mem_nil _)
  exact .intro hwhole (.given (.intro hne hdigits.2)) (.given hexponent) (.inl rfl)

theorem cast_mul_ten_zpow (d n : Nat) (k : Int) :
    ((d * 10 ^ n : Nat) : ℚ) * 10 ^ k = d * 10 ^ (n + k) := by
  rw [Nat.cast_mul, Nat.cast_pow, Nat.cast_ofNat, mul_assoc, ← zpow_natCast,
    ← zpow_add₀ (by norm_num)]

theorem exists_magnitudeText_layout (h : Significant ds) (point : Int) :
    ∃ d k, MagnitudeText (layout ds point) d k
      ∧ (d : ℚ) * 10 ^ k = digitsValue ds * 10 ^ (point - ds.length)
      ∧ (k = point - ds.length ∨ k = -1) := by
  have hsame {text : List Char} {k : Int} (htext : MagnitudeText text (digitsValue ds) k)
      (hk : k = point - ds.length) :
      ∃ d k, MagnitudeText text d k
        ∧ (d : ℚ) * 10 ^ k = digitsValue ds * 10 ^ (point - ds.length)
        ∧ (k = point - ds.length ∨ k = -1) :=
    ⟨_, k, htext, by rw [hk], .inl hk⟩
  unfold layout
  dsimp only
  split
  · split
    · exact hsame (magnitudeText_zeros_append h.ne_nil h.isDigit _) (by omega)
    · split
      · rename_i hpoint hsize
        refine ⟨_, -1, magnitudeText_append_zeros h _, ?_, .inr rfl⟩
        rw [cast_mul_ten_zpow]
        congr 2
        omega
      · exact hsame (magnitudeText_take_drop h (by omega) (by omega)) (by omega)
  · have hexponent := exponentText_layout (point - 1)
    obtain ⟨c, cs, rfl, -⟩ := h.first
    rw [List.append_assoc]
    cases cs with
    | nil => exact hsame (magnitudeText_exponent h.wholeText hexponent) rfl
    | cons d cs =>
      refine hsame (magnitudeText_point_exponent h (List.cons_ne_nil d cs) hexponent) ?_
      simp only [List.length_cons]
      omega

theorem magnitudeText_zero : MagnitudeText ['0', '.', '0'] 0 (-1) :=
  magnitudeText_point .zero (List.cons_ne_nil _ _) (forall_isDigit_zeros 1)

/-- The text of a finite number reads as this number. -/
theorem exists_magnitudeText (e : Fin 2047) (f : Fin fractions) :
    ∃ d k, MagnitudeText (magnitudeText e f) d k
      ∧ ∀ negative, ofDecimal negative d k = .finite negative e f := by
  unfold magnitudeText
  split
  · rename_i hzero
    obtain ⟨rfl, rfl⟩ := eq_zero_of_significand_eq_zero hzero
    exact ⟨0, -1, magnitudeText_zero, fun negative => rfl⟩
  · rename_i hne
    have hs := Nat.pos_of_ne_zero hne
    obtain ⟨d, k, hshortest, hrounds, hk⟩ := exists_shortest hs
    have hd := Nat.pos_of_ne_zero (hrounds.ne_zero hs)
    have hvalue : digitsValue (Nat.toDigits 10 d) = d := Nat.ofDigitChars_ten_toDigits
    obtain ⟨j, hdigits, hsignificant⟩ := (significant_toDigits hd).exists_zeros
    simp only [hshortest]
    generalize ((Nat.toDigits 10 d).reverse.dropWhile (· == '0')).reverse = ds at *
    rw [hdigits, digitsValue_append_zeros] at hvalue
    rw [hdigits, List.length_append, List.length_replicate]
    obtain ⟨d', k', htext, hsame, hexponent⟩ :=
      exists_magnitudeText_layout hsignificant ((ds.length + j : Nat) + k)
    refine ⟨d', k', htext, fun negative => ofDecimal_eq hs (by omega) ?_⟩
    rw [hsame]
    convert hrounds using 1
    rw [← hvalue, cast_mul_ten_zpow]
    congr 2
    omega

theorem numberText_real (negative : Bool) (e : Fin 2047) (f : Fin fractions) (infinity : String) :
    NumberText (text infinity (.finite negative e f)).toList (.real (.finite negative e f)) := by
  obtain ⟨d, k, htext, hvalue⟩ := exists_magnitudeText e f
  have hsign : SignText (if negative then ['-'] else []) negative := by
    cases negative with
    | false => exact .none
    | true => exact .minus
  have hnumber := htext.numberText hsign
  rw [hvalue] at hnumber
  convert hnumber using 1
  cases negative <;> simp [text, isNegative]

end ShapeGraph.Json
