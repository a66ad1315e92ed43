import ShapeGraph.Text.Casing

namespace ShapeGraph.Text

def IsBelowLetters (x : Char) : Prop := 0 < x.toNat ∧ x.toNat < 'A'.toNat

variable {x c : Char}

theorem IsBelowLetters.ne (hx : IsBelowLetters x) (hc : 'A'.toNat ≤ c.toNat) : x ≠ c := by
  rintro rfl
  exact absurd hx.2 (Nat.not_lt.2 hc)

theorem IsBelowLetters.ne_ofNat (hx : IsBelowLetters x) {n : Nat} (hn : 'A'.toNat ≤ n) :
    x ≠ Char.ofNat n := by
  by_cases hvalid : n.isValidChar
  · rw [Char.ofNat, dif_pos hvalid]
    exact hx.ne hn
  · -- a number that no character has stands for the null character
    rw [Char.ofNat, dif_neg hvalid]
    rintro rfl
    exact absurd hx.1 (by decide)

theorem lowerShifts_above : lowerShifts.all fun s =>
    'A'.toNat ≤ s.span.first ∧ 'A'.toNat ≤ s.span.first + s.offset := by
  decide

theorem Shift.above {s : Shift} (hs : s ∈ lowerShifts) (h : s.moves c.toNat) :
    'A'.toNat ≤ c.toNat ∧ 'A'.toNat ≤ Int.toNat (c.toNat + s.offset) := by
  have habove := of_decide_eq_true (List.all_eq_true.1 lowerShifts_above s hs)
  simp only [moves, Span.has, Bool.and_eq_true, decide_eq_true_eq] at h
  omega

theorem mem_lowerChar_iff (hx : IsBelowLetters x) : x ∈ lowerChar c ↔ x = c := by
  rw [lowerChar, mapCase]
  split
  · next s hs =>
    have hmoves : s.moves c.toNat := by simpa using List.find?_some hs
    obtain ⟨hc, hform⟩ := Shift.above (List.mem_of_find?_eq_some hs) hmoves
    simp [Shift.apply, hx.ne_ofNat hform, hx.ne hc]
  · split
    · next ns hns =>
      have hc : c.toNat = 0x130 ∧ ns = [0x69, 0x307] := by
        rw [lowerExpansions, List.lookup_cons] at hns
        split at hns
        · next heq => exact ⟨eq_of_beq heq, (Option.some.inj hns).symm⟩
        · cases hns
      have hne : x ≠ c := hx.ne (by rw [hc.1]; decide)
      simp [hc.2, hne, hx.ne_ofNat (show 'A'.toNat ≤ 0x69 by decide),
        hx.ne_ofNat (show 'A'.toNat ≤ 0x307 by decide)]
    · rw [List.mem_singleton]

theorem mem_lowerAfter_iff (hx : IsBelowLetters x) (before cs : List Char) :
    x ∈ lowerAfter before cs ↔ x ∈ cs := by
  induction cs generalizing before with
  | nil => rfl
  | cons c cs ih =>
    rw [lowerAfter, List.mem_append, ih, List.mem_cons]
    apply or_congr_left
    split
    · next hc =>
      have hsigma (y : Char) (hy : 'A'.toNat ≤ y.toNat) : x ≠ y := hx.ne hy
      rw [hc]
      split <;> simp [hsigma]
    · exact mem_lowerChar_iff hx

theorem mem_lower_iff (hx : IsBelowLetters x) (s : String) :
    x ∈ (lower s).toList ↔ x ∈ s.toList := by
  rw [lower, String.toList_ofList, mem_lowerAfter_iff hx]

end ShapeGraph.Text
