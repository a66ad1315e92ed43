import ShapeGraph.Proofs.Text.Trim
import ShapeGraph.Text.Identifier

namespace ShapeGraph.Text

theorem toNat_of_isIdentifierPart {c : Char} (h : isIdentifierPart c) :
    48 ≤ c.toNat ∧ c.toNat ≤ 122 := by
  simp only [isIdentifierPart, isIdentifierStart, isLetter, Bool.or_eq_true, Bool.and_eq_true,
    decide_eq_true_eq, Char.le_def, UInt32.le_iff_toNat_le, ← Char.toNat_inj] at h
  change (((65 ≤ c.toNat ∧ c.toNat ≤ 90) ∨ 97 ≤ c.toNat ∧ c.toNat ≤ 122) ∨ c.toNat = 95)
    ∨ 48 ≤ c.toNat ∧ c.toNat ≤ 57 at h
  omega

theorem not_isBlank_of_isIdentifierPart {c : Char} (h : isIdentifierPart c) :
    isBlank c = false := by
  have hc := toNat_of_isIdentifierPart h
  simp only [isBlank, blankSpans, inSpans_cons, inSpans_nil, Span.has, Bool.or_eq_false_iff,
    Bool.and_eq_false_iff, decide_eq_false_iff_not, and_true]
  omega

theorem isIdentifierPart_of_isIdentifierStart {c : Char} (h : isIdentifierStart c) :
    isIdentifierPart c := by
  rw [isIdentifierPart, h, Bool.true_or]

theorem IsBlank.stops_isIdentifierPart {cs : List Char} (h : IsBlank cs) :
    Stops isIdentifierPart cs := by
  cases cs with
  | nil => exact stops_nil isIdentifierPart
  | cons c cs =>
    rw [stops_cons, Bool.eq_false_iff]
    intro hc
    have hblank := h c List.mem_cons_self
    rw [not_isBlank_of_isIdentifierPart hc] at hblank
    cases hblank

theorem exists_of_isIdentifierChars {cs : List Char} (h : isIdentifierChars cs) :
    ∃ c tail, cs = c :: tail ∧ isIdentifierStart c ∧ ∀ x ∈ tail, isIdentifierPart x := by
  cases cs with
  | nil => cases h
  | cons c tail =>
    rw [isIdentifierChars, Bool.and_eq_true, List.all_eq_true] at h
    exact ⟨c, tail, rfl, h.1, h.2⟩

theorem stops_isBlank_of_isIdentifierChars {cs : List Char} (h : isIdentifierChars cs)
    (rest : List Char) : Stops isBlank (cs ++ rest) := by
  obtain ⟨c, tail, rfl, hc, -⟩ := exists_of_isIdentifierChars h
  exact stops_cons.2 (not_isBlank_of_isIdentifierPart (isIdentifierPart_of_isIdentifierStart hc))

end ShapeGraph.Text
