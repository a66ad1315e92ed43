import ShapeGraph.Proofs.Selector.Grammar
import ShapeGraph.Proofs.Text.Identifier

namespace ShapeGraph

theorem IdPart.find?_eq_some_iff {word : String} {part : IdPart} :
    (IdPart.all.find? fun part => part.word = word) = some part ↔ part.word = word := by
  constructor
  · intro h
    simpa using List.find?_some h
  · intro h
    rw [← h]
    cases part <;> rfl

theorem IdPart.isIdentifierChars_word (part : IdPart) :
    Text.isIdentifierChars part.word.toList := by
  cases part <;> rfl

namespace Selector

open Text

variable {cs word rest value : List Char} {p : Predicate}

theorem readWord_eq_some_iff : readWord cs = some (word, rest)
    ↔ cs = word ++ rest ∧ isIdentifierChars word ∧ Stops isIdentifierPart rest := by
  cases cs with
  | nil =>
    constructor
    · intro h
      cases h
    · intro h
      obtain ⟨hcs, hword, -⟩ := h
      rw [(List.nil_eq_append_iff.1 hcs).1] at hword
      cases hword
  | cons c cs =>
    rw [readWord]
    constructor
    · intro h
      split at h
      · rename_i hc
        cases h
        obtain ⟨hcs, hpart, hstop⟩ := span_eq_iff.1 (⟨rfl, rfl⟩ :
          cs.takeWhile isIdentifierPart = _ ∧ cs.dropWhile isIdentifierPart = _)
        refine ⟨congrArg (c :: ·) hcs, ?_, hstop⟩
        rw [isIdentifierChars, hc, Bool.true_and]
        exact List.all_eq_true.2 hpart
      · cases h
    · intro h
      obtain ⟨hcs, hword, hstop⟩ := h
      obtain ⟨first, tail, rfl, hfirst, htail⟩ := exists_of_isIdentifierChars hword
      obtain ⟨rfl, rfl⟩ : c = first ∧ cs = tail ++ rest := List.cons.inj hcs
      obtain ⟨htake, hdrop⟩ := span_eq_iff.2 ⟨rfl, htail, hstop⟩
      rw [if_pos hfirst, htake, hdrop]

theorem readComparison_eq_some_iff {op : Comparison} :
    readComparison cs = some (op, rest) ↔ cs = op.symbol.toList ++ rest := by
  constructor
  · intro h
    unfold readComparison at h
    split at h <;> cases h <;> rfl
  · intro h
    rw [h]
    cases op <;> rfl

theorem stops_isIdentifierPart_symbol (op : Comparison) (rest : List Char) :
    Stops isIdentifierPart (op.symbol.toList ++ rest) := by
  cases op <;> exact stops_cons.2 rfl

theorem stops_isBlank_symbol (op : Comparison) (rest : List Char) :
    Stops isBlank (op.symbol.toList ++ rest) := by
  cases op <;> exact stops_cons.2 rfl

theorem valueText_iff :
    ValueText cs value ↔ stripBy isQuote (stripBlank cs) = value ∧ value ≠ [] := by
  constructor
  · intro h
    cases h with
    | intro htrim hquote hne =>
      rw [stripBlank, stripBy_eq_iff.2 htrim]
      exact ⟨stripBy_eq_iff.2 hquote, hne⟩
  · intro h
    exact .intro (stripBy_eq_iff.1 rfl) (stripBy_eq_iff.1 h.1) h.2

theorem attributeText_of_attributeOf (h : attributeOf cs = .ok p) : AttributeText cs p := by
  unfold attributeOf at h
  split at h
  · cases h
  · rename_i word rest hword
    split at h
    · cases h
    · rename_i op after hop
      dsimp only at h
      split at h
      · cases h
      · rename_i part hpart
        split at h
        · cases h
        · rename_i hne
          cases h
          obtain ⟨left, hcs, hleft, -⟩ := skipBlank_eq_iff.1 (rfl : skipBlank cs = _)
          obtain ⟨mid, hrest, hmid, -⟩ := skipBlank_eq_iff.1 (rfl : skipBlank rest = _)
          have hvalue : ValueText after _ :=
            valueText_iff.2 ⟨rfl, fun hnil => hne (List.isEmpty_iff.2 hnil)⟩
          rw [hcs, (readWord_eq_some_iff.1 hword).1, hrest, readComparison_eq_some_iff.1 hop,
            ← String.toList_ofList (l := word), ← IdPart.find?_eq_some_iff.1 hpart]
          exact .intro part op hleft hmid hvalue

theorem attributeOf_of_attributeText (h : AttributeText cs p) : attributeOf cs = .ok p := by
  cases h with
  | @intro left mid cs value part op hleft hmid hvalue =>
    obtain ⟨hvalue, hne⟩ := valueText_iff.1 hvalue
    have hskip : skipBlank (left ++ (part.word.toList ++ (mid ++ (op.symbol.toList ++ cs)))) = _ :=
      skipBlank_eq_iff.2 ⟨left, rfl, hleft,
        stops_isBlank_of_isIdentifierChars part.isIdentifierChars_word _⟩
    have hword : readWord (part.word.toList ++ (mid ++ (op.symbol.toList ++ cs))) = some _ :=
      readWord_eq_some_iff.2 ⟨rfl, part.isIdentifierChars_word,
        hmid.stops_isIdentifierPart.append (stops_isIdentifierPart_symbol op cs)⟩
    have hskip' : skipBlank (mid ++ (op.symbol.toList ++ cs)) = _ :=
      skipBlank_eq_iff.2 ⟨mid, rfl, hmid, stops_isBlank_symbol op cs⟩
    have hop : readComparison (op.symbol.toList ++ cs) = some (op, cs) :=
      readComparison_eq_some_iff.2 rfl
    have hpart : (IdPart.all.find? fun q => q.word = String.ofList part.word.toList) = some part :=
      IdPart.find?_eq_some_iff.2 String.ofList_toList.symm
    simp only [attributeOf, hskip, hword, hskip', hop, hpart, hvalue, List.isEmpty_iff, if_neg hne]

theorem attributeOf_eq_ok_iff : attributeOf cs = .ok p ↔ AttributeText cs p :=
  ⟨attributeText_of_attributeOf, attributeOf_of_attributeText⟩

theorem traitOf_eq_ok_iff :
    traitOf cs = .ok p ↔ ∃ id, Trims isBlank cs id ∧ id ≠ [] ∧ p = .trait (String.ofList id) := by
  simp only [traitOf, ← stripBy_eq_iff]
  constructor
  · intro h
    split at h
    · cases h
    · rename_i hne
      cases h
      exact ⟨_, rfl, fun hnil => hne (List.isEmpty_iff.2 hnil), rfl⟩
  · intro h
    obtain ⟨id, hid, hne, hp⟩ := h
    rw [stripBlank, hid, if_neg (by simpa using hne), hp]

theorem bracketed_eq_ok_iff :
    bracketed cs = .ok p ↔ ∃ trimmed, Trims isBlank cs trimmed ∧ BodyText trimmed p := by
  simp only [bracketed, ← stripBy_eq_iff]
  constructor
  · intro h
    refine ⟨_, rfl, ?_⟩
    change BodyText (stripBlank cs) p
    split at h
    · rename_i rest hrest
      obtain ⟨id, hid, hne, rfl⟩ := traitOf_eq_ok_iff.1 h
      rw [after?_eq_some_iff.1 hrest]
      exact .trait hid hne
    · split at h
      · rename_i rest hrest
        rw [after?_eq_some_iff.1 hrest]
        exact .part (attributeOf_eq_ok_iff.1 h)
      · cases h
  · intro h
    obtain ⟨trimmed, htrim, hbody⟩ := h
    rw [stripBlank, htrim]
    cases hbody with
    | trait hid hne =>
      rw [after?_append]
      exact traitOf_eq_ok_iff.2 ⟨_, hid, hne, rfl⟩
    | part hpart =>
      have hno : ∀ rest, after? "trait|".toList ("id|".toList ++ rest) = none := fun _ => rfl
      rw [hno, after?_append]
      exact attributeOf_eq_ok_iff.2 hpart

end Selector

end ShapeGraph
