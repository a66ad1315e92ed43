import ShapeGraph.Proofs.Reading
import ShapeGraph.Proofs.Selector.Bracket

namespace ShapeGraph

theorem Kind.isIdentifierChars_name (k : Kind) : Text.isIdentifierChars k.name.toList := by
  cases k with
  | simple k => cases k <;> rfl
  | _ => rfl

namespace Selector

open Text

def Reads {α : Type} (read : List Char → Reading α) (T : List Char → α → Prop)
    (ends : List Char → Prop) (cs : List Char) : Prop :=
  ∀ x rest, read cs = .ok (x, rest) ↔ ends rest ∧ ∃ taken, cs = taken ++ rest ∧ T taken x

variable {cs start rest : List Char} {p : Predicate} {ps : List Predicate}
  {nested : List Char → Reading Compound}

theorem readBracket_eq_ok_iff : readBracket start cs = .ok (p, rest)
    ↔ ∃ body, cs = body ++ ']' :: rest ∧ ']' ∉ body ∧ bracketed body = .ok p := by
  unfold readBracket
  constructor
  · intro h
    split at h
    · cases h
    · rename_i body after hcut
      split at h
      · cases h
      · rename_i q hbody
        cases h
        obtain ⟨hcs, hnot⟩ := cutAt_eq_some_iff.1 hcut
        exact ⟨body, hcs, hnot, hbody⟩
  · intro h
    obtain ⟨body, hcs, hnot, hbody⟩ := h
    rw [cutAt_eq_some_iff.2 ⟨hcs, hnot⟩]
    simp only [hbody]

theorem readKind_eq_ok_iff : readKind cs = .ok (p, rest)
    ↔ ∃ k, p = .kind k ∧ cs = k.name.toList ++ rest ∧ Stops isIdentifierPart rest := by
  unfold readKind
  constructor
  · intro h
    split at h
    · rename_i word after hword
      split at h
      · rename_i k hk
        cases h
        obtain ⟨hcs, -, hstop⟩ := readWord_eq_some_iff.1 hword
        refine ⟨k, rfl, ?_, hstop⟩
        rw [hcs, Kind.ofName?_eq_some_iff.1 hk, String.toList_ofList]
      · cases h
    · split at h <;> cases h
  · intro h
    obtain ⟨k, rfl, hcs, hstop⟩ := h
    rw [readWord_eq_some_iff.2 ⟨hcs, k.isIdentifierChars_name, hstop⟩]
    simp only [String.ofList_toList, Kind.ofName?_name]

theorem readNot_eq_ok_iff : readNot nested cs = .ok (p, rest)
    ↔ ∃ compound mid, nested cs = .ok (compound, mid) ∧ skipBlank mid = ')' :: rest
      ∧ p = .not compound := by
  unfold readNot
  rw [bind_eq_ok_iff]
  constructor
  · intro h
    obtain ⟨⟨compound, mid⟩, hnested, h⟩ := h
    dsimp only at h
    split at h
    · rename_i after hmid
      cases h
      exact ⟨compound, mid, hnested, hmid, rfl⟩
    · cases h
  · intro h
    obtain ⟨compound, mid, hnested, hmid, hp⟩ := h
    refine ⟨(compound, mid), hnested, ?_⟩
    dsimp only
    rw [hmid, hp]
    rfl

theorem length_lt_of_eq_append {head tail : List Char} (h : cs = head ++ tail) (hne : head ≠ []) :
    tail.length < cs.length := by
  rw [h, List.length_append]
  exact Nat.lt_add_of_pos_left (List.length_pos_iff.2 hne)

theorem stops_of_endsCompound {q : Char → Bool} (h : endsCompound rest) (hcomma : q ',' = false)
    (harrow : q '>' = false) (hclose : q ')' = false) : Stops q rest := by
  cases rest with
  | nil => exact stops_nil q
  | cons c rest =>
    rw [stops_cons]
    simp only [endsCompound, Bool.or_eq_true, decide_eq_true_eq] at h
    obtain (rfl | rfl) | rfl := h
    · exact hcomma
    · exact harrow
    · exact hclose

theorem stops_isBlank_of_endsCompound (h : endsCompound rest) : Stops isBlank rest :=
  stops_of_endsCompound h rfl rfl rfl

theorem stops_isIdentifierPart_of_endsCompound (h : endsCompound rest) :
    Stops isIdentifierPart rest :=
  stops_of_endsCompound h rfl rfl rfl

theorem BodyText.endsBefore (h : BodyText cs p) (rest : List Char) : p.EndsBefore rest := by
  cases h with
  | trait => trivial
  | part hpart =>
    cases hpart
    trivial

theorem PredicateText.exists_cons (h : PredicateText cs p) :
    ∃ c tail, cs = c :: tail ∧ isBlank c = false ∧ endsCompound [c] = false := by
  cases h with
  | any => exact ⟨_, _, rfl, rfl, rfl⟩
  | kind k =>
    obtain ⟨c, tail, hname, hc, -⟩ := exists_of_isIdentifierChars k.isIdentifierChars_name
    have hblank := not_isBlank_of_isIdentifierPart (isIdentifierPart_of_isIdentifierStart hc)
    refine ⟨c, tail, hname, hblank, Bool.eq_false_iff.2 ?_⟩
    intro hends
    have hstop : Stops isIdentifierStart [c] := stops_of_endsCompound hends rfl rfl rfl
    rw [stops_cons.1 hstop] at hc
    cases hc
  | bracket => exact ⟨_, _, rfl, rfl, rfl⟩
  | not => exact ⟨_, _, rfl, rfl, rfl⟩

theorem PredicateText.ne_nil (h : PredicateText cs p) : cs ≠ [] := by
  obtain ⟨c, tail, hcs, -, -⟩ := h.exists_cons
  rw [hcs]
  exact List.cons_ne_nil c tail

theorem PredicateText.not_endsCompound (h : PredicateText cs p) (rest : List Char) :
    endsCompound (cs ++ rest) = false := by
  obtain ⟨c, tail, hcs, -, hc⟩ := h.exists_cons
  rw [hcs]
  exact hc

theorem readPredicate_of_isIdentifierStart {c : Char} (h : isIdentifierStart c) :
    readPredicate nested (c :: cs) = readKind (c :: cs) := by
  unfold readPredicate
  split
  · rename_i hcs
    cases hcs
    cases h
  · rename_i hcs
    cases hcs
    cases h
  · split
    · rename_i after hafter
      obtain ⟨rfl, -⟩ := List.cons.inj (after?_eq_some_iff.1 hafter)
      cases h
    · rfl

section

-- What is nested in a predicate is shorter, so its reader has to be right about shorter texts only.
variable (hnested : ∀ inner, inner.length < cs.length →
  Reads nested CompoundText (endsCompound ·) inner)

include hnested

theorem predicateText_of_readPredicate (h : readPredicate nested cs = .ok (p, rest)) :
    p.EndsBefore rest ∧ ∃ taken, cs = taken ++ rest ∧ PredicateText taken p := by
  unfold readPredicate at h
  split at h
  · cases h
    exact ⟨trivial, ['*'], rfl, .any⟩
  · obtain ⟨body, hrest, hnot, hbody⟩ := readBracket_eq_ok_iff.1 h
    obtain ⟨trimmed, htrim, hbody⟩ := bracketed_eq_ok_iff.1 hbody
    refine ⟨hbody.endsBefore _, '[' :: (body ++ [']']), ?_, .bracket hnot htrim hbody⟩
    simp [hrest]
  · split at h
    · rename_i inner hinner
      obtain ⟨compound, mid, hcompound, hmid, rfl⟩ := readNot_eq_ok_iff.1 h
      have hcs := after?_eq_some_iff.1 hinner
      have hlt : inner.length < cs.length := length_lt_of_eq_append hcs (by decide)
      obtain ⟨hends, taken, htaken, htext⟩ := (hnested inner hlt compound mid).1 hcompound
      rw [skipBlank, dropWhile_eq_self (stops_isBlank_of_endsCompound hends)] at hmid
      cases htext with
      | intro hrow hne =>
        refine ⟨trivial, ":not(".toList ++ (taken ++ [')']), ?_, .not hrow hne⟩
        simp [hcs, htaken, hmid]
    · obtain ⟨k, rfl, hcs, hstop⟩ := readKind_eq_ok_iff.1 h
      exact ⟨hstop, _, hcs, .kind k⟩

theorem readPredicate_of_predicateText {taken : List Char} (hcs : cs = taken ++ rest)
    (h : PredicateText taken p) (hends : p.EndsBefore rest) :
    readPredicate nested cs = .ok (p, rest) := by
  cases h with
  | any =>
    rw [hcs]
    rfl
  | kind k =>
    obtain ⟨c, tail, hname, hc, -⟩ := exists_of_isIdentifierChars k.isIdentifierChars_name
    have hkind : readKind cs = .ok (.kind k, rest) := readKind_eq_ok_iff.2 ⟨k, rfl, hcs, hends⟩
    rw [hname] at hcs
    rw [hcs] at hkind ⊢
    exact (readPredicate_of_isIdentifierStart hc).trans hkind
  | @bracket body _ _ hnot htrim hbody =>
    rw [hcs]
    exact readBracket_eq_ok_iff.2
      ⟨body, by simp, hnot, bracketed_eq_ok_iff.2 ⟨_, htrim, hbody⟩⟩
  | @not inner ps hrow hne =>
    have hinner : cs = ":not(".toList ++ (inner ++ ')' :: rest) := by simp [hcs]
    have hlt : (inner ++ ')' :: rest).length < cs.length :=
      length_lt_of_eq_append hinner (by decide)
    have hread : nested (inner ++ ')' :: rest) = .ok (ps, ')' :: rest) :=
      (hnested _ hlt ps _).2 ⟨rfl, inner, rfl, .intro hrow hne⟩
    have hnot := readNot_eq_ok_iff.2 ⟨ps, _, hread, rfl, rfl⟩
    rw [hinner]
    exact hnot

theorem readPredicate_eq_ok_iff : readPredicate nested cs = .ok (p, rest)
    ↔ p.EndsBefore rest ∧ ∃ taken, cs = taken ++ rest ∧ PredicateText taken p := by
  constructor
  · intro h
    exact predicateText_of_readPredicate hnested h
  · intro h
    obtain ⟨hends, taken, hcs, htext⟩ := h
    exact readPredicate_of_predicateText hnested hcs htext hends

end

theorem nonEmpty_eq_ok_iff {r : Reading Compound} {compound : Compound} :
    nonEmpty r = .ok (compound, rest) ↔ r = .ok (compound, rest) ∧ compound ≠ [] := by
  constructor
  · intro h
    unfold nonEmpty at h
    split at h
    · cases h
    · rename_i hne
      refine ⟨h, ?_⟩
      intro hnil
      subst hnil
      exact hne rest h
  · intro h
    rw [h.1]
    cases compound with
    | nil => exact absurd rfl h.2
    | cons => rfl

theorem Reads.nonEmpty {read : List Char → Reading Compound} {ends : List Char → Prop}
    (h : Reads read RowText ends cs) :
    Reads (fun cs => nonEmpty (read cs)) CompoundText ends cs := by
  intro compound rest
  rw [nonEmpty_eq_ok_iff, h compound rest]
  constructor
  · intro h
    obtain ⟨⟨hends, taken, hcs, hrow⟩, hne⟩ := h
    exact ⟨hends, taken, hcs, .intro hrow hne⟩
  · intro h
    obtain ⟨hends, taken, hcs, htext⟩ := h
    cases htext with
    | intro hrow hne => exact ⟨⟨hends, taken, hcs, hrow⟩, hne⟩

theorem exists_rowText_nil_iff (hends : endsCompound rest) :
    (∃ taken, cs = taken ++ rest ∧ RowText taken []) ↔ skipBlank cs = rest := by
  rw [skipBlank_eq_iff]
  constructor
  · intro h
    obtain ⟨taken, hcs, hrow⟩ := h
    cases hrow with
    | nil hblank => exact ⟨taken, hcs, hblank, stops_isBlank_of_endsCompound hends⟩
  · intro h
    obtain ⟨taken, hcs, hblank, -⟩ := h
    exact ⟨taken, hcs, .nil hblank⟩

theorem exists_rowText_cons_iff (hends : endsCompound rest) :
    (∃ taken, cs = taken ++ rest ∧ RowText taken (p :: ps))
      ↔ ∃ mid, (p.EndsBefore mid ∧ ∃ first, skipBlank cs = first ++ mid ∧ PredicateText first p)
        ∧ ∃ taken, mid = taken ++ rest ∧ RowText taken ps := by
  constructor
  · intro h
    obtain ⟨taken, hcs, hrow⟩ := h
    cases hrow with
    | @cons left first others _ _ hleft htext hbefore hrow =>
      obtain ⟨c, tail, hfirst, hc, -⟩ := htext.exists_cons
      have hstop := stops_isIdentifierPart_of_endsCompound hends
      refine ⟨others ++ rest, ⟨hbefore.append hstop, first, ?_, htext⟩, others, rfl, hrow⟩
      refine skipBlank_eq_iff.2 ⟨left, ?_, hleft, ?_⟩
      · rw [hcs, List.append_assoc, List.append_assoc]
      · rw [hfirst, List.cons_append]
        exact stops_cons.2 hc
  · intro h
    obtain ⟨mid, ⟨hbefore, first, hskip, htext⟩, others, hmid, hrow⟩ := h
    obtain ⟨left, hcs, hleft, -⟩ := skipBlank_eq_iff.1 hskip
    rw [hmid] at hcs hbefore
    refine ⟨left ++ (first ++ others), ?_, .cons hleft htext hbefore.of_append hrow⟩
    rw [hcs, List.append_assoc, List.append_assoc]

theorem readPredicates_eq_ok_nil_iff (fuel : Nat) :
    readPredicates (fuel + 1) cs = .ok ([], rest) ↔ endsCompound rest ∧ skipBlank cs = rest := by
  rw [readPredicates]
  dsimp only
  constructor
  · intro h
    split at h
    · rename_i hends
      cases h
      exact ⟨hends, rfl⟩
    · obtain ⟨x, -, h⟩ := bind_eq_ok_iff.1 h
      obtain ⟨y, -, h⟩ := map_eq_ok_iff.1 h
      cases h
  · intro h
    rw [h.2, if_pos h.1]

theorem readPredicates_eq_ok_cons_iff (fuel : Nat) :
    readPredicates (fuel + 1) cs = .ok (p :: ps, rest)
      ↔ endsCompound (skipBlank cs) = false
        ∧ ∃ mid, readPredicate (fun cs => nonEmpty (readPredicates fuel cs)) (skipBlank cs)
            = .ok (p, mid) ∧ readPredicates fuel mid = .ok (ps, rest) := by
  rw [readPredicates]
  dsimp only
  constructor
  · intro h
    split at h
    · cases h
    · rename_i hends
      obtain ⟨⟨q, mid⟩, hq, h⟩ := bind_eq_ok_iff.1 h
      obtain ⟨⟨others, after⟩, hothers, h⟩ := map_eq_ok_iff.1 h
      cases h
      exact ⟨Bool.eq_false_iff.2 hends, mid, hq, hothers⟩
  · intro h
    obtain ⟨hends, mid, hp, hps⟩ := h
    rw [if_neg (Bool.eq_false_iff.1 hends), hp]
    dsimp only [Except.bind]
    rw [hps]
    rfl

theorem reads_readPredicates (fuel : Nat) :
    ∀ cs, cs.length < fuel → Reads (readPredicates fuel) RowText (endsCompound ·) cs := by
  -- Both what is nested in a predicate and what follows it are shorter, so the fuel stays enough.
  induction fuel with
  | zero =>
    intro cs hlt
    exact absurd hlt (Nat.not_lt_zero _)
  | succ fuel ih =>
    intro cs hlt ps rest
    cases ps with
    | nil =>
      rw [readPredicates_eq_ok_nil_iff]
      exact and_congr_right fun hends => (exists_rowText_nil_iff hends).symm
    | cons p ps =>
      have hle : (skipBlank cs).length ≤ fuel :=
        (List.length_dropWhile_le isBlank cs).trans (Nat.le_of_lt_succ hlt)
      have hnested : ∀ inner, inner.length < (skipBlank cs).length →
          Reads (fun cs => nonEmpty (readPredicates fuel cs)) CompoundText (endsCompound ·) inner :=
        fun inner hinner => (ih inner (hinner.trans_le hle)).nonEmpty
      rw [readPredicates_eq_ok_cons_iff]
      simp only [readPredicate_eq_ok_iff hnested]
      constructor
      · intro h
        obtain ⟨-, mid, hp, hps⟩ := h
        obtain ⟨-, first, hskip, htext⟩ := id hp
        have hlt := (length_lt_of_eq_append hskip htext.ne_nil).trans_le hle
        obtain ⟨hends, hrow⟩ := (ih mid hlt ps rest).1 hps
        exact ⟨hends, (exists_rowText_cons_iff hends).2 ⟨mid, hp, hrow⟩⟩
      · intro h
        obtain ⟨hends, hrow⟩ := h
        obtain ⟨mid, hp, hrow⟩ := (exists_rowText_cons_iff hends).1 hrow
        obtain ⟨-, first, hskip, htext⟩ := id hp
        have hlt := (length_lt_of_eq_append hskip htext.ne_nil).trans_le hle
        rw [hskip]
        exact ⟨htext.not_endsCompound mid, mid, hskip ▸ hp, (ih mid hlt ps rest).2 ⟨hends, hrow⟩⟩

theorem reads_readCompound (cs : List Char) : Reads readCompound CompoundText (endsCompound ·) cs :=
  (reads_readPredicates (cs.length + 1) cs (Nat.lt_succ_self _)).nonEmpty

end Selector

end ShapeGraph
