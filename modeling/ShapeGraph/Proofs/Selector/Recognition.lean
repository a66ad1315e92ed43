import ShapeGraph.Proofs.Selector.Compound

namespace ShapeGraph.Selector

open Text

section

variable {α : Type} {sep : Char} {item : List Char → Reading α} {cs rest : List Char} {xs : List α}

theorem readSeparated_eq_ok_iff (fuel : Nat)
    (hskip : ∀ x mid, item cs = .ok (x, mid) → skipBlank mid = mid) :
    readSeparated sep item (fuel + 1) cs = .ok (xs, rest)
      ↔ ∃ x mid, item cs = .ok (x, mid)
        ∧ (mid.head? ≠ some sep ∧ xs = [x] ∧ rest = mid
          ∨ ∃ tail more, mid = sep :: tail ∧ xs = x :: more
            ∧ readSeparated sep item fuel tail = .ok (more, rest)) := by
  rw [readSeparated, bind_eq_ok_iff]
  constructor
  · intro h
    obtain ⟨⟨x, mid⟩, hx, h⟩ := h
    refine ⟨x, mid, hx, ?_⟩
    dsimp only at h
    rw [hskip x mid hx] at h
    cases mid with
    | nil =>
      cases h
      exact .inl ⟨nofun, rfl, rfl⟩
    | cons c tail =>
      dsimp only at h
      split at h
      · rename_i hc
        obtain ⟨⟨more, after⟩, hmore, h⟩ := map_eq_ok_iff.1 h
        cases h
        exact .inr ⟨tail, more, by rw [hc], rfl, hmore⟩
      · rename_i hc
        cases h
        exact .inl ⟨fun h => hc (Option.some.inj h), rfl, rfl⟩
  · intro h
    obtain ⟨x, mid, hx, h⟩ := h
    refine ⟨(x, mid), hx, ?_⟩
    dsimp only
    rw [hskip x mid hx]
    cases h with
    | inl h =>
      obtain ⟨hhead, rfl, rfl⟩ := h
      cases rest with
      | nil => rfl
      | cons c tail => exact if_neg fun h => hhead (congrArg some h)
    | inr h =>
      obtain ⟨tail, more, rfl, rfl, hmore⟩ := h
      dsimp only
      rw [if_pos rfl, hmore]
      rfl

theorem reads_readSeparated {T : List Char → α → Prop} {ends : List Char → Prop}
    (hitem : ∀ cs, Reads item T ends cs) (hblank : ∀ rest, ends rest → Stops isBlank rest)
    (hsep : ∀ rest, ends (sep :: rest)) (fuel : Nat) :
    ∀ cs, cs.length < fuel → Reads (readSeparated sep item fuel) (Joined sep T)
      (fun rest => ends rest ∧ rest.head? ≠ some sep) cs := by
  induction fuel with
  | zero =>
    intro cs hlt
    exact absurd hlt (Nat.not_lt_zero _)
  | succ fuel ih =>
    intro cs hlt xs rest
    have htail {head tail : List Char} (h : cs = head ++ sep :: tail) : tail.length < fuel := by
      rw [h, List.length_append, List.length_cons] at hlt
      omega
    rw [readSeparated_eq_ok_iff fuel fun x mid h =>
      dropWhile_eq_self (hblank mid ((hitem cs x mid).1 h).1)]
    constructor
    · intro h
      obtain ⟨x, mid, hx, h⟩ := h
      obtain ⟨hends, taken, hcs, htext⟩ := (hitem cs x mid).1 hx
      cases h with
      | inl h =>
        obtain ⟨hhead, rfl, rfl⟩ := h
        exact ⟨⟨hends, hhead⟩, taken, hcs, .one htext⟩
      | inr h =>
        obtain ⟨tail, more, rfl, rfl, hmore⟩ := h
        obtain ⟨hends, others, hothers, htext'⟩ := (ih tail (htail hcs) more rest).1 hmore
        refine ⟨hends, taken ++ sep :: others, ?_, .more htext htext'⟩
        rw [hcs, hothers, List.append_assoc, List.cons_append]
    · intro h
      obtain ⟨⟨hends, hhead⟩, taken, hcs, htext⟩ := h
      cases htext with
      | one htext =>
        exact ⟨_, rest, (hitem cs _ rest).2 ⟨hends, taken, hcs, htext⟩, .inl ⟨hhead, rfl, rfl⟩⟩
      | @more first others x more htext htext' =>
        rw [List.append_assoc, List.cons_append] at hcs
        have hmore := (ih _ (htail hcs) more rest).2 ⟨⟨hends, hhead⟩, others, rfl, htext'⟩
        exact ⟨x, _, (hitem cs x _).2 ⟨hsep _, first, hcs, htext⟩,
          .inr ⟨others ++ rest, more, rfl, rfl, hmore⟩⟩

end

def EndsRoute (rest : List Char) : Prop := endsCompound rest ∧ rest.head? ≠ some '>'

theorem reads_readRoute (cs : List Char) : Reads readRoute RouteText EndsRoute cs :=
  reads_readSeparated reads_readCompound (fun _ => stops_isBlank_of_endsCompound) (fun _ => rfl)
    (cs.length + 1) cs (Nat.lt_succ_self _)

theorem readAlternatives_eq_ok_iff {cs : List Char} {alternatives : List Route} :
    readAlternatives cs = .ok alternatives ↔ AlternativesText cs alternatives := by
  have hcomma : ∀ rest, EndsRoute (',' :: rest) := fun _ => ⟨rfl, nofun⟩
  have hreads := reads_readSeparated reads_readRoute
    (fun _ h => stops_isBlank_of_endsCompound h.1) hcomma (cs.length + 1) cs (Nat.lt_succ_self _)
  rw [readAlternatives, bind_eq_ok_iff]
  constructor
  · intro h
    obtain ⟨⟨routes, rest⟩, hroutes, h⟩ := h
    cases rest with
    | nil =>
      cases h
      obtain ⟨-, taken, hcs, htext⟩ := (hreads alternatives []).1 hroutes
      rw [hcs, List.append_nil]
      exact htext
    | cons => cases h
  · intro h
    have hends : EndsRoute [] ∧ [].head? ≠ some ',' := ⟨⟨rfl, nofun⟩, nofun⟩
    exact ⟨_, (hreads alternatives []).2 ⟨hends, cs, (List.append_nil cs).symm, h⟩, rfl⟩

theorem Joined.exists_item {α : Type} {sep : Char} {item : List Char → α → Prop} {cs : List Char}
    {xs : List α} (h : Joined sep item cs xs) : ∃ taken x, taken ⊆ cs ∧ item taken x := by
  cases h with
  | one h => exact ⟨cs, _, List.Subset.refl cs, h⟩
  | more h => exact ⟨_, _, List.subset_append_left _ _, h⟩

theorem Joined.ne_nil {α : Type} {sep : Char} {item : List Char → α → Prop} {cs : List Char}
    {xs : List α} (h : Joined sep item cs xs) : xs ≠ [] := by
  cases h with
  | one => exact List.cons_ne_nil _ _
  | more => exact List.cons_ne_nil _ _

theorem Joined.forall_mem {α : Type} {sep : Char} {item : List Char → α → Prop} {P : α → Prop}
    {cs : List Char} {xs : List α} (hitem : ∀ cs x, item cs x → P x) (h : Joined sep item cs xs) :
    ∀ x ∈ xs, P x := by
  induction h with
  | one hx => exact List.forall_mem_singleton.2 (hitem _ _ hx)
  | more hx _ ih => exact List.forall_mem_cons.2 ⟨hitem _ _ hx, ih⟩

theorem not_isBlank_of_alternativesText {cs : List Char} {alternatives : List Route}
    (h : AlternativesText cs alternatives) : ¬ IsBlank cs := by
  intro hblank
  obtain ⟨route, _, hroute, h⟩ := h.exists_item
  obtain ⟨compound, _, hcompound, h⟩ := h.exists_item
  cases h with
  | intro hrow hne =>
    cases hrow with
    | nil => exact hne rfl
    | @cons left first _ _ _ _ htext =>
      obtain ⟨c, tail, hfirst, hc, -⟩ := htext.exists_cons
      have hmem : c ∈ cs := by
        apply hroute
        apply hcompound
        simp [hfirst]
      rw [hblank c hmem] at hc
      cases hc

theorem stripBlank_eq_nil_iff {cs : List Char} : stripBlank cs = [] ↔ IsBlank cs := by
  rw [stripBlank, stripBy_eq_iff]
  constructor
  · intro h
    obtain ⟨left, right, rfl, hleft, hright⟩ := h.parts
    intro c hc
    rw [List.append_nil, List.mem_append] at hc
    exact hc.elim (hleft c) (hright c)
  · intro h
    have hsplit : cs = cs ++ [] ++ [] := by simp
    exact ⟨⟨cs, [], hsplit, h, fun _ hc => absurd hc List.not_mem_nil⟩, stops_nil _, stops_nil _⟩

theorem parse_eq_ok_iff {text : String} {s : Selector} :
    parse text = .ok s ↔ s.text = text ∧ readAlternatives text.toList = .ok s.alternatives := by
  unfold parse
  constructor
  · intro h
    split at h
    · cases h
    · split at h
      · cases h
      · rename_i halternatives
        cases h
        exact ⟨rfl, halternatives⟩
  · intro h
    obtain ⟨rfl, h⟩ := h
    have hne : ¬ (stripBlank s.text.toList).isEmpty := by
      rw [List.isEmpty_iff, stripBlank_eq_nil_iff]
      exact not_isBlank_of_alternativesText (readAlternatives_eq_ok_iff.1 h)
    rw [if_neg hne, h]

/-- A text is a selector exactly when the grammar has it, and stands for what the grammar says. -/
theorem parse_recognises_grammar (text : String) (s : Selector) :
    parse text = .ok s ↔ s.text = text ∧ AlternativesText text.toList s.alternatives := by
  rw [parse_eq_ok_iff, readAlternatives_eq_ok_iff]

example : (parse "list>*:not( [ id|name = 'a!=b' ] )").toOption.map Selector.alternatives
    = some [[[.kind .list], [.any, .not [.attribute .name .equal "a!=b"]]]] := by
  rfl

theorem AlternativesText.unique {cs : List Char} {first second : List Route}
    (h : AlternativesText cs first) (h' : AlternativesText cs second) : first = second := by
  have hread := readAlternatives_eq_ok_iff.2 h
  rw [readAlternatives_eq_ok_iff.2 h'] at hread
  cases hread
  rfl

end ShapeGraph.Selector
