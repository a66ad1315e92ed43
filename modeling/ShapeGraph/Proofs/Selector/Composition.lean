import ShapeGraph.Proofs.Selector.Chain
import ShapeGraph.Proofs.Selector.Recognition

namespace ShapeGraph

namespace Selector

section

variable {α : Type} {sep : Char} {item : List Char → α → Prop} {cs ds : List Char} {x : α}
  {xs ys : List α}

theorem Joined.append (h : Joined sep item cs xs) (h' : Joined sep item ds ys) :
    Joined sep item (cs ++ sep :: ds) (xs ++ ys) := by
  induction h with
  | one hx => exact .more hx h'
  | more hx _ ih =>
    rw [List.append_assoc]
    exact .more hx ih

theorem joined_singleton_iff : Joined sep item cs [x] ↔ item cs x := by
  constructor
  · intro h
    cases h with
    | one hx => exact hx
    | more _ h => exact absurd rfl h.ne_nil
  · intro h
    exact .one h

end

theorem AlternativesText.negated {cs : List Char} {compound : Compound}
    (h : AlternativesText cs [[compound]]) :
    AlternativesText (":not(".toList ++ (cs ++ [')'])) [[[.not compound]]] := by
  have hcompound : CompoundText cs compound := joined_singleton_iff.1 (joined_singleton_iff.1 h)
  cases hcompound with
  | intro hrow hne =>
    have hnot : RowText ([] ++ ((":not(".toList ++ (cs ++ [')'])) ++ [])) [.not compound] :=
      .cons nofun (.not hrow hne) trivial (.nil nofun)
    rw [List.nil_append, List.append_nil] at hnot
    exact .one (.one (.intro hnot (List.cons_ne_nil _ _)))

theorem parse_of_alternativesText {text : String} {cs : List Char} {alternatives : List Route}
    (htext : text.toList = cs) (h : AlternativesText cs alternatives) :
    parse text = .ok ⟨text, alternatives⟩ :=
  (parse_recognises_grammar text _).2 ⟨rfl, htext ▸ h⟩

end Selector

namespace Model

variable {m : Model} {s t u : Selector} {id : String}

theorem isSelected_append (h : u.alternatives = s.alternatives ++ t.alternatives) :
    m.IsSelected u id ↔ m.IsSelected s id ∨ m.IsSelected t id := by
  simp only [IsSelected, h, List.mem_append, or_and_right, exists_or]

theorem isSelected_single {compound : Compound} (h : s.alternatives = [[compound]]) :
    m.IsSelected s id ↔ m.Meets compound id := by
  rw [IsSelected, h]
  constructor
  · intro hs
    obtain ⟨route, hroute, ids, ⟨hmeets, -⟩, hlast⟩ := hs
    rw [List.mem_singleton.1 hroute] at hmeets
    cases hmeets with
    | cons hid hrest =>
      cases hrest
      cases hlast
      exact hid
  · intro hid
    exact ⟨_, List.mem_singleton_self _, [id], ⟨.cons hid .nil, .singleton id⟩, rfl⟩

theorem meets_not_iff {compound : Compound} {node : Json} (h : m.node? id = some node) :
    m.Meets [.not compound] id ↔ ¬ m.Meets compound id := by
  simp only [Meets, h, Option.some.injEq, exists_eq_left', List.mem_singleton, forall_eq,
    Predicate.holds, Bool.not_eq_true', ← Predicate.allHold_iff, Bool.not_eq_true]

section

variable (hd : m.entries.Distinct)

include hd

theorem has_select_iff {node : Json} (h : m.node? id = some node) :
    (m.select s).has id ↔ m.IsSelected s id := by
  rw [Fields.has_iff_mem_keys, Fields.mem_keys_iff]
  simp only [mem_select_iff hd, h, exists_and_right, and_iff_right_iff_imp]
  intro _
  exact ⟨node, rfl⟩

theorem select_eq_filter {p : String × Json → Bool}
    (h : ∀ id node, m.node? id = some node → (m.IsSelected s id ↔ p (id, node))) :
    m.select s = m.nodes.filter p := by
  refine List.filter_congr ?_
  rintro ⟨id, node⟩ hmem
  have hnode := (mem_nodes_iff hd).1 hmem
  rw [Bool.eq_iff_iff, ← h id node hnode, ← has_select_iff hd hnode, Fields.has_iff_mem_keys,
    Fields.mem_keys_iff]
  constructor
  · intro hmatched
    exact ⟨node, List.mem_filter.2 ⟨hmem, hmatched⟩⟩
  · intro hselected
    obtain ⟨node', hnode'⟩ := hselected
    exact (List.mem_filter.1 hnode').2

theorem select_single {compound : Compound} (h : s.alternatives = [[compound]]) :
    m.select s = m.nodes.filter fun e => Predicate.allHold e.1 e.2 compound := by
  apply select_eq_filter hd
  intro id node hnode
  rw [isSelected_single h, Meets]
  simp only [hnode, Option.some.injEq, exists_eq_left', Predicate.allHold_iff]

theorem select_append (h : u.alternatives = s.alternatives ++ t.alternatives) :
    m.select u = m.nodes.filter fun e => (m.select s).has e.1 || (m.select t).has e.1 := by
  apply select_eq_filter hd
  intro id node hnode
  rw [isSelected_append h, Bool.or_eq_true, has_select_iff hd hnode, has_select_iff hd hnode]

theorem select_negated {compound : Compound} (hs : s.alternatives = [[compound]])
    (hu : u.alternatives = [[[.not compound]]]) :
    m.select u = m.nodes.filter fun e => !(m.select s).has e.1 := by
  apply select_eq_filter hd
  intro id node hnode
  rw [isSelected_single hu, meets_not_iff hnode, ← isSelected_single hs,
    ← has_select_iff hd hnode, Bool.not_eq_true', Bool.not_eq_true]

end

end Model

namespace Selector

/-- Two selectors with a comma between them are a selector with the alternatives of both, and select
what one or the other selects. Of one alternative each, with an arrow between them they are a
selector with the steps of both. A compound in `:not(...)` is a selector, and selects the shapes
that the compound does not select. -/
theorem texts_compose {a b : String} {s t : Selector} (ha : parse a = .ok s)
    (hb : parse b = .ok t) :
    (∃ u, parse (a ++ "," ++ b) = .ok u ∧ u.alternatives = s.alternatives ++ t.alternatives
      ∧ ∀ m : Model, m.entries.Distinct → m.select u
        = m.nodes.filter fun e => (m.select s).has e.1 || (m.select t).has e.1)
    ∧ (∀ route next, s.alternatives = [route] → t.alternatives = [next] →
      ∃ u, parse (a ++ ">" ++ b) = .ok u ∧ u.alternatives = [route ++ next])
    ∧ ∀ compound, s.alternatives = [[compound]] →
      ∃ u, parse (":not(" ++ a ++ ")") = .ok u ∧ u.alternatives = [[[.not compound]]]
        ∧ ∀ m : Model, m.entries.Distinct →
          m.select u = m.nodes.filter fun e => !(m.select s).has e.1 := by
  have hs := ((parse_recognises_grammar a s).1 ha).2
  have ht := ((parse_recognises_grammar b t).1 hb).2
  refine ⟨?_, ?_, ?_⟩
  · have hjoined := hs.append ht
    refine ⟨_, parse_of_alternativesText (by simp) hjoined, rfl, ?_⟩
    intro m hd
    exact m.select_append hd rfl
  · intro route next hroute hnext
    rw [hroute] at hs
    rw [hnext] at ht
    have hjoined := (joined_singleton_iff.1 hs).append (joined_singleton_iff.1 ht)
    exact ⟨_, parse_of_alternativesText (by simp) (.one hjoined), rfl⟩
  · intro compound hcompound
    rw [hcompound] at hs
    refine ⟨_, parse_of_alternativesText (by simp) hs.negated, rfl, ?_⟩
    intro m hd
    exact m.select_negated hd hcompound rfl

def rows : Selector := ⟨"list[id|name=Row]", [[[.kind .list, .attribute .name .equal "Row"]]]⟩

def bags : Selector := ⟨" set", [[[.kind .set]]]⟩

theorem texts_compose_in_ring :
    parse "list[id|name=Row]" = .ok rows ∧ parse " set" = .ok bags
      ∧ (∃ u, parse "list[id|name=Row], set" = .ok u
        ∧ (Model.ring.select u).keys = ["Row", "Bag"])
      ∧ (∃ u, parse "list[id|name=Row]> set" = .ok u
        ∧ u.alternatives = [[[.kind .list, .attribute .name .equal "Row"], [.kind .set]]])
      ∧ ∃ u, parse ":not(list[id|name=Row])" = .ok u
        ∧ (Model.ring.select u).keys = ["Bag", "Void"] := by
  have hrows : parse "list[id|name=Row]" = .ok rows := by rfl
  have hbags : parse " set" = .ok bags := by rfl
  have hd : Model.ring.entries.Distinct := by
    unfold Fields.Distinct
    decide
  obtain ⟨⟨u, hu, -, hunion⟩, hjoined, hnegated⟩ := texts_compose hrows hbags
  obtain ⟨w, hw, -, hothers⟩ := hnegated _ rfl
  refine ⟨hrows, hbags, ⟨u, hu, ?_⟩, hjoined _ _ rfl rfl, w, hw, ?_⟩
  · rw [hunion Model.ring hd]
    decide
  · rw [hothers Model.ring hd]
    decide

end Selector

end ShapeGraph
