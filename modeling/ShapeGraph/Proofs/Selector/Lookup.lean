import ShapeGraph.Proofs.Selector.Chain
import ShapeGraph.Proofs.Selector.Recognition

/-!
Selecting by ids alone, where everything is looked up and any look-up can fail: the first step of a
route, the sign of a comparison, and the node of an id. For a selector that was read from a text
none of them fails.
-/

namespace ShapeGraph

def comparators : Fields (String → String → Bool) :=
  [.equal, .unequal, .startsWith, .endsWith, .contains].map fun op : Comparison =>
    (op.symbol, op.holds)

theorem get?_comparators (op : Comparison) : comparators.get? op.symbol = some op.holds := by
  cases op <;> rfl

namespace Predicate

mutual

def IsFull : Predicate → Prop
  | .attribute part op value => part ∈ IdPart.all ∧ op.symbol ∈ comparators.keys ∧ value ≠ ""
  | .not compound => compound ≠ [] ∧ AllFull compound
  | _ => True

def AllFull : List Predicate → Prop
  | [] => True
  | p :: ps => p.IsFull ∧ AllFull ps

end

mutual

def holds? (id : String) (node : Json) : Predicate → Option Bool
  | .attribute part op value =>
    match part.of id with
    | some actual => (comparators.get? op.symbol).map fun holds => holds actual value
    | none => some (op = .unequal)
  | .not compound => (allHold? id node compound).map (!·)
  | p => some (p.holds id node)

def allHold? (id : String) (node : Json) : List Predicate → Option Bool
  | [] => some true
  | p :: ps => (p.holds? id node).bind fun holds =>
    if holds then allHold? id node ps else some false

end

mutual

theorem holds?_eq (id : String) (node : Json) : (p : Predicate) →
    p.holds? id node = some (p.holds id node)
  | .any | .kind _ | .trait _ => rfl
  | .attribute part op value => by
    rw [holds?, holds, get?_comparators]
    cases part.of id <;> rfl
  | .not compound => by
    rw [holds?, holds, allHold?_eq id node compound]
    rfl

theorem allHold?_eq (id : String) (node : Json) : (compound : List Predicate) →
    allHold? id node compound = some (allHold id node compound)
  | [] => rfl
  | p :: ps => by
    rw [allHold?, allHold, holds?_eq id node p, allHold?_eq id node ps]
    cases p.holds id node <;> rfl

end

end Predicate

namespace Selector

structure IsFull (s : Selector) : Prop where
  alternatives : s.alternatives ≠ []
  routes : ∀ route ∈ s.alternatives, route ≠ []
  steps : ∀ route ∈ s.alternatives, ∀ step ∈ route, step ≠ [] ∧ Predicate.AllFull step

def keep? (nodes : Fields Json) (step : Compound) : List String → Option (List String)
  | [] => some []
  | id :: ids => do
    let node ← nodes.get? id
    let meets ← Predicate.allHold? id node step
    let rest ← keep? nodes step ids
    return if meets then id :: rest else rest

def targets? (nodes : Fields Json) : List String → Option (List String)
  | [] => some []
  | id :: ids => do
    let node ← nodes.get? id
    let rest ← targets? nodes ids
    return node.edges.map Edge.target ++ rest

def step? (nodes : Fields Json) (current : List String) (step : Compound) :
    Option (List String) := do
  let targets ← targets? nodes current
  keep? nodes step (targets.filter nodes.has)

def evaluate? (nodes : Fields Json) : Route → Option (List String)
  | [] => none
  | step :: steps => do
    let current ← keep? nodes step nodes.keys
    steps.foldlM (step? nodes) current

end Selector

def Model.select? (m : Model) (s : Selector) : Option (Fields Json) := do
  let matched ← s.alternatives.mapM (Selector.evaluate? m.nodes)
  return m.nodes.filter fun e => matched.flatten.contains e.1

namespace Selector

theorem AttributeText.isFull {cs : List Char} {p : Predicate} (h : AttributeText cs p) :
    p.IsFull := by
  cases h with
  | @intro _ _ _ value part op _ _ hvalue =>
    have hne : value ≠ [] := (valueText_iff.1 hvalue).2
    refine ⟨?_, Fields.has_iff_mem_keys.1 ?_, ?_⟩
    · cases part <;> decide
    · rw [Fields.has, get?_comparators]
      rfl
    · intro hempty
      exact hne (by simpa using hempty)

theorem BodyText.isFull {cs : List Char} {p : Predicate} (h : BodyText cs p) : p.IsFull := by
  cases h with
  | trait => trivial
  | part h => exact h.isFull

mutual

theorem PredicateText.isFull {cs : List Char} {p : Predicate} : PredicateText cs p → p.IsFull
  | .any | .kind _ => trivial
  | .bracket _ _ hbody => hbody.isFull
  | .not hrow hne => ⟨hne, hrow.allFull⟩

theorem RowText.allFull {cs : List Char} {ps : List Predicate} :
    RowText cs ps → Predicate.AllFull ps
  | .nil _ => trivial
  | .cons _ hp _ hrow => ⟨hp.isFull, hrow.allFull⟩

end

theorem AlternativesText.isFull {s : Selector} {cs : List Char}
    (h : AlternativesText cs s.alternatives) : s.IsFull := by
  have hcompound : ∀ cs compound, CompoundText cs compound →
      compound ≠ [] ∧ Predicate.AllFull compound := by
    intro cs compound h
    cases h with
    | intro hrow hne => exact ⟨hne, hrow.allFull⟩
  have hroute : ∀ cs route, RouteText cs route → route ≠ []
      ∧ ∀ step ∈ route, step ≠ [] ∧ Predicate.AllFull step :=
    fun cs route h => ⟨h.ne_nil, h.forall_mem hcompound⟩
  have hroutes := h.forall_mem hroute
  exact ⟨h.ne_nil, fun route hr => (hroutes route hr).1, fun route hr => (hroutes route hr).2⟩

end Selector

namespace Model

variable {m : Model} {id : String} {step : Compound} {ids : List String}

section

variable (hd : m.entries.Distinct)

include hd

theorem get?_nodes : m.nodes.get? id = m.node? id := by
  have hnodes : m.nodes.Distinct := hd.sublist (List.filter_sublist.map Prod.fst)
  apply Option.ext
  intro node
  rw [← mem_nodes_iff hd]
  exact ⟨Fields.mem_of_get?, hnodes.get?_of_mem⟩

theorem exists_node? (h : id ∈ m.nodes.keys) : ∃ node, m.node? id = some node := by
  obtain ⟨node, hnode⟩ := Fields.mem_keys_iff.1 h
  exact ⟨node, (mem_nodes_iff hd).1 hnode⟩

theorem exists_keep? (hids : ids ⊆ m.nodes.keys) :
    ∃ kept, Selector.keep? m.nodes step ids = some kept
      ∧ ∀ id, id ∈ kept ↔ id ∈ ids ∧ m.Meets step id := by
  induction ids with
  | nil => exact ⟨[], rfl, by simp⟩
  | cons first ids ih =>
    rw [List.cons_subset] at hids
    obtain ⟨node, hnode⟩ := exists_node? hd hids.1
    obtain ⟨kept, hkept, hmem⟩ := ih hids.2
    have hmeets : m.Meets step first ↔ Predicate.allHold first node step := by
      simp [Meets, hnode, Predicate.allHold_iff]
    simp only [Selector.keep?, get?_nodes hd, hnode, hkept, Predicate.allHold?_eq,
      Option.bind_eq_bind, Option.bind_some]
    refine ⟨_, rfl, ?_⟩
    intro id
    have hif : (id ∈ if Predicate.allHold first node step then first :: kept else kept)
        ↔ id = first ∧ m.Meets step first ∨ id ∈ kept := by
      rw [hmeets]
      split <;> simp [*]
    rw [hif, hmem, List.mem_cons, or_and_right]
    apply or_congr_left
    apply and_congr_right
    rintro rfl
    rfl

theorem exists_targets? (hids : ids ⊆ m.nodes.keys) :
    ∃ targets, Selector.targets? m.nodes ids = some targets
      ∧ ∀ id, id ∈ targets ↔ ∃ before ∈ ids, m.RefersTo before id := by
  induction ids with
  | nil => exact ⟨[], rfl, by simp⟩
  | cons first ids ih =>
    rw [List.cons_subset] at hids
    obtain ⟨node, hnode⟩ := exists_node? hd hids.1
    obtain ⟨targets, htargets, hmem⟩ := ih hids.2
    simp only [Selector.targets?, get?_nodes hd, hnode, htargets, Option.bind_eq_bind,
      Option.bind_some]
    refine ⟨_, rfl, ?_⟩
    intro id
    simp [hmem, RefersTo, hnode]

theorem exists_step? (hids : ids ⊆ m.nodes.keys) :
    ∃ next, Selector.step? m.nodes ids step = some next ∧ next ⊆ m.nodes.keys
      ∧ ∀ id, id ∈ next ↔ m.Meets step id ∧ ∃ before ∈ ids, m.RefersTo before id := by
  obtain ⟨targets, htargets, hmem⟩ := exists_targets? hd hids
  have hknown : ∀ id, id ∈ targets.filter m.nodes.has ↔ id ∈ targets ∧ id ∈ m.nodes.keys := by
    intro id
    rw [List.mem_filter, Fields.has_iff_mem_keys]
  obtain ⟨next, hnext, hkept⟩ := exists_keep? hd (fun id hid => ((hknown id).1 hid).2)
  refine ⟨next, ?_, ?_, ?_⟩
  · rw [Selector.step?, htargets]
    exact hnext
  · intro id hid
    exact mem_keys_of_meets hd ((hkept id).1 hid).2
  · intro id
    rw [hkept, hknown, hmem]
    constructor
    · intro h
      exact ⟨h.2, h.1.1⟩
    · intro h
      exact ⟨⟨h.2, mem_keys_of_meets hd h.1⟩, h.1⟩

theorem exists_follow? {current : Fields Json} (hsub : current ⊆ m.nodes)
    (hids : ∀ id, id ∈ ids ↔ id ∈ current.keys) (steps : List Compound) :
    ∃ last, steps.foldlM (Selector.step? m.nodes) ids = some last ∧ last ⊆ m.nodes.keys
      ∧ ∀ id, id ∈ last ↔ id ∈ Fields.keys (Selector.follow m.nodes current steps) := by
  -- The ids stay those of the shapes that the other evaluation holds, and stay ids of nodes.
  have hknown : ids ⊆ m.nodes.keys := by
    intro id hid
    obtain ⟨node, hnode⟩ := Fields.mem_keys_iff.1 ((hids id).1 hid)
    exact Fields.mem_keys_iff.2 ⟨node, hsub hnode⟩
  induction steps generalizing ids current with
  | nil => exact ⟨ids, rfl, hknown, hids⟩
  | cons step steps ih =>
    obtain ⟨next, hnext, hknown, hmem⟩ := exists_step? hd hknown
    rw [List.foldlM_cons, hnext]
    apply ih step_subset_nodes _ hknown
    intro id
    rw [hmem, mem_keys_step_iff hd hsub]
    simp only [hids]

theorem exists_evaluate? {route : Route} (hne : route ≠ []) :
    ∃ last, Selector.evaluate? m.nodes route = some last ∧ last ⊆ m.nodes.keys
      ∧ ∀ id, id ∈ last ↔ id ∈ Fields.keys (Selector.evaluateRoute m.nodes route) := by
  cases route with
  | nil => exact absurd rfl hne
  | cons step steps =>
    obtain ⟨current, hcurrent, hmem⟩ := exists_keep? hd (List.Subset.refl m.nodes.keys)
    rw [Selector.evaluate?, hcurrent, Selector.evaluateRoute]
    apply exists_follow? hd (List.filter_subset_self _)
    intro id
    rw [hmem, mem_keys_filter_iff hd (List.Subset.refl _)]

theorem exists_evaluateAll? {routes : List Route} (hne : ∀ route ∈ routes, route ≠ []) :
    ∃ found, routes.mapM (Selector.evaluate? m.nodes) = some found ∧ ∀ id, id ∈ found.flatten
      ↔ id ∈ routes.flatMap fun route => (Selector.evaluateRoute m.nodes route).keys := by
  induction routes with
  | nil => exact ⟨[], rfl, by simp⟩
  | cons route routes ih =>
    rw [List.forall_mem_cons] at hne
    obtain ⟨last, hlast, -, hmem⟩ := exists_evaluate? hd hne.1
    obtain ⟨found, hfound, hmems⟩ := ih hne.2
    refine ⟨last :: found, ?_, ?_⟩
    · rw [List.mapM_cons, hlast, hfound]
      rfl
    · intro id
      rw [List.flatten_cons, List.flatMap_cons, List.mem_append, List.mem_append, hmem, hmems]

theorem select?_eq {s : Selector} (h : s.IsFull) : m.select? s = some (m.select s) := by
  obtain ⟨found, hfound, hmem⟩ := exists_evaluateAll? hd h.routes
  have hcontains : ∀ id, found.flatten.contains id = (s.alternatives.flatMap fun route =>
      (Selector.evaluateRoute m.nodes route).keys).contains id := by
    intro id
    rw [Bool.eq_iff_iff, List.contains_iff_mem, List.contains_iff_mem, hmem]
  simp only [select?, hfound, Option.bind_eq_bind, Option.bind_some, hcontains]
  rfl

end

end Model

theorem Selector.evaluate?_append (nodes : Fields Json) {front : Route} (hne : front ≠ [])
    (rest : Route) :
    evaluate? nodes (front ++ rest) = (evaluate? nodes front).bind (rest.foldlM (step? nodes)) := by
  cases front with
  | nil => exact absurd rfl hne
  | cons step steps =>
    simp only [List.cons_append, evaluate?, List.foldlM_append, Option.bind_eq_bind,
      Option.bind_assoc]

/-- Nothing that evaluation looks up is missing from a selector that was read from a text. On every
model, after each step of a route there are ids of shapes alone to go on from, and selecting by ids
finds what the selector selects. -/
theorem Selector.read_selects {text : String} {s : Selector} (h : parse text = .ok s) :
    s.IsFull ∧ ∀ m : Model, m.entries.Distinct →
      (∀ route ∈ s.alternatives, ∀ n, ∃ current,
        evaluate? m.nodes (route.take (n + 1)) = some current ∧ current ⊆ m.nodes.keys
          ∧ evaluate? m.nodes route = (route.drop (n + 1)).foldlM (step? m.nodes) current)
      ∧ m.select? s = some (m.select s) := by
  have hfull : s.IsFull := AlternativesText.isFull ((parse_recognises_grammar text s).1 h).2
  refine ⟨hfull, ?_⟩
  intro m hd
  refine ⟨?_, m.select?_eq hd hfull⟩
  intro route hroute n
  have hne : route.take (n + 1) ≠ [] := by
    rw [Ne, List.take_eq_nil_iff, not_or]
    exact ⟨Nat.succ_ne_zero n, hfull.routes route hroute⟩
  obtain ⟨current, hcurrent, hknown, -⟩ := m.exists_evaluate? hd hne
  refine ⟨current, hcurrent, hknown, ?_⟩
  conv_lhs => rw [← List.take_append_drop (n + 1) route]
  rw [evaluate?_append m.nodes hne, hcurrent, Option.bind_some]

def Selector.setsThenRows : Selector where
  text := ":not(:not(set)) > *[id|name^=R], [trait|required]"
  alternatives :=
    [[[.not [.not [.kind .set]]], [.any, .attribute .name .startsWith "R"]], [[.trait "required"]]]

theorem Selector.read_selects_setsThenRows :
    parse ":not(:not(set)) > *[id|name^=R], [trait|required]" = .ok setsThenRows
      ∧ Model.ring.entries.Distinct
      ∧ (∃ current, evaluate? Model.ring.nodes [[.not [.not [.kind .set]]]] = some current
        ∧ current ⊆ Model.ring.nodes.keys)
      ∧ (Model.ring.select? setsThenRows).map Fields.keys = some ["Row"] := by
  have h : parse ":not(:not(set)) > *[id|name^=R], [trait|required]" = .ok setsThenRows := by rfl
  have hd : Model.ring.entries.Distinct := by
    unfold Fields.Distinct
    decide
  obtain ⟨hsteps, hselect⟩ := (read_selects h).2 Model.ring hd
  obtain ⟨current, hcurrent, hknown, -⟩ := hsteps _ (.head _) 0
  refine ⟨h, hd, ⟨current, hcurrent, hknown⟩, ?_⟩
  rw [hselect]
  decide

end ShapeGraph
