import ShapeGraph.Proofs.Acceptance.Model
import ShapeGraph.Proofs.Locality.Reference
import ShapeGraph.Proofs.Model.Lookup

/-!
What a change of one shape does to the problems of the others. A check sees of the rest of a model
no more than its ids, so only references to the changed id can be found or lost.
-/

namespace ShapeGraph

namespace ShapeCheck

variable {scope scope' : Scope} {id x : String} {v : Json}

theorem checkJson_eq_filter (scope : Scope) (id : String) (v : Json) :
    checkJson scope id v = (checkJson (some []) id v).filter (isLeft scope) :=
  (Follows.checkJson id v).eq_filter scope

theorem checkJson_of_allows_iff
    (h : ∀ target, scope'.allows target ↔ scope.allows target ∨ target = x) :
    checkJson scope' id v = (checkJson scope id v).filter fun p => p.cause.reference? ≠ some x := by
  rw [checkJson_eq_filter scope', checkJson_eq_filter scope, List.filter_filter]
  congr 1
  funext p
  cases hp : p.cause.reference? with
  | none => simp [isLeft, hp]
  | some target =>
    have hallows : scope'.allows target = (scope.allows target || decide (target = x)) := by
      rw [Bool.eq_iff_iff, h]
      simp
    simp [isLeft, hp, hallows, Bool.and_comm]

theorem filter_checkJson_of_not_allows (h : ¬ scope.allows x) :
    (checkJson scope id v).filter (fun p => p.cause.reference? = some x)
      = ((v.references id).filter fun r => r.target = x).map lost := by
  have hleft (p : Problem ShapeFault) :
      (decide (p.cause.reference? = some x) && isLeft scope p)
        = (decide (p.cause.reference? = some x) && p.cause.reference?.isSome) := by
    by_cases hp : p.cause.reference? = some x <;> simp [hp, isLeft, h]
  rw [checkJson_eq_filter, List.filter_filter]
  simp only [hleft]
  rw [← List.filter_filter, (Follows.checkJson id v).lost_eq, List.filter_map]
  congr 2
  funext r
  simp [lost, ShapeFault.reference?]

end ShapeCheck

def Fault.reference? : Fault → Option String
  | .shape f => f.reference?
  | _ => none

def Problem.IsLost (target : String) (p : Problem Fault) : Prop :=
  p.cause.statement.code = "INVALID_SHAPE_REFERENCE"
    ∧ p.cause.statement.context = some (.obj [("reference", .str target)])

theorem Problem.isLost_iff {target : String} {p : Problem Fault} :
    p.IsLost target ↔ p.cause.reference? = some target := by
  obtain ⟨path, cause⟩ := p
  cases cause with
  | document f => simp [IsLost, Fault.statement, DocumentFault.statement, Fault.reference?]
  | shape f =>
    cases f <;> simp [IsLost, Fault.statement, ShapeFault.statement, ShapeFault.code,
      ShapeFault.reference?, Fault.reference?]
  | trait f => simp [IsLost, Fault.statement, TraitFault.statement, Fault.reference?]

instance (target : String) (p : Problem Fault) : Decidable (p.IsLost target) :=
  decidable_of_iff _ Problem.isLost_iff.symm

structure Findings where
  shape : List (Problem Fault)
  traits : List (Problem Fault)

namespace Findings

def lost (target : String) (f : Findings) : List (Problem Fault) :=
  f.shape.filter fun p => p.IsLost target

def dropLost (target : String) (f : Findings) : Findings :=
  { f with shape := f.shape.filter fun p => ¬ p.IsLost target }

end Findings

namespace Model

def findings (m : Model) (checks : Checks) (id : String) : Findings :=
  match m.node? id with
  | some node => ⟨shapeProblems (m.scope checks.references) id node, traitProblems checks id node⟩
  | none => ⟨[], []⟩

variable {m m' : Model} {checks : Checks} {x y : String}

theorem flatMap_nodes {α : Type} (hd : m.entries.Distinct) (f : String → Json → List α) :
    m.nodes.flatMap (fun (id, node) => f id node)
      = m.ids.flatMap fun id => ((m.node? id).map (f id)).getD [] := by
  have hnodes : m.nodes = m.entries.filterMap fun e => (m.node? e.1).map (e.1, ·) := by
    rw [nodes, ← List.filterMap_eq_filter]
    apply List.filterMap_congr
    rintro ⟨id, node⟩ hmem
    cases h : node.isObject <;> simp [node?, hd.get?_of_mem hmem, Option.filter, Option.guard, h]
  rw [hnodes, ids, Fields.keys, List.flatMap_map]
  simp only [List.filterMap_eq_flatMap_toList, List.flatMap_assoc]
  congr
  funext e
  cases m.node? e.1 <;> simp

theorem problems_eq_findings (hd : m.entries.Distinct) :
    m.problems checks = (DocumentCheck.check m).map (·.map .document)
      ++ m.ids.flatMap (fun id => (m.findings checks id).shape)
      ++ m.ids.flatMap (fun id => (m.findings checks id).traits) := by
  simp only [problems, flatMap_nodes hd]
  congr
  · funext id 
    cases h : m.node? id <;> simp [findings, h]
  · funext id 
    cases h : m.node? id <;> simp [findings, h]

def references (m : Model) (id : String) : List Reference :=
  ((m.node? id).map (Json.references id)).getD []

theorem findings_congr (hids : m'.ids = m.ids) (hnode : m'.node? y = m.node? y) :
    m'.findings checks y = m.findings checks y := by
  simp only [findings, scope, hids, hnode]

theorem filter_map_shape (ps : List (Problem ShapeFault)) (p : Option String → Bool) :
    (ps.map (·.map Fault.shape)).filter (fun q => p q.cause.reference?)
      = (ps.filter fun q => p q.cause.reference?).map (·.map Fault.shape) := by
  rw [List.filter_map]
  rfl

section

variable (href : checks.references = true) (hx : x ∉ m.ids)
  (hids : ∀ id, id ∈ m'.ids ↔ id ∈ m.ids ∨ id = x) (hnode : m'.node? y = m.node? y)

include href hids hnode

theorem findings_of_more_ids : m'.findings checks y = (m.findings checks y).dropLost x := by
  cases hy : m.node? y with
  | none => simp [findings, Findings.dropLost, hnode, hy]
  | some node =>
    have hmem := mem_ids_of_node? hy
    have hallows (target : String) : (m'.scope checks.references).allows target
        ↔ (m.scope checks.references).allows target ∨ target = x := by
      rw [href, allows_scope (List.ne_nil_of_mem ((hids y).2 (.inl hmem))),
        allows_scope (List.ne_nil_of_mem hmem), hids]
    simp only [findings, Findings.dropLost, hnode, hy, shapeProblems,
      ShapeCheck.checkJson_of_allows_iff hallows, Problem.isLost_iff]
    rw [filter_map_shape _ fun r => r ≠ some x]

include hx in
omit hids hnode in
theorem lost_findings : (m.findings checks y).lost x
    = ((m.references y).filter fun r => r.target = x).map
        fun r => ⟨r.path, .shape (.dangling r.target)⟩ := by
  cases hy : m.node? y with
  | none => simp [findings, Findings.lost, references, hy]
  | some node =>
    have hallows : ¬ (m.scope checks.references).allows x := by
      rw [href, allows_scope (List.ne_nil_of_mem (mem_ids_of_node? hy))]
      exact hx
    simp only [findings, Findings.lost, references, hy, shapeProblems, Problem.isLost_iff]
    rw [filter_map_shape _ fun r => r = some x, ShapeCheck.filter_checkJson_of_not_allows hallows]
    simp [Problem.map, ShapeCheck.lost]

end

theorem node?_set_of_ne (h : y ≠ x) (node : Json) :
    (m.withEntries (m.entries.set x node)).node? y = m.node? y := by
  rw [node?, node?, entries_withEntries, Fields.get?_set_of_ne h.symm]

theorem ids_set_of_mem (h : x ∈ m.ids) (node : Json) :
    (m.withEntries (m.entries.set x node)).ids = m.ids := by
  rw [ids, entries_withEntries, Fields.keys_set]
  exact if_pos h

theorem mem_ids_set_iff (h : x ∉ m.ids) (node : Json) (id : String) :
    id ∈ (m.withEntries (m.entries.set x node)).ids ↔ id ∈ m.ids ∨ id = x := by
  have hkeys : Fields.keys (m.entries.set x node) = m.ids ++ [x] := by
    rw [Fields.keys_set]
    exact if_neg h
  rw [ids, entries_withEntries, hkeys, List.mem_append, List.mem_singleton]

theorem node?_erase_of_ne (h : y ≠ x) :
    (m.withEntries (m.entries.erase x)).node? y = m.node? y := by
  rw [node?, node?, entries_withEntries, Fields.get?_erase_of_ne h.symm]

theorem mem_ids_erase_iff (hd : m.entries.Distinct) (id : String) :
    id ∈ (m.withEntries (m.entries.erase x)).ids ↔ id ≠ x ∧ id ∈ m.ids := by
  rw [ids, entries_withEntries, Fields.keys_erase]
  exact List.Nodup.mem_erase_iff hd

theorem addShape_eq_ok {entries : Fields Json} (hs : m.shapes = some (.obj entries)) (node : Json) :
    m.addShape x node = .ok (m.withEntries (m.entries.set x node)) := by
  rw [addShape, entries_of_shapes hs, hs]

theorem removeShape?_eq_some (h : x ∈ m.ids) :
    m.removeShape? x = some (m.withEntries (m.entries.erase x)) := by
  rw [removeShape?, has, Fields.has_iff_mem_keys.2 h, if_pos rfl]

theorem findings_set_of_mem (h : x ∈ m.ids) (hy : y ≠ x) (node : Json) :
    (m.withEntries (m.entries.set x node)).findings checks y = m.findings checks y :=
  findings_congr (ids_set_of_mem h node) (node?_set_of_ne hy node)

theorem findings_set_of_not_mem (href : checks.references = true) (h : x ∉ m.ids) (hy : y ≠ x)
    (node : Json) : (m.withEntries (m.entries.set x node)).findings checks y
      = (m.findings checks y).dropLost x :=
  findings_of_more_ids href (mem_ids_set_iff h node) (node?_set_of_ne hy node)

theorem dropLost_findings_erase (href : checks.references = true) (hd : m.entries.Distinct)
    (h : x ∈ m.ids) (hy : y ≠ x) :
    ((m.withEntries (m.entries.erase x)).findings checks y).dropLost x = m.findings checks y := by
  refine (findings_of_more_ids href (fun id => ?_) (node?_erase_of_ne hy).symm).symm
  rw [mem_ids_erase_iff hd]
  by_cases hid : id = x
  · simp [hid, h]
  · simp [hid]

theorem lost_findings_erase (href : checks.references = true) (hd : m.entries.Distinct)
    (hy : y ≠ x) : ((m.withEntries (m.entries.erase x)).findings checks y).lost x
      = ((m.references y).filter fun r => r.target = x).map
          fun r => ⟨r.path, .shape (.dangling r.target)⟩ := by
  have hx : x ∉ (m.withEntries (m.entries.erase x)).ids := by
    rw [mem_ids_erase_iff hd]
    exact fun h => h.1 rfl
  rw [lost_findings href hx, references, references, node?_erase_of_ne hy]

/-- A check with references is local: a shape put in the place of another, or given a trait, changes
nothing that is reported about the rest; a new id takes from the reports on other shapes just the
references to it that were lost; and with an id that goes, each of the references to it is lost, in
the order in which they are looked up. -/
theorem findings_after_change {entries : Fields Json} (hs : m.shapes = some (.obj entries))
    (hd : Fields.Distinct entries) (href : checks.references = true) (x : String) :
    (∀ n : Model, n.entries.Distinct → (n.validate checks).problems
      = (DocumentCheck.check n).map (·.map .document)
        ++ n.ids.flatMap (fun id => (n.findings checks id).shape)
        ++ n.ids.flatMap (fun id => (n.findings checks id).traits))
    ∧ (x ∈ m.ids → ∀ node, ∃ m', m.addShape x node = .ok m' ∧ m'.entries.Distinct
      ∧ ∀ y ≠ x, m'.findings checks y = m.findings checks y)
    ∧ ((m.node? x).isSome → ∀ traitId value, ∃ m', m.addTrait x traitId value = .ok m'
      ∧ m'.entries.Distinct ∧ ∀ y ≠ x, m'.findings checks y = m.findings checks y)
    ∧ (x ∉ m.ids → ∀ node, ∃ m', m.addShape x node = .ok m' ∧ m'.entries.Distinct
      ∧ ∀ y ≠ x, m'.findings checks y = (m.findings checks y).dropLost x)
    ∧ (x ∈ m.ids → ∃ m', m.removeShape? x = some m' ∧ m'.entries.Distinct
      ∧ ∀ y ≠ x, (m'.findings checks y).dropLost x = m.findings checks y
        ∧ (m'.findings checks y).lost x = ((m.references y).filter fun r => r.target = x).map
            fun r => ⟨r.path, .shape (.dangling r.target)⟩) := by
  have hdm : m.entries.Distinct := by
    rw [entries_of_shapes hs]
    exact hd
  refine ⟨fun n hn => problems_eq_findings hn, ?_, ?_, ?_, ?_⟩
  · intro hx node
    exact ⟨_, addShape_eq_ok hs node, hdm.set x node, fun y hy => findings_set_of_mem hx hy node⟩
  · intro hx traitId value
    obtain ⟨node, hnode⟩ := Option.isSome_iff_exists.1 hx
    refine ⟨m.withEntries (m.entries.set x (applyTrait traitId value node)), ?_, hdm.set _ _, ?_⟩
    · rw [addTrait, hnode]
    · exact fun y hy => findings_set_of_mem (mem_ids_of_node? hnode) hy _
  · intro hx node
    exact ⟨_, addShape_eq_ok hs node, hdm.set x node,
      fun y hy => findings_set_of_not_mem href hx hy node⟩
  · intro hx
    exact ⟨_, removeShape?_eq_some hx, hdm.erase x,
      fun y hy => ⟨dropLost_findings_erase href hdm hx hy, lost_findings_erase href hdm hy⟩⟩

def orchard : Model where
  version := .str "2.0"
  metadata := none
  shapes := some (.obj
    [("Tree", .obj [("type", .str "structure"),
      ("members", .obj [("fruit", .obj [("target", .str "Fruit")])]),
      ("mixins", .arr [.int 3, .obj [("target", .str "Fruit")], .str "Tree"])]),
     ("Fruit", .obj [("type", .str "string")])])

theorem findings_orchard_without_fruit : orchard.entries.Distinct
    ∧ ∃ m', orchard.removeShape? "Fruit" = some m'
      ∧ (m'.findings Checks.all "Tree").lost "Fruit"
        = [⟨"Tree.fruit", .shape (.dangling "Fruit")⟩,
          ⟨"Tree.mixins[1]", .shape (.dangling "Fruit")⟩] := by
  have hd : orchard.entries.Distinct := by
    unfold Fields.Distinct
    decide
  obtain ⟨m', hm', -, h⟩ :=
    (findings_after_change rfl hd (show Checks.all.references = true from rfl) "Fruit").2.2.2.2
      (show "Fruit" ∈ orchard.ids by decide)
  refine ⟨hd, m', hm', ?_⟩
  rw [(h "Tree" (by decide)).2]
  rfl

end Model

end ShapeGraph
