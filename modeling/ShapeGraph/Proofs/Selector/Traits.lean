import ShapeGraph.Selector.Matching

namespace ShapeGraph

mutual

def Predicate.traitIds : Predicate → List String
  | .trait id => [id]
  | .not compound => Predicate.traitIdsOf compound
  | _ => []

def Predicate.traitIdsOf : List Predicate → List String
  | [] => []
  | p :: ps => p.traitIds ++ Predicate.traitIdsOf ps

end

def Selector.traitIds (s : Selector) : List String :=
  s.alternatives.flatMap fun route => route.flatMap Predicate.traitIdsOf

theorem Applied.value?_eq (traits : Json) (id : String) :
    value? traits id = get? traits.fieldsD id := by
  cases traits with
  | obj fs => rfl
  | _ =>
    show none = (key? [] id).bind (Fields.get? [])
    cases key? [] id <;> rfl

theorem Applied.has_eq (traits : Json) (id : String) :
    has traits id = (get? traits.fieldsD id).isSome := by
  rw [has, value?_eq]

namespace Predicate

variable {id : String} {node node' : Json}

mutual

theorem holds_congr (htype : node.getD "type" = node'.getD "type") :
    (p : Predicate) → (∀ t ∈ p.traitIds,
      Applied.has (node.getD "traits") t = Applied.has (node'.getD "traits") t) →
    p.holds id node = p.holds id node'
  | .any, _ => rfl
  | .kind k, _ => by rw [holds, holds, Json.statesKind, htype, Json.statesKind]
  | .trait t, h => by rw [holds, holds, h t (by simp [traitIds])]
  | .attribute _ _ _, _ => rfl
  | .not compound, h => by
    rw [holds, holds, allHold_congr htype compound fun t ht => h t (by simpa [traitIds] using ht)]

theorem allHold_congr (htype : node.getD "type" = node'.getD "type") :
    (compound : List Predicate) → (∀ t ∈ traitIdsOf compound,
      Applied.has (node.getD "traits") t = Applied.has (node'.getD "traits") t) →
    allHold id node compound = allHold id node' compound
  | [], _ => rfl
  | p :: ps, h => by
    simp only [traitIdsOf, List.mem_append] at h
    rw [allHold, allHold, holds_congr htype p fun t ht => h t (.inl ht),
      allHold_congr htype ps fun t ht => h t (.inr ht)]

end

end Predicate

theorem Selector.mem_traitIds {s : Selector} {route : Route} {step : Compound} {t : String}
    (hroute : route ∈ s.alternatives) (hstep : step ∈ route) (ht : t ∈ Predicate.traitIdsOf step) :
    t ∈ s.traitIds := by
  rw [traitIds, List.mem_flatMap]
  exact ⟨route, hroute, List.mem_flatMap.2 ⟨step, hstep, ht⟩⟩

end ShapeGraph
