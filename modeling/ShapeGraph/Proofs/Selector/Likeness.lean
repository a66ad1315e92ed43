import Mathlib.Data.List.Forall2
import ShapeGraph.Selector.Matching

namespace ShapeGraph

structure Likeness (R : String × Json → String × Json → Prop) : Prop where
  id {e e' : String × Json} : R e e' → e.1 = e'.1
  edges {e e' : String × Json} : R e e' → e.2.edges = e'.2.edges

namespace Likeness

variable {R : String × Json → String × Json → Prop} (h : Likeness R)
variable {nodes nodes' current current' : Fields Json}

theorem filter {p p' : String × Json → Bool} (hnodes : List.Forall₂ R nodes nodes')
    (hp : ∀ e e', R e e' → p e = p' e') : List.Forall₂ R (nodes.filter p) (nodes'.filter p') :=
  List.rel_filter (fun e e' he => Bool.eq_iff_iff.1 (hp e e' he)) hnodes

include h

theorem keys (hnodes : List.Forall₂ R nodes nodes') : Fields.keys nodes = Fields.keys nodes' := by
  induction hnodes with
  | nil => rfl
  | cons he _ ih => exact congrArg₂ List.cons (h.id he) ih

theorem targets (hcurrent : List.Forall₂ R current current') :
    (current.flatMap fun (_, node) => node.edges.map Edge.target)
      = current'.flatMap fun (_, node) => node.edges.map Edge.target := by
  induction hcurrent with
  | nil => rfl
  | cons he _ ih =>
    rw [List.flatMap_cons, List.flatMap_cons, ih]
    exact congrArg (List.map Edge.target · ++ _) (h.edges he)

theorem neighbours (hnodes : List.Forall₂ R nodes nodes')
    (hcurrent : List.Forall₂ R current current') :
    List.Forall₂ R (Selector.neighbours nodes current) (Selector.neighbours nodes' current') := by
  simp only [Selector.neighbours, h.targets hcurrent]
  apply filter hnodes
  intro e e' he
  rw [h.id he]

theorem follow {steps : List Compound} (hnodes : List.Forall₂ R nodes nodes')
    (hcurrent : List.Forall₂ R current current') (hmeets : ∀ step ∈ steps, ∀ e e', R e e' →
      Selector.meets step e.1 e.2 = Selector.meets step e'.1 e'.2) :
    List.Forall₂ R (Selector.follow nodes current steps)
      (Selector.follow nodes' current' steps) := by
  induction steps generalizing current current' with
  | nil => exact hcurrent
  | cons step steps ih =>
    obtain ⟨hstep, hsteps⟩ := List.forall_mem_cons.1 hmeets
    exact ih (filter (h.neighbours hnodes hcurrent) hstep) hsteps

theorem evaluateRoute {route : Route} (hnodes : List.Forall₂ R nodes nodes')
    (hmeets : ∀ step ∈ route, ∀ e e', R e e' →
      Selector.meets step e.1 e.2 = Selector.meets step e'.1 e'.2) :
    List.Forall₂ R (Selector.evaluateRoute nodes route) (Selector.evaluateRoute nodes' route) := by
  cases route with
  | nil => exact .nil
  | cons step steps =>
    obtain ⟨hstep, hsteps⟩ := List.forall_mem_cons.1 hmeets
    exact h.follow hnodes (filter hnodes hstep) hsteps

theorem select {m m' : Model} {s : Selector} (hnodes : List.Forall₂ R m.nodes m'.nodes)
    (hmeets : ∀ route ∈ s.alternatives, ∀ step ∈ route, ∀ e e', R e e' →
      Selector.meets step e.1 e.2 = Selector.meets step e'.1 e'.2) :
    List.Forall₂ R (m.select s) (m'.select s) := by
  have hmatched : (s.alternatives.flatMap fun route =>
        (Selector.evaluateRoute m.nodes route).keys)
      = s.alternatives.flatMap fun route => (Selector.evaluateRoute m'.nodes route).keys := by
    apply List.flatMap_congr
    intro route hroute
    exact h.keys (h.evaluateRoute hnodes (hmeets route hroute))
  simp only [Model.select, hmatched]
  apply filter hnodes
  intro e e' he
  rw [h.id he]

end Likeness

end ShapeGraph
