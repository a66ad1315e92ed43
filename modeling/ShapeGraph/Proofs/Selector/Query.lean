import ShapeGraph.Proofs.Selector.Composition
import ShapeGraph.Selector.Query

namespace ShapeGraph

theorem Comparison.holdsOf_equal (actual : Option String) (expected : String) :
    Comparison.equal.holdsOf actual expected = decide (actual = some expected) := by
  cases actual with
  | none => simp [holdsOf]
  | some actual => simp [holdsOf, holds]

namespace Query

inductive Filter
  | kind (k : Kind)
  | trait (id : String)
  | inNamespace (ns : String)
  deriving DecidableEq

def narrow (q : Query) : Filter → Query
  | .kind k => q.kind (some k)
  | .trait id => q.trait id
  | .inNamespace ns => q.inNamespace ns

def through (q : Query) (filters : List Filter) : Query := filters.foldl narrow q

def Filter.predicate : Filter → Predicate
  | .kind k => .kind k
  | .trait id => .trait id
  | .inNamespace ns => .attribute .ns .equal ns

theorem found_narrow (q : Query) (filter : Filter) :
    (q.narrow filter).found = q.found.filter fun e => filter.predicate.holds e.1 e.2 := by
  cases filter with
  | kind k => rfl
  | trait id => rfl
  | inNamespace ns =>
    simp only [narrow, inNamespace, keep, Filter.predicate, Predicate.holds,
      Comparison.holdsOf_equal]
    rfl

theorem found_through (q : Query) (filters : List Filter) :
    (q.through filters).found
      = q.found.filter fun e => Predicate.allHold e.1 e.2 (filters.map Filter.predicate) := by
  induction filters generalizing q with
  | nil => exact (List.filter_eq_self.2 fun _ _ => rfl).symm
  | cons filter filters ih =>
    calc
      (q.through (filter :: filters)).found
        = (q.found.filter fun e => filter.predicate.holds e.1 e.2).filter
            fun e => Predicate.allHold e.1 e.2 (filters.map Filter.predicate) := by
          rw [← found_narrow]
          exact ih (q.narrow filter)
      _ = q.found.filter
            fun e => Predicate.allHold e.1 e.2 ((filter :: filters).map Filter.predicate) := by
          simp only [List.filter_filter, List.map_cons, Predicate.allHold, Bool.and_comm]

end Query

namespace Model

variable {m : Model}

theorem hasTrait_of_mem (hd : m.entries.Distinct) {id : String} {node : Json}
    (hmem : (id, node) ∈ m.entries) (traitId : String) :
    m.hasTrait id traitId = (Applied.has (node.getD "traits") traitId && node.isObject) := by
  rw [hasTrait, trait?, node?, hd.get?_of_mem hmem]
  cases hobject : node.isObject with
  | false =>
    rw [Option.filter_some_neg hobject, Bool.and_false]
    rfl
  | true =>
    rw [Option.filter_some_pos hobject, Bool.and_true]
    rfl

theorem idsWithTrait_eq_keys (hd : m.entries.Distinct) (traitId : String) :
    m.idsWithTrait traitId = (m.selectTrait traitId).keys := by
  calc
    m.idsWithTrait traitId
      = (m.entries.filter fun e => m.hasTrait e.1 traitId).map Prod.fst := List.filter_map
    _ = (m.entries.filter
          fun e => Applied.has (e.2.getD "traits") traitId && e.2.isObject).map Prod.fst := by
        rw [List.filter_congr fun e he => hasTrait_of_mem hd he traitId]
    _ = (m.selectTrait traitId).keys := by
        rw [← List.filter_filter]
        rfl

end Model

namespace Query

/-- Where each id has one entry, as in every object, filters one after another find what a selector
selects whose one compound asks for them all: a part of the shapes, in the order of the model, and
the same however the filters are ordered and repeated. The ids of the shapes with a trait are those
that its filter finds. -/
theorem filters_agree_with_selectors {m : Model} (hd : m.entries.Distinct) :
    (∀ filters text, ((ofModel m).through filters).found
        = m.select ⟨text, [[filters.map Filter.predicate]]⟩)
    ∧ (∀ filters, ((ofModel m).through filters).found.Sublist m.nodes)
    ∧ (∀ filters filters' : List Filter, (∀ filter, filter ∈ filters ↔ filter ∈ filters') →
        (ofModel m).through filters = (ofModel m).through filters')
    ∧ ∀ traitId, m.idsWithTrait traitId = (m.selectTrait traitId).keys := by
  refine ⟨?_, ?_, ?_, fun traitId => m.idsWithTrait_eq_keys hd traitId⟩
  · intro filters text
    rw [found_through, Model.select_single hd rfl]
    rfl
  · intro filters
    rw [found_through]
    exact List.filter_sublist
  · intro filters filters' hsame
    have hhold : ∀ e : String × Json,
        Predicate.allHold e.1 e.2 (filters.map Filter.predicate)
          = Predicate.allHold e.1 e.2 (filters'.map Filter.predicate) := by
      intro e
      rw [Bool.eq_iff_iff, Predicate.allHold_iff, Predicate.allHold_iff]
      simp only [List.forall_mem_map, hsame]
    have hfound : ((ofModel m).through filters).found = ((ofModel m).through filters').found := by
      simp only [found_through, hhold]
    exact congrArg Query.mk hfound

def stock : Model where
  version := .str "2.0"
  metadata := none
  shapes := some (.obj
    [("a#Bins", .obj [("type", .str "list"), ("traits", .obj [("smithy.api#required", .obj [])])]),
     ("Bins", .obj [("type", .str "list"), ("traits", .obj [("required", .obj [])])]),
     ("a#Lots", .obj [("type", .str "set"), ("traits", .obj [("required", .obj [])])]),
     ("a#Size", .str "list")])

def lists : List Filter := [.kind .list, .trait "required"]

def listsInPlace : List Filter := [.inNamespace "a", .kind .list, .trait "required"]

theorem filters_agree_with_selectors_in_stock : stock.entries.Distinct
    ∧ (stock.select ⟨"required lists", [[lists.map Filter.predicate]]⟩).keys = ["a#Bins", "Bins"]
    ∧ ((ofModel stock).through (listsInPlace.reverse ++ lists)).ids = ["a#Bins"]
    ∧ (stock.selectTrait "required").keys = ["a#Bins", "Bins", "a#Lots"] := by
  have hd : stock.entries.Distinct := by
    unfold Fields.Distinct
    decide
  obtain ⟨hselect, -, hsame, hids⟩ := filters_agree_with_selectors hd
  refine ⟨hd, ?_, ?_, ?_⟩
  · rw [← hselect]
    decide
  · have hmem : ∀ filter, filter ∈ listsInPlace.reverse ++ lists ↔ filter ∈ listsInPlace := by
      grind [listsInPlace, lists]
    rw [hsame _ _ hmem]
    decide
  · rw [← hids]
    decide

end Query

end ShapeGraph
