import ShapeGraph.Catalog.Binding
import ShapeGraph.Proofs.Model.Lookup
import ShapeGraph.Proofs.Respelling.FullNames
import ShapeGraph.Proofs.Selector.Traits

namespace ShapeGraph

open Json

variable {v : Json}

namespace Applied

theorem value?_fullTraits (h : SpelledOnce v.fieldsD) (t : String) :
    value? v.fullTraits t = (value? v t).or ((TraitId.nested? t).bind v.fieldsD.get?) := by
  cases v with
  | obj fs => exact get?_inFull h t
  | _ => cases TraitId.nested? t <;> rfl

end Applied

namespace Json

def SpellsTraitsOnce (v : Json) : Prop :=
  Applied.SpelledOnce v.traits
    ∧ ∀ e ∈ Model.memberNodes v, Applied.SpelledOnce e.2.traits

instance (v : Json) : Decidable v.SpellsTraitsOnce := inferInstanceAs (Decidable (_ ∧ _))

theorem value?_traits_inFull (h : v.SpellsTraitsOnce) (t : String) :
    Applied.value? (v.inFull.getD "traits") t
      = (Applied.value? (v.getD "traits") t).or ((TraitId.nested? t).bind v.traits.get?) := by
  rw [getD_traits_inFull, Applied.value?_fullTraits h.1]
  rfl

end Json

namespace Shape

def SpellsTraitsOnce (s : Shape) : Prop :=
  Applied.SpelledOnce s.traits ∧ ∀ e ∈ s.form.members, Applied.SpelledOnce e.2.traits

end Shape

theorem Json.SpellsTraitsOnce.ofNode? {id : String} {s : Shape} (h : v.SpellsTraitsOnce)
    (hs : Shape.ofNode? id v = some s) : s.SpellsTraitsOnce := by
  obtain ⟨-, -, htraits, hform⟩ := Shape.ofNode?_eq_some_iff.1 hs
  constructor
  · rw [← htraits]
    exact h.1
  · intro e he
    obtain ⟨item, hitem, hm⟩ := Form.exists_of_mem_members hform he
    obtain ⟨place, hplace⟩ := Model.mem_memberNodes_iff.2 ⟨hitem, Member.isObject_of_ofNode? hm⟩
    rw [(Member.ofNode?_eq_some_iff.1 hm).2]
    exact h.2 _ hplace

namespace Model

def inFull (m : Model) : Model := m.mapNodes fun _ => Json.inFull

def SpellsTraitsOnce (m : Model) : Prop := ∀ e ∈ m.nodes, e.2.SpellsTraitsOnce

instance (m : Model) : Decidable m.SpellsTraitsOnce :=
  inferInstanceAs (Decidable (∀ e ∈ m.nodes, e.2.SpellsTraitsOnce))

variable {m : Model}

theorem namedMembers_inFull (v : Json) :
    ((v.inFull.getD "members").fieldsD.map fun (name, m) => ("members." ++ name, m))
      = Fields.mapValues (fun _ => fullMember)
        ((v.getD "members").fieldsD.map fun (name, m) => ("members." ++ name, m)) := by
  rw [getD_members_inFull, fieldsD_mapEntries, Fields.mapValues, List.map_map, Fields.mapValues,
    List.map_map]
  rfl

theorem memberNodes_inFull (v : Json) :
    memberNodes v.inFull = (memberNodes v).mapValues fun _ => fullMember := by
  have hslots : (["member", "key", "value"].map fun name => (name, v.inFull.getD name))
      = Fields.mapValues (fun _ => fullMember)
        (["member", "key", "value"].map fun name => (name, v.getD name)) := by
    rw [Fields.mapValues, List.map_map]
    apply List.map_congr_left
    intro name hname
    rw [getD_slot_inFull hname]
    rfl
  rw [memberNodes, namedMembers_inFull, hslots, ← Fields.mapValues_append]
  apply Fields.filter_mapValues
  intro e _
  apply isObject_fullMember

theorem appliedProblems_fullTraits {place : String} (h : Applied.SpelledOnce v.fieldsD) :
    appliedProblems place v.fullTraits = appliedProblems place v := by
  rw [appliedProblems, fieldsD_fullTraits, Applied.inFull, List.flatMap_map]
  apply List.flatMap_congr
  rintro ⟨traitId, value⟩ hmem
  have hne : traitId ≠ "" := by
    rintro rfl
    exact h.named (Fields.mem_keys_iff.2 ⟨value, hmem⟩)
  simp only [TraitCheck.checkJson_resolve hne]

theorem memberProblems_inFull (id : String) (h : v.SpellsTraitsOnce) :
    ((memberNodes v.inFull).flatMap fun (place, member) =>
        appliedProblems (id ++ "." ++ place) (member.getD "traits"))
      = (memberNodes v).flatMap fun (place, member) =>
        appliedProblems (id ++ "." ++ place) (member.getD "traits") := by
  rw [memberNodes_inFull]
  apply Fields.flatMap_mapValues
  intro e he
  simp only [getD_traits_fullMember]
  exact appliedProblems_fullTraits (h.2 e he)

theorem keeps_inFull (h : m.SpellsTraitsOnce) : m.Keeps fun _ => Json.inFull where
  isObject _ := isObject_inFull
  check e _ scope := ShapeCheck.checkJson_inFull scope e.1 e.2
  traitProblems e he checks := by
    rw [traitProblems, getD_traits_inFull, appliedProblems_fullTraits (h e he).1,
      memberProblems_inFull e.1 (h e he)]
    rfl
  edges e _ := edges_inFull e.2

theorem keys_select_inFull (h : m.SpellsTraitsOnce) {s : Selector}
    (hs : ∀ t ∈ s.traitIds, ¬ TraitId.NamesPreludeTwice t) :
    (m.inFull.select s).keys = (m.select s).keys := by
  rw [inFull, (keeps_inFull h).select, Fields.keys_mapValues]
  intro route hroute step hstep e he
  apply Predicate.allHold_congr (getD_inFull_of_plain (by decide) e.2)
  intro t ht
  have hnested := TraitId.nested?_eq_none_iff.2 (hs t (Selector.mem_traitIds hroute hstep ht))
  rw [Applied.has, value?_traits_inFull (h e he), hnested, Option.bind_none, Option.or_none]
  rfl

theorem trait?_inFull (h : m.SpellsTraitsOnce) (id t : String) :
    m.inFull.trait? id t = (m.trait? id t).or
      ((TraitId.nested? t).bind fun n => (m.node? id).bind fun node => node.traits.get? n) := by
  rw [trait?, inFull, (keeps_inFull h).node?, trait?]
  cases hnode : m.node? id with
  | none => cases TraitId.nested? t <;> rfl
  | some node => exact value?_traits_inFull (h (id, node) (mem_nodes_of_node? hnode)) t

theorem shape?_inFull (m : Model) (id : String) :
    m.inFull.shape? id = (m.shape? id).map Shape.inFull := by
  rw [shape?, inFull, entries_mapNodes, Fields.get?_mapValues, shape?]
  cases m.entries.get? id with
  | none => rfl
  | some node => apply Shape.ofNode?_inFull

theorem SpellsTraitsOnce.shape? (h : m.SpellsTraitsOnce) {id : String} {s : Shape}
    (hs : m.shape? id = some s) : s.SpellsTraitsOnce := by
  obtain ⟨node, hnode, hof⟩ := shape?_eq_some_iff.1 hs
  exact (h (id, node) (mem_nodes_of_node? hnode)).ofNode? hof

theorem operation?_inFull (m : Model) (id : String) : m.inFull.operation? id = m.operation? id := by
  rw [operation?, shape?_inFull, operation?]
  cases m.shape? id with
  | none => rfl
  | some s =>
    obtain ⟨id, traits, form⟩ := s
    cases form <;> rfl

theorem struct?_inFull (m : Model) (id : String) :
    m.inFull.struct? id = (m.struct? id).map (Fields.mapValues fun _ => Member.inFull) := by
  rw [struct?, shape?_inFull, struct?]
  cases m.shape? id with
  | none => rfl
  | some s =>
    obtain ⟨id, traits, form⟩ := s
    cases form <;> rfl

theorem operationInput?_inFull (m : Model) (id : String) :
    m.inFull.operationInput? id = m.operationInput? id := by
  rw [operationInput?, operation?_inFull, operationInput?]
  simp only [struct?_inFull, Option.isSome_map]

theorem operationTrait?_inFull (h : m.SpellsTraitsOnce) (id : String) (t : PreludeTrait) :
    m.inFull.operationTrait? id t = m.operationTrait? id t := by
  rw [operationTrait?, shape?_inFull, operationTrait?]
  cases hs : m.shape? id with
  | none => rfl
  | some s =>
    have hget := Applied.get?_inFull_of_nested? (h.shape? hs).1 t.nested?_id
    obtain ⟨id, traits, form⟩ := s
    cases form with
    | operation o => exact hget
    | _ => rfl

section

variable {members : Fields Member} (h : ∀ e ∈ members, Applied.SpelledOnce e.2.traits)

include h

theorem texts_inFull (t : PreludeTrait) :
    ((members.mapValues fun _ => Member.inFull).filterMap
        fun (name, m) => (HttpBinding.text? m t).map (name, ·))
      = members.filterMap fun (name, m) => (HttpBinding.text? m t).map (name, ·) := by
  apply Fields.filterMap_mapValues
  intro e he
  simp only [HttpBinding.text?, Member.inFull,
    Applied.get?_inFull_of_nested? (h e he) t.nested?_id]

theorem carriers_inFull (t : PreludeTrait) :
    Fields.keys ((members.mapValues fun _ => Member.inFull).filter
        fun (_, m) => HttpBinding.carries t m)
      = Fields.keys (members.filter fun (_, m) => HttpBinding.carries t m) := by
  rw [Fields.filter_mapValues, Fields.keys_mapValues]
  intro e he
  simp only [HttpBinding.carries, Member.inFull,
    Applied.get?_inFull_of_nested? (h e he) t.nested?_id]

theorem ofMembers_inFull (http : HttpTrait) :
    HttpBinding.ofMembers http (members.mapValues fun _ => Member.inFull)
      = HttpBinding.ofMembers http members := by
  rw [HttpBinding.ofMembers, texts_inFull h, texts_inFull h, carriers_inFull h, carriers_inFull h]
  rfl

end

theorem SpellsTraitsOnce.struct? (h : m.SpellsTraitsOnce) {id : String} {members : Fields Member}
    (hs : m.struct? id = some members) : ∀ e ∈ members, Applied.SpelledOnce e.2.traits := by
  rw [Model.struct?] at hs
  cases hshape : m.shape? id with
  | none => simp [hshape] at hs
  | some s =>
    have honce := (h.shape? hshape).2
    obtain ⟨id, traits, form⟩ := s
    cases form with
    | struct ms mixins =>
      obtain rfl : ms = members := by simpa [hshape] using hs
      exact honce
    | _ => simp [hshape] at hs

theorem httpBinding?_inFull (h : m.SpellsTraitsOnce) (id : String) :
    m.inFull.httpBinding? id = m.httpBinding? id := by
  rw [httpBinding?, operationTrait?_inFull h, operationInput?_inFull, httpBinding?]
  apply congrArg (Option.map · _)
  funext http
  cases m.operationInput? id with
  | none => rfl
  | some input =>
    simp only [Option.bind_some, struct?_inFull]
    cases hs : m.struct? input with
    | none => rfl
    | some members => exact ofMembers_inFull (h.struct? hs) http

theorem pagination?_inFull (h : m.SpellsTraitsOnce) (id : String) :
    m.inFull.pagination? id = m.pagination? id := by
  rw [pagination?, operationTrait?_inFull h]
  rfl

theorem required_inFull (h : m.SpellsTraitsOnce) (id : String) :
    (m.inFull.shape? id).map (fun s => s.form.required)
      = (m.shape? id).map fun s => s.form.required := by
  rw [shape?_inFull, Option.map_map]
  apply Option.map_congr
  intro s hs
  have honce := (h.shape? hs).2
  rw [Function.comp_apply, Form.required, Shape.inFull, Form.members_mapMembers]
  simp only [Fields.mapValues, List.map_map, Form.required]
  apply List.map_congr_left
  intro e he
  rw [Function.comp_apply, Member.isRequired_inFull (honce e he)]

/-- Whichever name the traits of the prelude are applied under, the short or the full one, the same
is found by every validation, selector and look-up, the bindings of operations are the same, and so
are the members that are required. An id that names the prelude twice is another matter: it finds a
trait under its full name that it does not find under its short one. -/
theorem traits_in_either_spelling (h : m.SpellsTraitsOnce) :
    (∀ checks, m.inFull.validate checks = m.validate checks)
    ∧ (∀ s : Selector, (∀ t ∈ s.traitIds, ¬ TraitId.NamesPreludeTwice t) →
      (m.inFull.select s).keys = (m.select s).keys)
    ∧ (∀ t, ¬ TraitId.NamesPreludeTwice t → m.inFull.idsWithTrait t = m.idsWithTrait t)
    ∧ (∀ id, m.inFull.httpBinding? id = m.httpBinding? id
      ∧ m.inFull.pagination? id = m.pagination? id)
    ∧ (∀ id, (m.inFull.shape? id).map (fun s => s.form.required)
      = (m.shape? id).map fun s => s.form.required)
    ∧ ∀ id n, Spelling.isRelative n →
      (m.inFull.hasTrait id (Spelling.qualify TraitId.prelude (Spelling.qualify TraitId.prelude n))
        ↔ m.hasTrait id (Spelling.qualify TraitId.prelude (Spelling.qualify TraitId.prelude n))
          ∨ ∃ node, m.node? id = some node ∧ node.traits.has n) := by
  refine ⟨(keeps_inFull h).validate, fun s => keys_select_inFull h, ?_,
    fun id => ⟨httpBinding?_inFull h id, pagination?_inFull h id⟩, required_inFull h, ?_⟩
  · intro t ht
    rw [idsWithTrait, inFull, ids_mapNodes]
    apply List.filter_congr
    intro id _
    rw [← inFull, hasTrait, trait?_inFull h, TraitId.nested?_eq_none_iff.2 ht, Option.bind_none,
      Option.or_none]
    rfl
  · intro id n hn
    rw [hasTrait, trait?_inFull h, TraitId.nested?_eq_some_iff.2 ⟨hn, rfl⟩, Option.bind_some,
      Option.isSome_or, Bool.or_eq_true]
    apply or_congr_right
    cases m.node? id with
    | none => simp
    | some node => simp [Fields.has]

def courier : Model :=
  ⟨.str "2.0", none, some (.obj
    [("Send", .obj [("type", .str "operation"), ("input", .str "Parcel"),
      ("traits", .obj [("http", .obj [("method", .str "POST"), ("uri", .str "/\x7bid\x7d")])])]),
     ("Parcel", .obj [("type", .str "structure"), ("members", .obj
      [("id", .obj [("target", .str "Text"),
        ("traits", .obj [("httpLabel", .obj []), ("smithy.api#required", .obj [])])]),
       ("note", .obj [("target", .str "Text")])])]),
     ("Text", .obj [("type", .str "string"), ("traits", .obj [("stamped", .bool true)])])])⟩

theorem courier_in_either_spelling : courier.SpellsTraitsOnce
    ∧ ¬ TraitId.NamesPreludeTwice "http"
    ∧ courier.inFull.idsWithTrait "http" = ["Send"]
    ∧ courier.inFull.httpBinding? "Send" = courier.httpBinding? "Send"
    ∧ (courier.inFull.shape? "Parcel").map (fun s => s.form.required)
      = some [("id", true), ("note", false)] := by
  have h : courier.SpellsTraitsOnce := by decide
  have ht : ¬ TraitId.NamesPreludeTwice "http" := by
    rw [← TraitId.nested?_eq_none_iff]
    decide
  obtain ⟨-, -, hids, hbinding, hrequired, -⟩ := traits_in_either_spelling h
  refine ⟨h, ht, ?_, (hbinding "Send").1, ?_⟩
  · rw [hids "http" ht]
    decide
  · rw [hrequired "Parcel"]
    decide

def badge : Model :=
  ⟨.str "2.0", none, some (.obj
    [("A", .obj [("type", .str "string"), ("traits", .obj [("required", .obj [])])])])⟩

theorem badge_by_nested_id : badge.SpellsTraitsOnce
    ∧ badge.idsWithTrait "smithy.api#smithy.api#required" = []
    ∧ badge.inFull.idsWithTrait "smithy.api#smithy.api#required" = ["A"] := by
  decide

end Model

end ShapeGraph
