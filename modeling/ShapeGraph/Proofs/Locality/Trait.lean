import ShapeGraph.Model.Workspace
import ShapeGraph.Proofs.Locality.Change
import ShapeGraph.Proofs.Respelling.Entries
import ShapeGraph.Proofs.Selector.Traits
import ShapeGraph.Proofs.Trait.Spelling

namespace ShapeGraph

theorem Kind.ne_traits_of_reference {k : Kind} {name : String}
    (h : name ∈ k.referenceFields ∨ name ∈ k.referenceLists ∨ name ∈ k.referenceMaps) :
    name ≠ "traits" := by
  rintro rfl
  exact Kind.not_mem_plain_of_reference h (by decide)

def Json.withTraits (v : Json) (traits : Fields Json) : Json :=
  .obj (v.fieldsD.set "traits" (.obj traits))

structure Json.SameButTraits (v v' : Json) : Prop where
  isObject : v'.isObject = v.isObject
  get? : ∀ name ≠ "traits", v'.get? name = v.get? name

namespace Json.SameButTraits

variable {v v' : Json} {name : String}

theorem refl (v : Json) : SameButTraits v v := ⟨rfl, fun _ _ => rfl⟩

theorem withTraits (hobj : v.isObject) (traits : Fields Json) :
    v.SameButTraits (v.withTraits traits) where
  isObject := by
    rw [hobj]
    rfl
  get? name hname := by
    obtain ⟨fs, rfl⟩ := Json.isObject_iff.1 hobj
    exact Fields.get?_set_of_ne hname.symm fs (.obj traits)

variable (h : SameButTraits v v')

include h

theorem getD (hname : name ≠ "traits") : v'.getD name = v.getD name := by
  rw [Json.getD, h.get? name hname]
  rfl

theorem kind? : v'.kind? = v.kind? := by
  rw [Json.kind?_eq, h.getD (by decide), Json.kind?_eq]

theorem readsAs (k : Kind) : ReadsAs k id v v' where
  slot name hname := by
    have hne : name ≠ "traits" := by
      rintro rfl
      exact absurd (Kind.mem_slots_of_memberField hname) (by decide)
    rw [h.getD hne, Option.map_id_fun, id]
  members := by rw [h.getD (by decide), Fields.mapValues_id]
  version := h.getD (by decide)
  rename := h.getD (by decide)
  field name hname := by rw [h.getD (Kind.ne_traits_of_reference (.inl hname))]
  list name hname := by rw [h.getD (Kind.ne_traits_of_reference (.inr (.inl hname)))]
  map name hname := by rw [h.getD (Kind.ne_traits_of_reference (.inr (.inr hname)))]

theorem edges : v'.edges = v.edges := by
  have hof (k : Kind) : Edge.ofKind v' k = Edge.ofKind v k := (h.readsAs k).ofKind fun _ => rfl
  simp only [Json.edges_eq, h.kind?, hof]

end Json.SameButTraits

theorem Json.getD_traits_withTraits (v : Json) (traits : Fields Json) :
    (v.withTraits traits).getD "traits" = .obj traits := by
  rw [getD, withTraits, get?_obj, Fields.get?_set_self, Option.getD_some]

theorem Json.traits_eq_nil {v : Json} (h : ¬ (v.getD "traits").isObject) : v.traits = [] := by
  rw [traits]
  cases htraits : v.getD "traits" with
  | obj fs =>
    rw [htraits] at h
    exact absurd rfl h
  | _ => rfl

namespace ShapeCheck

open Layered

variable {scope : Scope} {id name : String} {v v' : Json} (h : v.SameButTraits v')

include h

theorem given?_of_sameButTraits (hname : name ≠ "traits") : given? v' name = given? v name := by
  rw [given?_json, h.getD hname, given?_json]

theorem onEntry_of_sameButTraits (hname : name ≠ "traits") (check : Json → Problems) :
    onEntry v' name check = onEntry v name check := by
  rw [onEntry, get?_json, h.get? name hname, onEntry, get?_json]

theorem checkKind_of_sameButTraits (k : Kind) :
    checkKind scope id v' k = checkKind scope id v k := by
  apply checkKind_congr
  case hslot =>
    intro slot
    have hne : slot.field ≠ "traits" := by
      cases slot <;> decide
    rw [checkSlot, given?_of_sameButTraits h hne]
    rfl
  case hmembers => exact fun _ => onEntry_of_sameButTraits h (by decide) _
  case hmixins => exact fun _ => onEntry_of_sameButTraits h (by decide) _
  case hversion =>
    rw [checkVersion, given?_of_sameButTraits h (by decide)]
    rfl
  case hrename => exact onEntry_of_sameButTraits h (by decide) _
  case hfield =>
    intro name hname
    exact onEntry_of_sameButTraits h (Kind.ne_traits_of_reference (.inl hname)) _
  case hlist =>
    intro name hname
    exact onEntry_of_sameButTraits h (Kind.ne_traits_of_reference (.inr (.inl hname))) _
  case hmap =>
    intro name hname
    exact onEntry_of_sameButTraits h (Kind.ne_traits_of_reference (.inr (.inr hname))) _

theorem checkJson_of_sameButTraits (scope : Scope) (id : String) :
    checkJson scope id v' = checkJson scope id v := by
  apply checkJson_congr_kind h.isObject (h.getD (by decide))
  intro k _
  exact checkKind_of_sameButTraits h k

end ShapeCheck

namespace Applied

variable {fs : Fields Json} {t q : String}

theorem get?_set_self (fs : Fields Json) (t : String) (value : Json) :
    get? (fs.set t value) t = some value := by
  rw [get?_eq_or, Fields.get?_set_self, Option.some_or]

theorem get?_set_of_resolve (hq : q ∉ fs.keys) (h : TraitId.resolve q = TraitId.resolve t)
    (value : Json) : get? (fs.set t value) q = some value := by
  by_cases hne : t = q
  · rw [← hne, get?_set_self]
  have hnone : (fs.set t value).get? q = none := by
    rw [Fields.get?_set_of_ne hne, Fields.get?_eq_none_iff]
    exact hq
  have habsolute := TraitId.isAbsolute_resolve t
  rw [get?_eq_or, hnone, Option.none_or, h]
  rcases (TraitId.resolve_eq_iff habsolute).1 rfl with hfull | hshort
  · rw [← hfull, Fields.get?_set_self, Option.some_or]
  · -- the trait has the short name, so the id asked for is the full one
    have hfull : q = TraitId.resolve t := by
      rcases (TraitId.resolve_eq_iff habsolute).1 h with hfull | hshort'
      · exact hfull
      · exact absurd (Option.some.inj (hshort.symm.trans hshort')) hne
    obtain ⟨-, hqualify⟩ := TraitId.short?_eq_some_iff.1 hshort
    rw [← hfull, hnone, Option.none_or, hfull, TraitId.shortName?_eq_some_iff.2 hqualify,
      Option.bind_some, Fields.get?_set_self]

end Applied

namespace Model

inductive AppliesWith : Json → Json → Prop
  | null : AppliesWith .null (.obj [])
  | given {v : Json} (h : v ≠ .null) : AppliesWith v v

variable {m : Model} {id t : String} {v value node node' : Json}

theorem exists_applyTrait_eq (t : String) (v node : Json) : ∃ value,
    AppliesWith v value ∧ applyTrait t v node = node.withTraits (node.traits.set t value) := by
  cases v with
  | null => exact ⟨_, .null, rfl⟩
  | _ => exact ⟨_, .given Json.noConfusion, rfl⟩

def AlikeButTraits (e e' : String × Json) : Prop := e.1 = e'.1 ∧ e.2.SameButTraits e'.2

theorem likeness_alikeButTraits : Likeness AlikeButTraits where
  id h := h.1
  edges h := h.2.edges.symm

structure ChangesTraits (m m' : Model) (id : String) (node node' : Json) : Prop where
  version : m'.version = m.version
  metadata : m'.metadata = m.metadata
  get? : m.entries.get? id = some node
  sameButTraits : node.SameButTraits node'
  entries : m'.entries = m.entries.set id node'

namespace ChangesTraits

variable {m' : Model} (h : m.ChangesTraits m' id node node')

include h

theorem get?_self : m'.entries.get? id = some node' := by
  rw [h.entries, Fields.get?_set_self]

theorem get?_of_ne {other : String} (hne : other ≠ id) :
    m'.entries.get? other = m.entries.get? other := by
  rw [h.entries, Fields.get?_set_of_ne hne.symm]

theorem node?_self (hobj : node.isObject) : m'.node? id = some node' := by
  rw [node?, h.get?_self, Option.filter_some, h.sameButTraits.isObject, if_pos hobj]

theorem ids : m'.ids = m.ids := by
  have hmem : id ∈ m.ids := Fields.mem_keys_iff.2 ⟨node, Fields.mem_of_get? h.get?⟩
  rw [Model.ids, h.entries]
  exact ids_set_of_mem hmem node'

theorem map_get? {α : Type} {f : Json → α} (hf : f node' = f node) (other : String) :
    (m'.entries.get? other).map f = (m.entries.get? other).map f := by
  by_cases hother : other = id
  · rw [hother, h.get?_self, h.get?, Option.map_some, Option.map_some, hf]
  · rw [h.get?_of_ne hother]

theorem keys_select {s : Selector} (hs : s.traitIds = []) :
    (m'.select s).keys = (m.select s).keys := by
  have hentries : List.Forall₂ AlikeButTraits m.entries m'.entries := by
    rw [h.entries]
    exact Fields.forall₂_set (fun _ => ⟨rfl, .refl _⟩) h.get? ⟨rfl, h.sameButTraits⟩
  have hnodes : List.Forall₂ AlikeButTraits m.nodes m'.nodes :=
    Likeness.filter hentries fun e e' he => he.2.isObject.symm
  refine (likeness_alikeButTraits.keys (likeness_alikeButTraits.select hnodes ?_)).symm
  rintro route hroute step hstep ⟨key, v⟩ ⟨_, v'⟩ ⟨rfl, hv⟩
  apply Predicate.allHold_congr (hv.getD (by decide)).symm
  intro trait htrait
  have hmem := Selector.mem_traitIds hroute hstep htrait
  rw [hs] at hmem
  cases hmem

end ChangesTraits

/-- What comes of a trait applied to a node of the model: the trait is found, in either spelling, it
has its place among the traits of the node, and all else is as before. -/
structure AppliesTrait (m m' : Model) (id t : String) (node value : Json) : Prop where
  found : m'.trait? id t = some value
  spelled : ∀ q ∉ node.traits.keys, TraitId.resolve q = TraitId.resolve t →
    m'.trait? id q = some value
  traits : m'.traits? id = some (node.traits.set t value)
  version : m'.version = m.version
  metadata : m'.metadata = m.metadata
  ids : m'.ids = m.ids
  others : ∀ other ≠ id, m'.entries.get? other = m.entries.get? other
  edges : ∀ other,
    (m'.entries.get? other).map Json.edges = (m.entries.get? other).map Json.edges
  checks : ∀ scope other, (m'.entries.get? other).map (ShapeCheck.checkJson scope other)
    = (m.entries.get? other).map (ShapeCheck.checkJson scope other)
  selection : ∀ s : Selector, s.traitIds = [] → (m'.select s).keys = (m.select s).keys

theorem ChangesTraits.appliesTrait {m' : Model} (hobj : node.isObject)
    (h : m.ChangesTraits m' id node (node.withTraits (node.traits.set t value))) :
    m.AppliesTrait m' id t node value := by
  have hnode := h.node?_self hobj
  have htraits := Json.getD_traits_withTraits node (node.traits.set t value)
  have hfound (q : String) : m'.trait? id q = Applied.get? (node.traits.set t value) q := by
    rw [trait?, hnode, Option.bind_some, htraits]
    rfl
  exact {
    found := by rw [hfound, Applied.get?_set_self]
    spelled := by
      intro q hq hresolve
      rw [hfound, Applied.get?_set_of_resolve hq hresolve]
    traits := by
      rw [traits?, hnode, Option.map_some, Json.traits, htraits]
      rfl
    version := h.version
    metadata := h.metadata
    ids := h.ids
    others := fun _ => h.get?_of_ne
    edges := h.map_get? h.sameButTraits.edges
    checks := fun scope other =>
      h.map_get? (ShapeCheck.checkJson_of_sameButTraits h.sameButTraits scope other) other
    selection := fun _ => h.keys_select }

end Model

namespace Workspace

variable {w : Workspace} {id : String}

def Unshared (w : Workspace) : Prop := ∀ id, ∀ other ∈ w.namesOf id, other = id

theorem unshared_ofModel (m : Model) : (ofModel m).Unshared := fun _ _ => List.mem_singleton.1

theorem mem_namesOf (w : Workspace) (id : String) : id ∈ w.namesOf id := by
  rw [namesOf]
  cases hgroup : w.groups.find? (·.contains id) with
  | none => exact List.mem_singleton_self id
  | some group =>
    have hid : group.contains id := by simpa using List.find?_some hgroup
    exact List.contains_iff_mem.1 hid

theorem contains_namesOf (hw : w.Unshared) (id other : String) :
    (w.namesOf id).contains other ↔ other = id := by
  rw [List.contains_iff_mem]
  constructor
  · exact hw id other
  · rintro rfl
    exact w.mem_namesOf other

theorem addTrait_eq (hd : w.model.entries.Distinct) (hw : w.Unshared) (id t : String) (v : Json) :
    w.addTrait id t v = (w.model.addTrait id t v).map fun m => { w with model := m } := by
  rw [addTrait, Model.addTrait]
  cases hnode : w.model.node? id with
  | none => rfl
  | some node =>
    simp only [contains_namesOf hw]
    rw [hd.map_at_eq_set (Option.filter_eq_some_iff.1 hnode).1]
    rfl

end Workspace

namespace Model

/-- A trait is not applied where there is no node. Applied to a node it is found there under its id,
and as far as that was no name of another trait, also in the other spelling; it has its place among
the traits of the node, which are all new if they were no object; and all else stays. No reference,
no check of a shape and no selector that asks for no trait can tell the models apart. -/
theorem trait_is_applied_alone (m : Model) (id t : String) (v : Json) :
    (∀ w : Workspace, w.model = m → m.entries.Distinct → w.Unshared →
      w.addTrait id t v = (m.addTrait id t v).map fun m' => { w with model := m' })
    ∧ (m.node? id = none → m.addTrait id t v = .error (.shapeNotFound id))
    ∧ ∀ node, m.node? id = some node → ∃ m' value, m.addTrait id t v = .ok m'
      ∧ AppliesWith v value ∧ m.AppliesTrait m' id t node value
      ∧ (¬ (node.getD "traits").isObject → m'.traits? id = some [(t, value)]) := by
  refine ⟨?_, ?_, ?_⟩
  · rintro w rfl hd hw
    exact Workspace.addTrait_eq hd hw id t v
  · intro hnone
    rw [addTrait, hnone]
  · intro node hnode
    obtain ⟨hget, hobj⟩ := Option.filter_eq_some_iff.1 hnode
    obtain ⟨value, hvalue, happly⟩ := exists_applyTrait_eq t v node
    have hchanges : m.ChangesTraits (m.withEntries (m.entries.set id (applyTrait t v node))) id node
        (node.withTraits (node.traits.set t value)) :=
      ⟨rfl, rfl, hget, .withTraits hobj _, by rw [happly, entries_withEntries]⟩
    have happlies := hchanges.appliesTrait hobj
    refine ⟨_, value, by rw [addTrait, hnode], hvalue, happlies, ?_⟩
    intro hnot
    rw [happlies.traits, Json.traits_eq_nil hnot]
    rfl

def referencedByStructures : Selector := ⟨"structure > *", [[[.kind .struct], [.any]]]⟩

theorem trait_is_applied_to_tree : orchard.entries.Distinct
    ∧ (Workspace.ofModel orchard).Unshared
    ∧ orchard.node? "Leaf" = none
    ∧ orchard.addTrait "Leaf" "documentation" .null = .error (.shapeNotFound "Leaf")
    ∧ ∃ m', (Workspace.ofModel orchard).addTrait "Tree" "documentation" .null
        = .ok (Workspace.ofModel m')
      ∧ m'.trait? "Tree" "smithy.api#documentation" = some (.obj [])
      ∧ m'.traits? "Tree" = some [("documentation", .obj [])]
      ∧ (m'.select referencedByStructures).keys = ["Tree", "Fruit"] := by
  have hd : orchard.entries.Distinct := by
    unfold Fields.Distinct
    decide
  have hw := Workspace.unshared_ofModel orchard
  have hnone : orchard.node? "Leaf" = none := rfl
  obtain ⟨hshared, -, h⟩ := trait_is_applied_alone orchard "Tree" "documentation" .null
  obtain ⟨m', value, hm', hvalue, happlies, htraits⟩ := h _ rfl
  obtain rfl : value = .obj [] := by
    cases hvalue with
    | null => rfl
    | given h => exact absurd rfl h
  refine ⟨hd, hw, hnone, (trait_is_applied_alone _ _ _ _).2.1 hnone, m', ?_,
    happlies.spelled _ (by decide) (by decide), htraits (by decide), ?_⟩
  · rw [hshared _ rfl hd hw, hm']
    rfl
  · rw [happlies.selection referencedByStructures rfl]
    decide

end Model

end ShapeGraph
