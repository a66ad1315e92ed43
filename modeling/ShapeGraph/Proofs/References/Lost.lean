import Mathlib.Data.List.Perm.Basic
import ShapeGraph.Proofs.Locality.Scope
import ShapeGraph.Proofs.References.Field
import ShapeGraph.Proofs.View.Node
import ShapeGraph.Value.Graph

namespace ShapeGraph

open Layered

variable {α β : Type} [Layered α]

def Address.isMember : Address → Bool
  | .field name => ["member", "key", "value"].contains name
  | .entry name _ => name = "members"
  | .item _ _ => false

namespace Layered

def namedTarget? (v : α) : Option String := (memberTarget? v).filter (· ≠ "")

/-- The targets that stand in the maps of a node under keys that are no texts. A check looks at
these entries, edges leave them out. -/
def unnamedTargets (v : α) : List String :=
  match kind? v with
  | none => []
  | some k =>
    (if k.hasMembers then (unnamedOf v "members").filterMap namedTarget? else [])
      ++ k.referenceMaps.flatMap fun name => (unnamedOf v name).filterMap target?

theorem unnamedTargets_json (v : Json) : unnamedTargets v = [] := by
  rw [unnamedTargets]
  cases kind? v <;> simp [unnamedOf_json]

theorem values_perm (v : α) :
    ((entries v).map Prod.snd).Perm ((named v).map Prod.snd ++ unnamed v) := by
  rw [named, unnamed]
  induction entries v with
  | nil => exact .nil
  | cons e es ih =>
    obtain ⟨key, x⟩ := e
    cases hkey : key.text? with
    | some name => simpa [hkey] using ih
    | none => simpa [hkey] using (ih.cons x).trans List.perm_middle.symm

theorem flatMap_entriesOf_perm (f : α → List β) (v : α) (name : String) :
    ((entriesOf v name).flatMap fun e => f e.2).Perm
      (((namedOf v name).flatMap fun e => f e.2) ++ (unnamedOf v name).flatMap f) := by
  rw [entriesOf, namedOf, unnamedOf]
  cases get? v name with
  | none => exact .nil
  | some x =>
    have h := (values_perm x).flatMap_right f
    rwa [List.flatMap_append, List.flatMap_map, List.flatMap_map] at h

end Layered

namespace Reference

theorem map_target_ofValue (path : String) (v : α) :
    (ofValue path v).map target = (target? v).toList := by
  rw [ofValue]
  cases target? v <;> rfl

theorem map_target_ofMember (path : String) (v : α) :
    (ofMember path v).map target = (namedTarget? v).toList := by
  rw [ofMember, ← namedTarget?]
  cases namedTarget? v <;> rfl

theorem map_target_ofMembers (id : String) (v : α) : (ofMembers id v).map target
    = (entriesOf v "members").flatMap fun e => (namedTarget? e.2).toList := by
  rw [ofMembers, inEntry, entriesOf]
  cases get? v "members" with
  | none => rfl
  | some x =>
    simp only [Option.map_some, Option.getD_some, ofMemberEntries, List.map_flatMap,
      map_target_ofMember]

theorem map_target_ofMap (id : String) (v : α) (name : String) : (ofMap id v name).map target
    = (entriesOf v name).flatMap fun e => (target? e.2).toList := by
  rw [ofMap, inEntry, entriesOf]
  cases get? v name with
  | none => rfl
  | some x =>
    simp only [Option.map_some, Option.getD_some, ofEntries, List.map_flatMap, map_target_ofValue]

def inEdgeOrder (id : String) (v : α) (k : Kind) : List Reference :=
  k.memberFields.flatMap (ofSlot id v)
    ++ (if k.hasMembers then ofMembers id v else [])
    ++ k.referenceFields.flatMap (ofField id v)
    ++ k.referenceLists.flatMap (ofList id v)
    ++ k.referenceMaps.flatMap (ofMap id v)

theorem inEdgeOrder_perm (id : String) (v : α) (k : Kind) :
    (inEdgeOrder id v k).Perm (ofKind id v k ++ if k = .union then ofList id v "mixins" else []) := by
  cases k with
  | simple k => exact .refl _
  | resource =>
    refine List.perm_append_comm.trans ?_
    simp -implicitDefEqProofs [ofKind, Kind.memberFields, Kind.hasMembers, Kind.referenceFields,
      Kind.referenceLists, Kind.referenceMaps, Lifecycle.all, Lifecycle.name]
  | _ =>
    -- the kernel is slow to see through what a plain `simp` leaves to it
    simp -implicitDefEqProofs [inEdgeOrder, ofKind, Kind.memberFields, Kind.hasMembers,
      Kind.referenceFields, Kind.referenceLists, Kind.referenceMaps]

end Reference

namespace Edge

/-- An edge to a member whose target is the empty text, which no check takes for a target. -/
def IsEmptyMember (e : Edge) : Prop := e.address.isMember ∧ e.target = ""

instance : DecidablePred IsEmptyMember := fun _ => inferInstanceAs (Decidable (_ ∧ _))

def named (es : List Edge) : List String := (es.filter fun e => ¬ e.IsEmptyMember).map target

theorem map_target_filter (es : List Edge) (p : String → Prop) [DecidablePred p] :
    (es.filter fun e => p e.target ∧ ¬ e.IsEmptyMember).map (some ·.target)
      = ((named es).filter p).map some := by
  rw [named, List.filter_map, List.filter_filter, List.map_map]
  apply congrArg
  apply List.filter_congr
  intro e _
  exact Bool.decide_and _ _

theorem named_append (es es' : List Edge) : named (es ++ es') = named es ++ named es' := by
  rw [named, List.filter_append, List.map_append]
  rfl

theorem named_flatMap (xs : List β) (f : β → List Edge) :
    named (xs.flatMap f) = xs.flatMap fun x => named (f x) := by
  rw [named, List.filter_flatMap, List.map_flatMap]
  rfl

theorem named_eq_map {es : List Edge} (h : ∀ e ∈ es, ¬ e.address.isMember) :
    named es = es.map target := by
  rw [named, List.filter_eq_self.2]
  intro e he
  rw [decide_eq_true_eq]
  exact fun hempty => h e he hempty.1

variable {v : α} {id name : String} {address : Address}

theorem named_singleton_of_isMember (h : address.isMember) (target : String) :
    named [⟨address, target⟩] = if target = "" then [] else [target] := by
  by_cases ht : target = "" <;> simp [named, IsEmptyMember, h, ht]

theorem named_ofMember (h : name ∈ ["member", "key", "value"]) :
    named (ofMember v name) = (Reference.ofSlot id v name).map Reference.target := by
  have hmember : (Address.field name).isMember := by simpa [Address.isMember] using h
  rw [ofMember, Reference.ofSlot, Reference.inEntry]
  cases get? v name with
  | none => rfl
  | some x =>
    rw [Option.bind_some, Option.map_some, Option.getD_some, Reference.map_target_ofMember,
      namedTarget?]
    cases memberTarget? x with
    | none => rfl
    | some target =>
      refine (named_singleton_of_isMember hmember target).trans ?_
      by_cases ht : target = "" <;> simp [ht, Option.filter]

theorem named_ofField (h : name ∉ ["member", "key", "value"]) :
    named (ofField v name) = (Reference.ofField id v name).map Reference.target := by
  have hedges : ∀ e ∈ ofField v name, ¬ e.address.isMember := by
    intro e he
    obtain ⟨target, -, rfl⟩ := Option.map_eq_some_iff.1 (Option.mem_toList.1 he)
    simpa [Address.isMember] using h
  rw [named_eq_map hedges, ofField, Reference.ofField, Reference.inEntry]
  cases get? v name with
  | none => rfl
  | some x =>
    rw [Option.bind_some, Option.map_some, Option.getD_some, Reference.map_target_ofValue]
    cases target? x <;> rfl

theorem named_ofList (id : String) (v : α) (name : String) :
    named (ofList v name) = (Reference.ofList id v name).map Reference.target := by
  have hedges : ∀ e ∈ ofList v name, ¬ e.address.isMember := by
    intro e he
    obtain ⟨⟨target, i⟩, -, rfl⟩ := List.mem_map.1 he
    exact Bool.false_ne_true
  have htargets : (ofList v name).map target = targetsOf v name := by
    rw [ofList, toTargets, List.map_map]
    exact List.zipIdx_map_fst 0 _
  rw [named_eq_map hedges, htargets, targetsOf, itemsOf, Reference.ofList, Reference.inEntry]
  cases get? v name with
  | none => rfl
  | some x =>
    rw [Option.map_some, Option.getD_some, Option.map_some, Option.getD_some, Reference.ofItems,
      List.map_flatMap]
    simp only [Reference.map_target_ofValue]
    -- the targets do not depend on the places of the items
    rw [← List.flatMap_map Prod.fst fun item => (target? item).toList, List.zipIdx_map_fst,
      List.filterMap_eq_flatMap_toList]

theorem named_ofMembers (v : α) : named (ofMembers v)
    = (namedOf v "members").flatMap fun e => (namedTarget? e.2).toList := by
  rw [ofMembers, toEntries, mapOf, List.map_filterMap, List.filterMap_eq_flatMap_toList,
    named_flatMap]
  apply List.flatMap_congr
  rintro ⟨key, x⟩ _
  dsimp only
  rw [namedTarget?]
  cases memberTarget? x with
  | none => rfl
  | some target =>
    have hmember : (Address.entry "members" key).isMember := rfl
    refine (named_singleton_of_isMember hmember target).trans ?_
    by_cases ht : target = "" <;> simp [ht, Option.filter]

theorem named_ofMap (v : α) (h : name ≠ "members") : named (ofMap v name)
    = (namedOf v name).flatMap fun e => (target? e.2).toList := by
  have hedges : ∀ e ∈ ofMap v name, ¬ e.address.isMember := by
    intro e he
    obtain ⟨p, -, rfl⟩ := List.mem_map.1 he
    simpa [Address.isMember] using h
  rw [named_eq_map hedges, ofMap, toEntries, mapOf, List.map_map, List.map_filterMap,
    List.filterMap_eq_flatMap_toList]
  apply List.flatMap_congr
  rintro ⟨key, x⟩ _
  dsimp only
  cases target? x <;> rfl

theorem named_ofMembers_perm (id : String) (v : α) :
    ((Reference.ofMembers id v).map Reference.target).Perm
      (named (ofMembers v) ++ (unnamedOf v "members").filterMap namedTarget?) := by
  rw [Reference.map_target_ofMembers, named_ofMembers, List.filterMap_eq_flatMap_toList]
  exact flatMap_entriesOf_perm (fun x => (namedTarget? x).toList) v "members"

theorem named_ofMap_perm (id : String) (v : α) (h : name ≠ "members") :
    ((Reference.ofMap id v name).map Reference.target).Perm
      (named (ofMap v name) ++ (unnamedOf v name).filterMap target?) := by
  rw [Reference.map_target_ofMap, named_ofMap v h, List.filterMap_eq_flatMap_toList]
  exact flatMap_entriesOf_perm (fun x => (target? x).toList) v name

theorem named_flatMap_congr {names : List String} {f : String → List Edge}
    {g : String → List Reference}
    (h : ∀ name ∈ names, named (f name) = (g name).map Reference.target) :
    named (names.flatMap f) = (names.flatMap g).map Reference.target := by
  rw [named_flatMap, List.map_flatMap]
  exact List.flatMap_congr h

theorem named_flatMap_perm {names : List String} {f : String → List Edge}
    {g : String → List Reference} {rest : String → List String}
    (h : ∀ name ∈ names, ((g name).map Reference.target).Perm (named (f name) ++ rest name)) :
    ((names.flatMap g).map Reference.target).Perm
      (named (names.flatMap f) ++ names.flatMap rest) := by
  rw [named_flatMap, List.map_flatMap]
  exact (List.Perm.flatMap_left _ h).trans (List.flatMap_append_perm names _ _).symm

theorem named_ofKind_perm (id : String) {v : α} {k : Kind} (hk : kind? v = some k) :
    ((Reference.inEdgeOrder id v k).map Reference.target).Perm
      (named (ofKind v k) ++ unnamedTargets v) := by
  have hslots : named (k.memberFields.flatMap (ofMember v))
      = (k.memberFields.flatMap (Reference.ofSlot id v)).map Reference.target :=
    named_flatMap_congr fun name hname => named_ofMember (Kind.mem_slots_of_memberField hname)
  have hmembers : ((if k.hasMembers then Reference.ofMembers id v else []).map
      Reference.target).Perm (named (if k.hasMembers then ofMembers v else [])
        ++ if k.hasMembers then (unnamedOf v "members").filterMap namedTarget? else []) := by
    cases k.hasMembers with
    | true => exact named_ofMembers_perm id v
    | false => exact .nil
  have hfields : named (k.referenceFields.flatMap (ofField v))
      = (k.referenceFields.flatMap (Reference.ofField id v)).map Reference.target :=
    named_flatMap_congr fun name hname =>
      named_ofField (Kind.not_mem_slots_of_referenceField hname)
  have hlists : named (k.referenceLists.flatMap (ofList v))
      = (k.referenceLists.flatMap (Reference.ofList id v)).map Reference.target :=
    named_flatMap_congr fun name _ => named_ofList id v name
  have hmaps : ((k.referenceMaps.flatMap (Reference.ofMap id v)).map Reference.target).Perm
      (named (k.referenceMaps.flatMap (ofMap v))
        ++ k.referenceMaps.flatMap fun name => (unnamedOf v name).filterMap target?) :=
    named_flatMap_perm fun name hname =>
      named_ofMap_perm id v (Kind.ne_members_of_referenceMap hname)
  rw [List.perm_iff_count] at hmembers hmaps ⊢
  intro target
  have hcount := hmembers target
  have hcount' := hmaps target
  simp only [Reference.inEdgeOrder, ofKind, unnamedTargets, hk, named_append, List.map_append,
    List.count_append, hslots, hfields, hlists] at hcount hcount' ⊢
  omega

end Edge

def Layered.edgeTargetsBeyond (ids : List String) (v : α) : List (Option String) :=
  ((edges v).filter fun e => e.target ∉ ids ∧ ¬ e.IsEmptyMember).map (some ·.target)

namespace ShapeCheck

def reportedLost (shown : α → String) (ids : List String) (id : String) (v : α) :
    List (Option String) :=
  ((report shown (.ofIds ids) id v).problems.filter (·.cause.ReportsLost)).map (·.cause.reference?)

variable {shown : α → String} {id : String} {v : α} {ids : List String}

theorem references_perm (hmixins : kind? v = some .union → get? v "mixins" = none) (id : String) :
    ((references id v).map Reference.target).Perm (Edge.named (edges v) ++ unnamedTargets v) := by
  cases hk : kind? v with
  | none =>
    rw [edges, references, unnamedTargets, hk]
    exact .nil
  | some k =>
    simp only [edges, references, hk, Option.map_some, Option.getD_some]
    refine .trans ?_ (Edge.named_ofKind_perm id hk)
    apply List.Perm.map
    have h := Reference.inEdgeOrder_perm id v k
    by_cases hunion : k = .union
    · have hnone : Reference.ofList id v "mixins" = [] := by
        rw [Reference.ofList, Reference.inEntry, hmixins (hunion ▸ hk)]
        rfl
      rw [if_pos hunion, hnone, List.append_nil] at h
      exact h.symm
    · rw [if_neg hunion, List.append_nil] at h
      exact h.symm

theorem reportedLost_eq (hne : ids ≠ []) : reportedLost shown ids id v
    = (((references id v).map Reference.target).filter (· ∉ ids)).map some := by
  have hscope : (references id v).filter (fun r => ¬ (Scope.ofIds ids).allows r.target)
      = (references id v).filter ((fun target => decide (target ∉ ids)) ∘ Reference.target) := by
    apply List.filter_congr
    intro r _
    rw [Bool.eq_iff_iff, Function.comp_apply, decide_eq_true_eq, decide_eq_true_eq,
      Scope.allows_ofIds hne]
  rw [reportedLost, filter_reportsLost, hscope, List.filter_map, List.map_map, List.map_map]
  rfl

/-- The references that are reported as lost are the targets beyond the ids, each as often as an
edge leads there and as often as it stands under a key that is no text, which an edge never does:
so they are the targets of edges alone exactly if nothing is lost under such keys, as in JSON, which
has none. Empty members have edges and are reported as such; mixins of a union have edges and are
not looked up. -/
theorem lost_perm_edges {ids : List String} (hne : ids ≠ [])
    (hmixins : kind? v = some .union → get? v "mixins" = none) (shown : α → String) (id : String) :
    (reportedLost shown ids id v).Perm
        (edgeTargetsBeyond ids v ++ ((unnamedTargets v).filter (· ∉ ids)).map some)
      ∧ ((reportedLost shown ids id v).Perm (edgeTargetsBeyond ids v)
        ↔ ∀ target ∈ unnamedTargets v, target ∈ ids)
      ∧ ∀ node : Json, unnamedTargets node = [] := by
  have hperm : (reportedLost shown ids id v).Perm
      (edgeTargetsBeyond ids v ++ ((unnamedTargets v).filter (· ∉ ids)).map some) := by
    have h := ((references_perm hmixins id).filter (· ∉ ids)).map some
    rwa [List.filter_append, List.map_append, ← reportedLost_eq hne,
      ← Edge.map_target_filter (edges v) (· ∉ ids)] at h
  refine ⟨hperm, ?_, unnamedTargets_json⟩
  have hnone : (((unnamedTargets v).filter (· ∉ ids)).map some = [])
      ↔ ∀ target ∈ unnamedTargets v, target ∈ ids := by
    simp [List.filter_eq_nil_iff]
  rw [← hnone]
  constructor
  · intro h
    have hlength := (hperm.symm.trans h).length_eq
    rw [List.length_append] at hlength
    exact List.eq_nil_of_length_eq_zero (by omega)
  · intro h
    rwa [h, List.append_nil] at hperm

def parcel : Json :=
  .obj [("type", .str "resource"), ("create", .str ""), ("put", .int 1),
    ("list", .obj [("target", .str "Lost")]), ("operations", .arr [.null, .str "Here", .str "Lost"]),
    ("resources", .str "Lost"), ("identifiers", .obj [("a", .bool true), ("b", .str "Lost")])]

theorem lost_parcel_perm : ["Here"] ≠ []
    ∧ (kind? parcel = some .union → get? parcel "mixins" = none)
    ∧ (reportedLost Json.display ["Here"] "Parcel" parcel).Perm
        [some "", some "Lost", some "Lost", some "Lost"] := by
  have hne : ["Here"] ≠ [] := by decide
  have hmixins : kind? parcel = some .union → get? parcel "mixins" = none := by decide
  have hedges : edgeTargetsBeyond ["Here"] parcel
      = [some "", some "Lost", some "Lost", some "Lost"] := by decide
  obtain ⟨-, hiff, hjson⟩ := lost_perm_edges hne hmixins Json.display "Parcel"
  refine ⟨hne, hmixins, ?_⟩
  rw [← hedges, hiff, hjson parcel]
  exact List.forall_mem_nil _

def drawer : Graph :=
  .ofCells #[.mapping [(.text "type", 1), (.text "members", 2)], .text "structure",
    .mapping [(.int 1, 3)], .mapping [(.text "target", 4)], .text "Lost"]

theorem drawer_loses_member : kind? (⟨0, by decide⟩ : Fin drawer.size) = some .struct
    ∧ ¬ (reportedLost (fun _ => "") ["Here"] "Drawer" (⟨0, by decide⟩ : Fin drawer.size)).Perm
        (edgeTargetsBeyond ["Here"] (⟨0, by decide⟩ : Fin drawer.size)) := by
  decide

end ShapeCheck

end ShapeGraph
