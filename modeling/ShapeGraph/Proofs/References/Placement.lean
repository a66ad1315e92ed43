import Mathlib.Data.List.Nodup
import ShapeGraph.Proofs.Fields
import ShapeGraph.Proofs.Json.Distinct
import ShapeGraph.Proofs.References.Address
import ShapeGraph.Proofs.References.Lost

namespace ShapeGraph

open Layered

inductive Role
  | member
  | members
  | reference
  | references
  | referenceMap
  deriving DecidableEq, Repr

namespace Kind

def parts (k : Kind) : List (String × Role) :=
  k.memberFields.map (·, .member)
    ++ (if k.hasMembers then [("members", .members)] else [])
    ++ k.referenceFields.map (·, .reference)
    ++ k.referenceLists.map (·, .references)
    ++ k.referenceMaps.map (·, .referenceMap)

variable {k : Kind} {part : String × Role} {name : String}

theorem nodup_parts (k : Kind) : (k.parts.map Prod.fst).Nodup := by
  cases k with
  | simple k => exact List.nodup_nil
  | _ => decide

theorem role_of_mem_parts (h : part ∈ k.parts) :
    (part.2 = .member ↔ part.1 ∈ ["member", "key", "value"])
      ∧ (part.2 = .members ↔ part.1 = "members") := by
  revert part
  cases k with
  | simple k =>
    simp [parts, memberFields, hasMembers, referenceMaps, referenceFields, referenceLists]
  | _ => decide

theorem inName_of_mem_parts (h : part ∈ k.parts) : ∀ c ∈ part.1.toList, Address.inName c := by
  rw [← List.all_eq_true]
  revert part
  cases k with
  | simple k => exact fun h => absurd h List.not_mem_nil
  | _ => decide

theorem mem_parts_references_iff : (name, Role.references) ∈ k.parts ↔ name ∈ k.referenceLists := by
  cases k <;> simp [parts, memberFields, hasMembers, referenceMaps, referenceFields, referenceLists]

end Kind

namespace Layered

variable {α : Type} [Layered α]

def part? (v : α) : Address → Option α
  | .field name => get? v name
  | .item name i => (get? v name).bind fun list => (items list)[i]?
  | .entry name key => (get? v name).bind (get? · key)

def leadsTo? (v : α) (a : Address) : Option String :=
  (part? v a).bind (if a.isMember then memberTarget? else target?)

def edgesOf (v : α) : String × Role → List Edge
  | (name, .member) => Edge.ofMember v name
  | (name, .members) => Edge.toEntries name (mapOf memberTarget? v name)
  | (name, .reference) => Edge.ofField v name
  | (name, .references) => Edge.ofList v name
  | (name, .referenceMap) => Edge.ofMap v name

def DistinctParts (v : α) : Prop := ∀ name x, get? v name = some x → (named x).Distinct

/-- Edges with their addresses: each has one of its own, and one that is no item leads to its
target. An item has for its index the number of references before it, which is its place exactly if
every item before it is a reference. -/
structure Addresses (v : α) (es : List Edge) : Prop where
  nodup : (es.map fun e => e.address.text).Nodup
  leads : ∀ e ∈ es, ¬ e.address.isItem → leadsTo? v e.address = some e.target
  counts : ∀ e ∈ es, ∀ name i, e.address = .item name i →
    ∃ j, leadsTo? v (.item name j) = some e.target
      ∧ ((itemsOf v name).take j).countP (fun x => (target? x).isSome) = i
  leads_iff : (∀ e ∈ es, leadsTo? v e.address = some e.target)
    ↔ ∀ k, kind? v = some k → ∀ name ∈ k.referenceLists,
      (itemsOf v name).Pairwise fun x y => (target? y).isSome → (target? x).isSome

variable {v : α} {name : String} {e : Edge} {k : Kind} {part : String × Role}

theorem ofKind_eq (v : α) (k : Kind) : Edge.ofKind v k = k.parts.flatMap (edgesOf v) := by
  have hmembers : (if k.hasMembers then [("members", Role.members)] else []).flatMap (edgesOf v)
      = if k.hasMembers then Edge.ofMembers v else [] := by
    cases k.hasMembers with
    | true => exact List.flatMap_singleton ..
    | false => rfl
  simp only [Edge.ofKind, Kind.parts, List.flatMap_append, List.flatMap_map, hmembers]
  rfl

theorem leadsTo?_item (v : α) (name : String) (i : Nat) :
    leadsTo? v (.item name i) = (itemsOf v name)[i]?.bind target? := by
  rw [leadsTo?, part?, itemsOf]
  cases get? v name <;> rfl

theorem mem_mapOf (hd : DistinctParts v) {read : α → Option String} {key target : String}
    (h : (key, target) ∈ mapOf read v name) :
    (part? v (.entry name key)).bind read = some target := by
  rw [mapOf, namedOf] at h
  rw [part?]
  cases hx : get? v name with
  | none => simp [hx] at h
  | some x =>
    simp only [hx, Option.map_some, Option.getD_some, List.mem_filterMap,
      Option.map_eq_some_iff, Prod.mk.injEq] at h
    obtain ⟨⟨_, y⟩, hmem, _, hread, rfl, rfl⟩ := h
    rw [Option.bind_some, get?, (hd name x hx).get?_of_mem hmem, Option.bind_some, hread]

theorem distinct_mapOf (hd : DistinctParts v) (read : α → Option String) (name : String) :
    (mapOf read v name).Distinct := by
  rw [mapOf, namedOf]
  cases hx : get? v name with
  | none => exact Fields.distinct_nil
  | some x =>
    rw [Fields.Distinct, Option.map_some, Option.getD_some, ← Fields.keys_filter_isSome]
    exact (hd name x hx).sublist (List.filter_sublist.map _)

theorem name_of_mem_edgesOf (h : e ∈ edgesOf v part) : e.address.name = part.1 := by
  obtain ⟨name, r⟩ := part
  cases r with
  | member | reference =>
    obtain ⟨target, -, rfl⟩ := Option.map_eq_some_iff.1 (Option.mem_toList.1 h)
    rfl
  | members | referenceMap | references =>
    obtain ⟨p, -, rfl⟩ := List.mem_map.1 h
    rfl

theorem nodup_edgesOf (hd : DistinctParts v) (part : String × Role) :
    ((edgesOf v part).map Edge.address).Nodup := by
  obtain ⟨name, r⟩ := part
  have htarget (o : Option String) : ((Edge.toTarget name o).map Edge.address).Nodup := by
    cases o <;> simp [Edge.toTarget]
  have hentries {fs : Fields String} (hfs : fs.Distinct) :
      ((Edge.toEntries name fs).map Edge.address).Nodup := by
    have hmap : (Edge.toEntries name fs).map Edge.address = fs.keys.map (Address.entry name) := by
      simp [Edge.toEntries, Fields.keys]
    rw [hmap]
    exact List.Nodup.map (fun key key' h => (Address.entry.inj h).2) hfs
  cases r with
  | member | reference => exact htarget _
  | members | referenceMap => exact hentries (distinct_mapOf hd _ name)
  | references =>
    have hmap : (edgesOf v (name, .references)).map Edge.address
        = (List.range' 0 (targetsOf v name).length).map (Address.item name) := by
      rw [← List.zipIdx_map_snd, List.map_map, edgesOf, Edge.ofList, Edge.toTargets, List.map_map]
      rfl
    rw [hmap]
    exact List.Nodup.map (fun i j h => (Address.item.inj h).2) (List.nodup_range' 1)

theorem leadsTo?_of_mem_edgesOf (hd : DistinctParts v) (hpart : part ∈ k.parts)
    (h : e ∈ edgesOf v part) (hitem : ¬ e.address.isItem) :
    leadsTo? v e.address = some e.target := by
  obtain ⟨hmember, hmembers⟩ := Kind.role_of_mem_parts hpart
  obtain ⟨name, r⟩ := part
  cases r with
  | member | reference =>
    obtain ⟨target, htarget, rfl⟩ := Option.map_eq_some_iff.1 (Option.mem_toList.1 h)
    simpa [leadsTo?, part?, Address.isMember, ← hmember] using htarget
  | members | referenceMap =>
    obtain ⟨⟨key, target⟩, hmem, rfl⟩ := List.mem_map.1 h
    simpa [leadsTo?, Address.isMember, ← hmembers] using mem_mapOf hd hmem
  | references =>
    obtain ⟨p, -, rfl⟩ := List.mem_map.1 h
    exact absurd rfl hitem

theorem mem_edgesOf_references_iff {i : Nat} {target : String} :
    ⟨.item name i, target⟩ ∈ edgesOf v (name, .references)
      ↔ ((itemsOf v name).filterMap target?)[i]? = some target := by
  simp [edgesOf, Edge.ofList, Edge.toTargets, targetsOf, List.mem_zipIdx_iff_getElem?]

theorem eq_references_of_item {i : Nat} (h : e ∈ edgesOf v part)
    (hitem : e.address = .item name i) : part = (name, .references)
      ∧ ((itemsOf v name).filterMap target?)[i]? = some e.target := by
  obtain ⟨address, target⟩ := e
  cases hitem
  obtain ⟨name', r⟩ := part
  have hname : name = name' := name_of_mem_edgesOf h
  cases r with
  | references =>
    rw [← hname] at h ⊢
    exact ⟨rfl, mem_edgesOf_references_iff.1 h⟩
  | member | reference =>
    obtain ⟨_, -, heq⟩ := Option.map_eq_some_iff.1 (Option.mem_toList.1 h)
    cases heq
  | members | referenceMap =>
    obtain ⟨_, -, heq⟩ := List.mem_map.1 h
    cases heq

theorem nodup_addresses (hd : DistinctParts v) (k : Kind) :
    ((Edge.ofKind v k).map Edge.address).Nodup := by
  rw [ofKind_eq, List.map_flatMap, List.nodup_flatMap]
  refine ⟨fun part _ => nodup_edgesOf hd part, ?_⟩
  apply (List.pairwise_map.1 k.nodup_parts).imp
  intro part part' hne a ha ha'
  obtain ⟨e, he, rfl⟩ := List.mem_map.1 ha
  obtain ⟨e', he', heq⟩ := List.mem_map.1 ha'
  rw [← name_of_mem_edgesOf he, ← name_of_mem_edgesOf he', heq] at hne
  exact hne rfl

theorem mem_ofKind_iff_parts : e ∈ Edge.ofKind v k ↔ ∃ part ∈ k.parts, e ∈ edgesOf v part := by
  rw [ofKind_eq, List.mem_flatMap]

theorem nodup_texts (hd : DistinctParts v) (k : Kind) :
    ((Edge.ofKind v k).map fun e => e.address.text).Nodup := by
  have hnames : ∀ e ∈ Edge.ofKind v k, ∀ c ∈ e.address.name.toList, Address.inName c := by
    intro e he
    obtain ⟨part, hmem, he⟩ := mem_ofKind_iff_parts.1 he
    rw [name_of_mem_edgesOf he]
    exact Kind.inName_of_mem_parts hmem
  have htexts : (((Edge.ofKind v k).map Edge.address).map Address.text).Nodup := by
    refine (nodup_addresses hd k).map_on ?_
    simp only [List.mem_map]
    rintro _ ⟨e, he, rfl⟩ _ ⟨e', he', rfl⟩ h
    exact Address.text_inj (hnames e he) (hnames e' he') h
  rwa [List.map_map] at htexts

theorem leadsTo?_of_mem_ofKind (hd : DistinctParts v) (h : e ∈ Edge.ofKind v k)
    (hitem : ¬ e.address.isItem) : leadsTo? v e.address = some e.target := by
  obtain ⟨part, hmem, he⟩ := mem_ofKind_iff_parts.1 h
  exact leadsTo?_of_mem_edgesOf hd hmem he hitem

theorem mem_ofKind_item_iff {i : Nat} {target : String} :
    ⟨.item name i, target⟩ ∈ Edge.ofKind v k
      ↔ name ∈ k.referenceLists ∧ ((itemsOf v name).filterMap target?)[i]? = some target := by
  rw [mem_ofKind_iff_parts]
  constructor
  · rintro ⟨part, hmem, he⟩
    obtain ⟨rfl, htarget⟩ := eq_references_of_item he rfl
    exact ⟨Kind.mem_parts_references_iff.1 hmem, htarget⟩
  · rintro ⟨hname, htarget⟩
    exact ⟨_, Kind.mem_parts_references_iff.2 hname, mem_edgesOf_references_iff.2 htarget⟩

/-- Items lead to their targets exactly if none of them has been left out before another. -/
theorem leadsTo?_ofKind_iff (hd : DistinctParts v) :
    (∀ e ∈ Edge.ofKind v k, leadsTo? v e.address = some e.target)
      ↔ ∀ name ∈ k.referenceLists,
        (itemsOf v name).Pairwise fun x y => (target? y).isSome → (target? x).isSome := by
  constructor
  · intro h name hname
    refine filterMap_in_place_iff.1 fun i target htarget => ?_
    rw [← leadsTo?_item]
    exact h _ (mem_ofKind_item_iff.2 ⟨hname, htarget⟩)
  · rintro h ⟨address, target⟩ he
    cases address with
    | item name i =>
      obtain ⟨hname, htarget⟩ := mem_ofKind_item_iff.1 he
      rw [leadsTo?_item]
      exact filterMap_in_place_iff.2 (h name hname) i target htarget
    | field | entry => exact leadsTo?_of_mem_ofKind hd he Bool.false_ne_true

theorem addresses (hd : DistinctParts v) : Addresses v (edges v) := by
  cases hk : kind? v with
  | none =>
    have hnil : edges v = [] := by rw [edges, hk]
    rw [hnil]
    exact ⟨List.nodup_nil, List.forall_mem_nil _, List.forall_mem_nil _, by simp [hk]⟩
  | some k =>
    have hedges : edges v = Edge.ofKind v k := by rw [edges, hk]
    rw [hedges]
    refine ⟨nodup_texts hd k, fun e he => leadsTo?_of_mem_ofKind hd he, ?_, ?_⟩
    · rintro ⟨_, target⟩ he name i rfl
      simp only [leadsTo?_item]
      exact getElem?_filterMap_eq_some_iff.1 (mem_ofKind_item_iff.1 he).2
    · rw [leadsTo?_ofKind_iff hd, hk]
      simp

end Layered

theorem Json.Distinct.distinctParts {v : Json} (h : v.Distinct) : DistinctParts v := by
  intro name x hx
  rw [get?_json] at hx
  rw [named_json]
  cases hx' : x with
  | obj fs => exact (hx' ▸ h.of_get? hx).1
  | _ => exact Fields.distinct_nil

theorem Reference.mem_ofList_iff {α : Type} [Layered α] {v : α} {id name target : String}
    {i : Nat} : ⟨id ++ "." ++ (Address.item name i).text, target⟩ ∈ ofList id v name
      ↔ leadsTo? v (.item name i) = some target := by
  have hpath (path : String) (h : path = id ++ "." ++ name) (j : Nat) :
      s!"{path}[{j}]" = id ++ "." ++ (Address.item name j).text := by
    simp only [h, Address.text, toString, String.append_assoc]
  have hitems : ofList id v name = ofItems (id ++ "." ++ name) (itemsOf v name) := by
    rw [ofList, inEntry, itemsOf]
    cases get? v name <;> rfl
  simp only [leadsTo?_item, hitems, ofItems, ofValue, hpath _ rfl, List.mem_flatMap,
    Option.mem_toList, Option.map_eq_some_iff, Option.bind_eq_some_iff, Reference.mk.injEq]
  constructor
  · rintro ⟨⟨item, j⟩, hmem, _, htarget, htext, rfl⟩
    have hindex : j = i := Address.item_text_inj ((String.append_right_inj _).1 htext)
    rw [hindex] at hmem
    exact ⟨item, List.mem_zipIdx_iff_getElem?.1 hmem, htarget⟩
  · rintro ⟨item, hitem, htarget⟩
    exact ⟨(item, i), List.mem_zipIdx_iff_getElem?.2 hitem, target, htarget, rfl, rfl⟩

namespace Edge

/-- Edges are addressed each in its own way, and all lead to their targets exactly if no list has an
item that is no reference before one that is. A check, which has the place of an item for its index,
addresses the items of every node as what they are. -/
theorem addressed {α : Type} [Layered α] {v : α} (h : DistinctParts v) :
    Addresses v (edges v)
      ∧ ∀ (node : α) (id name : String) (i : Nat) (target : String),
        ⟨id ++ "." ++ (Address.item name i).text, target⟩ ∈ Reference.ofList id node name
          ↔ leadsTo? node (.item name i) = some target :=
  ⟨addresses h, fun _ _ _ _ _ => Reference.mem_ofList_iff⟩

def harbour : Json :=
  .obj [("type", .str "resource"), ("identifiers", .obj [("a", .int 1), ("b", .str "Berth")]),
    ("read", .obj [("target", .str "Look")]),
    ("operations", .arr [.str "Dock", .obj [("target", .str "Leave")], .null])]

def knot : Graph :=
  .ofCells #[.mapping [(.text "type", 1), (.text "mixins", 2)], .text "structure", .list [3, 0],
    .text "Base"]

theorem addressed_harbour_and_knot : DistinctParts harbour
    ∧ (∀ e ∈ harbour.edges, leadsTo? harbour e.address = some e.target)
    ∧ DistinctParts (⟨0, by decide⟩ : Fin knot.size)
    ∧ ∀ e ∈ knot.edges ⟨0, by decide⟩,
      leadsTo? (⟨0, by decide⟩ : Fin knot.size) e.address = some e.target := by
  have hharbour : harbour.Distinct := by
    simp [harbour, Json.Distinct, Json.DistinctFields, Json.DistinctItems, Fields.Distinct]
  have hknot : ∀ v : Fin knot.size, (Layered.named v).Distinct := by
    unfold Fields.Distinct
    decide
  have hparts : DistinctParts (⟨0, by decide⟩ : Fin knot.size) := fun _ x _ => hknot x
  refine ⟨hharbour.distinctParts, (addressed hharbour.distinctParts).1.leads_iff.2 ?_, hparts,
    (addressed hparts).1.leads_iff.2 ?_⟩
  · intro k hk
    cases (show some Kind.resource = some k from hk)
    decide
  · intro k hk
    cases (show some Kind.struct = some k from hk)
    decide

def gap : Json :=
  .obj [("type", .str "structure"), ("mixins", .arr [.null, .str "Base"])]

theorem gap_misplaces_edge : gap.Distinct
    ∧ gap.edges = [⟨.item "mixins" 0, "Base"⟩]
    ∧ leadsTo? gap (.item "mixins" 0) = none
    ∧ leadsTo? gap (.item "mixins" 1) = some "Base"
    ∧ (Reference.ofList "A" gap "mixins").map Reference.path = ["A.mixins[1]"] := by
  refine ⟨?_, by decide, by decide, by decide, by decide⟩
  simp [gap, Json.Distinct, Json.DistinctFields, Json.DistinctItems, Fields.Distinct]

end Edge

end ShapeGraph
