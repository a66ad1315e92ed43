import ShapeGraph.Proofs.Acceptance.Model
import ShapeGraph.Proofs.Fields

namespace ShapeGraph

namespace Form

def members : Form → Fields Member
  | .list m | .set m => [("member", m)]
  | .map k v => [("key", k), ("value", v)]
  | .struct members _ | .union members => members
  | _ => []

def mapMembers (f : Member → Member) : Form → Form
  | .list m => .list (f m)
  | .set m => .set (f m)
  | .map k v => .map (f k) (f v)
  | .struct members mixins => .struct (members.mapValues fun _ => f) mixins
  | .union members => .union (members.mapValues fun _ => f)
  | form => form

def required (form : Form) : Fields Bool := form.members.mapValues fun _ m => m.isRequired

theorem members_mapMembers (f : Member → Member) (form : Form) :
    (form.mapMembers f).members = form.members.mapValues fun _ => f := by
  cases form <;> rfl

theorem mapMembers_id (form : Form) : form.mapMembers id = form := by
  cases form with
  | struct members mixins => exact congrArg (Form.struct · mixins) (Fields.mapValues_id members)
  | union members => exact congrArg Form.union (Fields.mapValues_id members)
  | _ => rfl

end Form

variable {v : Json} {k : Kind}

theorem Member.ofNode?_eq_some_iff {m : Member} :
    Member.ofNode? v = some m ↔ v.get? "target" = some (.str m.target) ∧ m.traits = v.traits := by
  obtain ⟨target, traits⟩ := m
  simp only [Member.ofNode?_eq, Option.map_eq_some_iff, Json.str?_getD_eq_some_iff,
    Member.mk.injEq]
  constructor
  · rintro ⟨_, hget, rfl, rfl⟩
    exact ⟨hget, rfl⟩
  · rintro ⟨hget, rfl⟩
    exact ⟨target, hget, rfl, rfl⟩

theorem Member.isObject_of_ofNode? {m : Member} (h : Member.ofNode? v = some m) : v.isObject := by
  obtain ⟨fs, rfl, -⟩ := Json.get?_eq_some_iff.1 (Member.ofNode?_eq_some_iff.1 h).1
  rfl

theorem Member.ofNodes_eq_mapValues {allowed : String → Prop}
    (h : ∀ e ∈ v.fieldsD, e.2.IsMember allowed) :
    ∃ target : Json → String,
      ofNodes v = v.fieldsD.mapValues fun _ item => ⟨target item, item.traits⟩ := by
  refine ⟨fun item => ((item.getD "target").str?).getD "", ?_⟩
  rw [ofNodes, Fields.mapValues, ← List.filterMap_eq_map]
  apply List.filterMap_congr
  rintro ⟨name, item⟩ hmem
  obtain ⟨target, -, -, htarget⟩ := h _ hmem
  simp [ofNode?_eq, Json.getD_eq_of_get? htarget, Json.str?]

theorem Form.exists_of_mem_members {form : Form} {e : String × Member}
    (h : Form.ofNode? v k = some form) (he : e ∈ form.members) :
    ∃ item, v.HasMember item ∧ Member.ofNode? item = some e.2 := by
  have hslot {name : String} {m : Member} (hname : name ∈ ["member", "key", "value"])
      (hm : Member.ofNode? (v.getD name) = some m) :
      ∃ item, v.HasMember item ∧ Member.ofNode? item = some m := by
    have hnull : v.getD name ≠ .null := by
      intro hnull
      rw [hnull] at hm
      cases hm
    exact ⟨v.getD name, .slot hname ((Json.getD_eq_iff hnull).1 rfl), hm⟩
  have hnamed (he : e ∈ Member.ofNodes (v.getD "members")) :
      ∃ item, v.HasMember item ∧ Member.ofNode? item = some e.2 := by
    obtain ⟨⟨name, item⟩, hmem, hitem⟩ := List.mem_filterMap.1 he
    obtain ⟨m, hm, rfl⟩ := Option.map_eq_some_iff.1 hitem
    obtain ⟨fs, hfs, hmem⟩ := Model.mem_fieldsD_getD_iff.1 hmem
    exact ⟨item, .named hfs hmem, hm⟩
  rw [ofNode?_eq] at h
  cases k with
  | list | set =>
    obtain ⟨m, hm, rfl⟩ := Option.map_eq_some_iff.1 h
    obtain rfl := List.mem_singleton.1 he
    exact hslot (by decide) hm
  | map =>
    obtain ⟨key, hkey, h⟩ := Option.bind_eq_some_iff.1 h
    obtain ⟨value, hvalue, rfl⟩ := Option.map_eq_some_iff.1 h
    rcases List.mem_cons.1 he with rfl | he
    · exact hslot (by decide) hkey
    · obtain rfl := List.mem_singleton.1 he
      exact hslot (by decide) hvalue
  | struct | union =>
    cases h
    exact hnamed he
  | _ =>
    cases h
    cases he

end ShapeGraph
