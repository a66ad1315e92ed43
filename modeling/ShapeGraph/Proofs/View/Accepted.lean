import ShapeGraph.Proofs.Locality.Scope
import ShapeGraph.Proofs.Model.Members
import ShapeGraph.Proofs.References.Closed
import ShapeGraph.Proofs.Selector.Composition
import ShapeGraph.Proofs.View.Written
import ShapeGraph.Selector.Query

/-!
The views of nodes that a check accepts. A view leaves out what it cannot read, and a check reports
all of it but what is in the entries that it does not look at, so the view of an accepted node has
the whole of it, and written as a node again is accepted in the same scope.
-/

namespace ShapeGraph

open Json (IsReference IsMember IsArrayOf IsObjectOf)

namespace Json

def RefersTo (v : Json) (target : String) : Prop :=
  v = .str target ∨ v.get? "target" = some (.str target)

def IsMemberOf (v : Json) (m : Member) : Prop :=
  v.get? "target" = some (.str m.target) ∧ m.traits = v.traits

def ListsTargets (v : Json) (targets : List String) : Prop :=
  ∃ items, v = .arr items ∧ List.Forall₂ RefersTo items targets

def MapsTo {α : Type} (R : Json → α → Prop) (v : Json) (fs : Fields α) : Prop :=
  ∃ entries, v = .obj entries ∧ List.Forall₂ (fun e f => e.1 = f.1 ∧ R e.2 f.2) entries fs

def Shows {α : Type} (v : Json) (name : String) (R : Json → α → Prop) (absent shown : α) : Prop :=
  match v.get? name with
  | none => shown = absent
  | some x => R x shown

def ShowsReference (v : Json) (name : String) : Option String → Prop :=
  v.Shows name (fun x o => ∃ target, o = some target ∧ x.RefersTo target) none

def ShowsList (v : Json) (name : String) : List String → Prop := v.Shows name ListsTargets []

def ShowsMap (v : Json) (name : String) : Fields String → Prop := v.Shows name (MapsTo RefersTo) []

def ShowsMembers (v : Json) : Fields Member → Prop := v.Shows "members" (MapsTo IsMemberOf) []

def ShowsMember (v : Json) (name : String) (m : Member) : Prop :=
  v.Present name fun x => x.IsMemberOf m

end Json

/-- All that a node says in the entries that a check looks at, but for what a service renames. -/
def Form.Shows (v : Json) : Form → Prop
  | .simple _ => True
  | .list m | .set m => v.ShowsMember "member" m
  | .map key value => v.ShowsMember "key" key ∧ v.ShowsMember "value" value
  | .struct members mixins => v.ShowsMembers members ∧ v.ShowsList "mixins" mixins
  | .union members => v.ShowsMembers members
  | .service s =>
    (∃ text, s.version = some text ∧ v.get? "version" = some (.str text))
      ∧ v.ShowsList "operations" s.operations ∧ v.ShowsList "resources" s.resources
      ∧ v.ShowsList "errors" s.errors
  | .operation o =>
    v.ShowsReference "input" o.input ∧ v.ShowsReference "output" o.output
      ∧ v.ShowsList "errors" o.errors
  | .resource r =>
    v.ShowsMap "identifiers" r.identifiers ∧ v.ShowsMap "properties" r.properties
      ∧ (∀ l : Lifecycle, v.ShowsReference l.name (r.bound l))
      ∧ v.ShowsList "operations" r.operations
      ∧ v.ShowsList "collectionOperations" r.collectionOperations
      ∧ v.ShowsList "resources" r.resources

structure Shape.Shows (s : Shape) (id : String) (v : Json) : Prop where
  id : s.id = id
  kind : v.kind? = some s.kind
  traits : s.traits = v.traits
  form : s.form.Shows v

theorem forall₂_filterMap {α β : Type} {R : α → β → Prop} {f : α → Option β} {xs : List α}
    (h : ∀ x ∈ xs, ∃ b, f x = some b ∧ R x b) : List.Forall₂ R xs (xs.filterMap f) := by
  induction xs with
  | nil => exact .nil
  | cons x xs ih =>
    obtain ⟨hx, hxs⟩ := List.forall_mem_cons.1 h
    obtain ⟨b, hb, hR⟩ := hx
    rw [List.filterMap_cons_some hb]
    exact .cons hR (ih hxs)

variable {allowed : String → Prop} {v w : Json} {name : String} {fs : Fields Json}

namespace Json

theorem WhenPresent.shows {α : Type} {R : Json → α → Prop} {f : Json → α}
    (h : v.WhenPresent name fun x => R x (f x)) : v.Shows name R (f .null) (f (v.getD name)) := by
  rw [Shows, getD]
  cases hx : v.get? name with
  | none => rfl
  | some x => exact h x hx

theorem WhenPresent.showsReference (h : v.WhenPresent name (IsReference allowed)) :
    v.ShowsReference name (v.getD name).target? := by
  refine WhenPresent.shows (f := target?) fun x hx => ?_
  obtain ⟨target, -, href⟩ := h x hx
  exact ⟨target, target?_eq_some_iff.2 href, href⟩

theorem WhenPresent.showsList (h : v.WhenPresent name (IsArrayOf (IsReference allowed))) :
    v.ShowsList name (v.getD name).targets := by
  refine WhenPresent.shows fun x hx => ?_
  obtain ⟨items, rfl, hall⟩ := h x hx
  refine ⟨items, rfl, forall₂_filterMap fun item hitem => ?_⟩
  obtain ⟨target, -, href⟩ := hall item hitem
  exact ⟨target, target?_eq_some_iff.2 href, href⟩

theorem mapsTo_filterMap {α : Type} {R : Json → α → Prop} {read : Json → Option α}
    (h : ∀ name x, (name, x) ∈ fs → ∃ a, read x = some a ∧ R x a) :
    (obj fs).MapsTo R (fs.filterMap fun (name, x) => (read x).map (name, ·)) := by
  refine ⟨fs, rfl, forall₂_filterMap ?_⟩
  rintro ⟨name, x⟩ hmem
  obtain ⟨a, ha, hR⟩ := h name x hmem
  exact ⟨(name, a), congrArg (Option.map (name, ·)) ha, rfl, hR⟩

theorem WhenPresent.showsMap (h : v.WhenPresent name (IsObjectOf (IsReference allowed))) :
    v.ShowsMap name (v.getD name).targetMap := by
  refine WhenPresent.shows fun x hx => ?_
  obtain ⟨entries, rfl, hall⟩ := h x hx
  refine mapsTo_filterMap fun key item hitem => ?_
  obtain ⟨target, -, href⟩ := hall key item hitem
  exact ⟨target, target?_eq_some_iff.2 href, href⟩

theorem IsMember.exists_ofNode? (h : v.IsMember allowed) :
    ∃ m, Member.ofNode? v = some m ∧ v.IsMemberOf m := by
  obtain ⟨target, -, -, htarget⟩ := h
  exact ⟨⟨target, v.traits⟩, Member.ofNode?_eq_some_iff.2 ⟨htarget, rfl⟩, htarget, rfl⟩

theorem WhenPresent.showsMembers (h : v.WhenPresent "members" (IsObjectOf (IsMember allowed))) :
    v.ShowsMembers (Member.ofNodes (v.getD "members")) := by
  refine WhenPresent.shows fun x hx => ?_
  obtain ⟨entries, rfl, hall⟩ := h x hx
  exact mapsTo_filterMap fun key item hitem => (hall key item hitem).exists_ofNode?

theorem exists_of_get?_entryOfTarget {o : Option String} {x : Json}
    (h : Fields.get? (writer.entryOfTarget name o) name = some x) :
    ∃ target, o = some target ∧ x = writer.reference target := by
  cases o with
  | none => cases h
  | some target => exact ⟨target, rfl, by simpa [Writer.entryOfTarget, eq_comm] using h⟩

theorem eq_of_get?_entryOfTargets {targets : List String} {x : Json}
    (h : Fields.get? (writer.entryOfTargets name targets) name = some x) :
    x = .arr (targets.map writer.reference) := by
  cases targets with
  | nil => cases h
  | cons target targets =>
    exact (Option.some.inj ((if_pos rfl).symm.trans h)).symm

theorem eq_of_get?_entryOfFields {x : Json}
    (h : Fields.get? (writer.entryOfFields name fs) name = some x) : x = .obj fs := by
  cases fs with
  | nil => cases h
  | cons f fs =>
    exact (Option.some.inj ((if_pos rfl).symm.trans h)).symm

theorem isReference_reference {target : String} (h : allowed target) :
    (writer.reference target).IsReference allowed :=
  ⟨target, h, .inr rfl⟩

theorem IsMember.toNode {m : Member} (h : v.IsMember allowed) (hm : Member.ofNode? v = some m) :
    m.toNode.IsMember allowed := by
  obtain ⟨target, hallowed, hne, htarget⟩ := h
  rw [(Member.ofNode?_eq_some_iff.1 hm).1] at htarget
  cases htarget
  exact ⟨m.target, hallowed, hne, rfl⟩

theorem WhenPresent.written_reference (h : v.WhenPresent name (IsReference allowed)) {x : Json}
    (hx : Fields.get? (writer.entryOfTarget name (v.getD name).target?) name = some x) :
    x.IsReference allowed := by
  obtain ⟨target, htarget, rfl⟩ := exists_of_get?_entryOfTarget hx
  have he : ⟨.field name, target⟩ ∈ Edge.ofField v name := by simp [Edge.ofField_json, Edge.toTarget, htarget]
  exact isReference_reference (Edge.allowed_ofField h he)

theorem WhenPresent.written_list (h : v.WhenPresent name (IsArrayOf (IsReference allowed)))
    {x : Json} (hx : Fields.get? (writer.entryOfTargets name (v.getD name).targets) name = some x) :
    x.IsArrayOf (IsReference allowed) := by
  refine ⟨_, eq_of_get?_entryOfTargets hx, fun item hitem => ?_⟩
  obtain ⟨target, hmem, rfl⟩ := List.mem_map.1 hitem
  exact isReference_reference (Edge.allowed_of_mem_targets h hmem)

theorem WhenPresent.written_map (h : v.WhenPresent name (IsObjectOf (IsReference allowed)))
    {x : Json} (hx : Fields.get? (writer.entryOfFields name
      ((v.getD name).targetMap.mapValues fun _ => writer.reference)) name = some x) :
    x.IsObjectOf (IsReference allowed) := by
  refine ⟨_, eq_of_get?_entryOfFields hx, fun key item hitem => ?_⟩
  obtain ⟨⟨key, target⟩, hmem, heq⟩ := List.mem_map.1 hitem
  cases heq
  have he : ⟨.entry name key, target⟩ ∈ Edge.ofMap v name := by
    rw [Edge.ofMap_json]
    exact List.mem_map.2 ⟨_, hmem, rfl⟩
  exact isReference_reference (Edge.allowed_ofMap h he)

theorem WhenPresent.written_members (h : v.WhenPresent "members" (IsObjectOf (IsMember allowed))) :
    (obj ((Member.ofNodes (v.getD "members")).mapValues fun _ => Member.toNode)).IsObjectOf
      (IsMember allowed) := by
  refine ⟨_, rfl, fun key item hitem => ?_⟩
  obtain ⟨⟨key, m⟩, hmem, heq⟩ := List.mem_map.1 hitem
  cases heq
  simp only [Member.ofNodes, List.mem_filterMap, Option.map_eq_some_iff, Prod.mk.injEq] at hmem
  obtain ⟨⟨_, x⟩, hx, _, hm, rfl, rfl⟩ := hmem
  obtain ⟨fs, hfs, hx⟩ := Model.mem_fieldsD_getD_iff.1 hx
  obtain ⟨_, hfs', hall⟩ := h _ hfs
  cases hfs'
  exact (hall _ x hx).toNode hm

theorem Present.exists_member (h : v.Present name (IsMember allowed)) :
    ∃ m, Member.ofNode? (v.getD name) = some m ∧ v.ShowsMember name m := by
  obtain ⟨x, hx, hmember⟩ := h
  obtain ⟨m, hm, hof⟩ := hmember.exists_ofNode?
  rw [getD_eq_of_get? hx]
  exact ⟨m, hm, x, hx, hof⟩

theorem Present.written_member (h : v.Present name (IsMember allowed)) {m : Member}
    (hm : Member.ofNode? (v.getD name) = some m) : m.toNode.IsMember allowed := by
  obtain ⟨x, hx, hmember⟩ := h
  rw [getD_eq_of_get? hx] at hm
  exact hmember.toNode hm

end Json

namespace Kind

variable {k : Kind} {form : Form}

theorem Accepts.exists_form (h : k.Accepts allowed v) :
    ∃ form, Form.ofNode? v k = some form ∧ form.Shows v := by
  simp only [Form.ofNode?_eq]
  cases k with
  | simple k => exact ⟨.simple k, rfl, trivial⟩
  | list | set =>
    obtain ⟨m, hm, hshows⟩ := Json.Present.exists_member h
    dsimp only
    rw [hm]
    exact ⟨_, rfl, hshows⟩
  | map =>
    obtain ⟨key, hkey, hshows⟩ := h.1.exists_member
    obtain ⟨value, hvalue, hshows'⟩ := h.2.exists_member
    dsimp only
    rw [hkey, hvalue]
    exact ⟨_, rfl, hshows, hshows'⟩
  | struct => exact ⟨_, rfl, h.1.showsMembers, h.2.showsList⟩
  | union => exact ⟨_, rfl, h.showsMembers⟩
  | service =>
    obtain ⟨⟨_, hversion, text, rfl, -⟩, hlists, -⟩ := h
    have hshows {name : String} (hname : name ∈ ["operations", "resources", "errors"]) :=
      (hlists name hname).showsList
    refine ⟨_, rfl, ⟨text, ?_, hversion⟩, hshows (by simp), hshows (by simp), hshows (by simp)⟩
    rw [Json.getD_eq_of_get? hversion]
    rfl
  | operation =>
    obtain ⟨hfields, herrors⟩ := h
    have hshows {name : String} (hname : name ∈ ["input", "output"]) :=
      (hfields name hname).showsReference
    exact ⟨_, rfl, hshows (by simp), hshows (by simp), herrors.showsList⟩
  | resource =>
    obtain ⟨hmaps, hbound, hlists⟩ := h
    have hshowsMap {name : String} (hname : name ∈ ["identifiers", "properties"]) :=
      (hmaps name hname).showsMap
    have hshows {name : String}
        (hname : name ∈ ["operations", "collectionOperations", "resources"]) :=
      (hlists name hname).showsList
    exact ⟨_, rfl, hshowsMap (by simp), hshowsMap (by simp), fun l => (hbound l).showsReference,
      hshows (by simp), hshows (by simp), hshows (by simp)⟩

theorem Accepts.entries_service (h : Kind.service.Accepts allowed v)
    (hform : Form.ofNode? v .service = some form) :
    Kind.service.Accepts allowed (.obj (Json.writer.entries form)) := by
  rw [Form.ofNode?_eq] at hform
  cases hform
  obtain ⟨⟨_, hversion, text, rfl, hne⟩, hlists, -⟩ := h
  refine ⟨⟨.str text, ?_, text, rfl, hne⟩, ?_, ?_⟩
  · simp [Writer.entries_service, Json.getD_eq_of_get? hversion, Json.str?,
      Writer.entryOfText, Writer.entryOf, Fields.get?_cons, Json.writer]
  · intro name hname x hx
    refine (hlists name hname).written_list ?_
    rw [← hx, Json.get?_obj, Writer.entries_service]
    revert name
    simp [Fields.get?_append]
  · intro x hx
    have hwritten : Fields.get? (Json.writer.entryOfFields "rename"
        ((v.getD "rename").texts.mapValues fun _ => Json.writer.text)) "rename" = some x := by
      rw [← hx, Json.get?_obj, Writer.entries_service]
      simp [Fields.get?_append]
    exact ⟨_, Json.eq_of_get?_entryOfFields hwritten, fun _ _ _ => trivial⟩

theorem Accepts.entries_operation (h : Kind.operation.Accepts allowed v)
    (hform : Form.ofNode? v .operation = some form) :
    Kind.operation.Accepts allowed (.obj (Json.writer.entries form)) := by
  rw [Form.ofNode?_eq] at hform
  cases hform
  refine ⟨?_, ?_⟩
  · intro name hname x hx
    refine (h.1 name hname).written_reference ?_
    rw [← hx, Json.get?_obj, Writer.entries]
    revert name
    simp [Fields.get?_append]
  · intro x hx
    refine h.2.written_list ?_
    rw [← hx, Json.get?_obj, Writer.entries]
    simp [Fields.get?_append]

theorem Accepts.entries_resource (h : Kind.resource.Accepts allowed v)
    (hform : Form.ofNode? v .resource = some form) :
    Kind.resource.Accepts allowed (.obj (Json.writer.entries form)) := by
  rw [Form.ofNode?_eq] at hform
  cases hform
  refine ⟨?_, ?_, ?_⟩
  · intro name hname x hx
    refine (h.1 name hname).written_map ?_
    rw [← hx, Json.get?_obj, Writer.entries_resource]
    revert name
    simp [Fields.get?_append, Lifecycle.all, Lifecycle.name]
  · intro l x hx
    refine (h.2.1 l).written_reference ?_
    rw [← hx, Json.get?_obj, Writer.entries_resource]
    cases l <;> simp [Fields.get?_append, Lifecycle.all, Lifecycle.name]
  · intro name hname x hx
    refine (h.2.2 name hname).written_list ?_
    rw [← hx, Json.get?_obj, Writer.entries_resource]
    revert name
    simp [Fields.get?_append, Lifecycle.all, Lifecycle.name]

theorem Accepts.entries (h : k.Accepts allowed v) (hform : Form.ofNode? v k = some form) :
    k.Accepts allowed (.obj (Json.writer.entries form)) := by
  cases k with
  | simple k => trivial
  | list | set =>
    rw [Form.ofNode?_eq] at hform
    obtain ⟨m, hm, rfl⟩ := Option.map_eq_some_iff.1 hform
    exact ⟨m.toNode, rfl, Json.Present.written_member h hm⟩
  | map =>
    rw [Form.ofNode?_eq] at hform
    obtain ⟨key, hkey, hform⟩ := Option.bind_eq_some_iff.1 hform
    obtain ⟨value, hvalue, rfl⟩ := Option.map_eq_some_iff.1 hform
    exact ⟨⟨key.toNode, rfl, h.1.written_member hkey⟩,
      ⟨value.toNode, rfl, h.2.written_member hvalue⟩⟩
  | struct =>
    rw [Form.ofNode?_eq] at hform
    cases hform
    refine ⟨?_, fun x hx => h.2.written_list hx⟩
    rintro _ ⟨⟩
    exact h.1.written_members
  | union =>
    rw [Form.ofNode?_eq] at hform
    cases hform
    rintro _ ⟨⟩
    exact h.written_members
  | service => exact h.entries_service hform
  | operation => exact h.entries_operation hform
  | resource => exact h.entries_resource hform

theorem Accepts.congr (h : k.Accepts allowed v)
    (hget : ∀ name, name ∉ ["type", "traits"] → w.get? name = v.get? name) :
    k.Accepts allowed w := by
  have hpresent {p : Json → Prop} {name : String} (hname : name ∉ ["type", "traits"])
      (h : v.Present name p) : w.Present name p := by
    rwa [Json.Present, hget name hname]
  have hwhen {p : Json → Prop} {name : String} (hname : name ∉ ["type", "traits"])
      (h : v.WhenPresent name p) : w.WhenPresent name p := by
    rwa [Json.WhenPresent, hget name hname]
  cases k with
  | simple k => trivial
  | list | set => exact hpresent (by decide) h
  | map => exact ⟨hpresent (by decide) h.1, hpresent (by decide) h.2⟩
  | struct => exact ⟨hwhen (by decide) h.1, hwhen (by decide) h.2⟩
  | union => exact hwhen (by decide) h
  | service =>
    refine ⟨hpresent (by decide) h.1, ?_, hwhen (by decide) h.2.2⟩
    intro name hname
    exact hwhen (by revert name; decide) (h.2.1 name hname)
  | operation =>
    refine ⟨?_, hwhen (by decide) h.2⟩
    intro name hname
    exact hwhen (by revert name; decide) (h.1 name hname)
  | resource =>
    refine ⟨?_, ?_, ?_⟩
    · intro name hname
      exact hwhen (by revert name; decide) (h.1 name hname)
    · intro l
      exact hwhen (by cases l <;> decide) (h.2.1 l)
    · intro name hname
      exact hwhen (by revert name; decide) (h.2.2 name hname)

end Kind

namespace ShapeCheck

variable {scope : Scope} {id : String}

theorem isValid_report_iff : (report Json.display scope id v).isValid ↔ v.IsShape (scope.allows ·) := by
  rw [Report.isValid, report, List.isEmpty_iff, List.map_eq_nil_iff]
  exact checkJson_eq_nil_iff

end ShapeCheck

theorem Json.IsShape.exists_shape (h : v.IsShape allowed) (id : String) :
    ∃ s, Shape.ofNode? id v = some s ∧ s.Shows id v ∧ s.toNode.IsShape allowed := by
  obtain ⟨k, hk, haccepts⟩ := Json.isShape_iff.1 h
  obtain ⟨form, hform, hshows⟩ := haccepts.exists_form
  have hwritten := haccepts.entries hform
  obtain rfl := Form.kind_of_ofNode? hform
  refine ⟨⟨id, v.traits, form⟩, Shape.ofNode?_eq_some_iff.2 ⟨rfl, hk, rfl, hform⟩,
    ⟨rfl, hk, rfl, hshows⟩, Json.isShape_iff.2 ⟨form.kind, Shape.kind?_toNode _, ?_⟩⟩
  exact hwritten.congr fun name => Shape.get?_toNode _

theorem Json.statesKind_iff {k : Kind} : v.statesKind k ↔ v.kind? = some k := by
  rw [statesKind, decide_eq_true_eq, str?_getD_eq_some_iff, kind?_eq_some_iff]

namespace Model

variable {m : Model}

theorem selectKind_eq_filter (hd : m.entries.Distinct) (k : Kind) :
    m.selectKind (some k) = m.nodes.filter fun e => e.2.statesKind k := by
  rw [selectKind, select_single hd rfl]
  simp only [Predicate.allHold, Predicate.holds, Bool.and_true]

theorem map_id_shapesOfKind (hd : m.entries.Distinct)
    (h : ∀ id node, (id, node) ∈ m.nodes → ∃ s, Shape.ofNode? id node = some s) (k : Kind) :
    (m.shapesOfKind k).map Shape.id
      = Fields.keys (m.nodes.filter fun e => e.2.statesKind k) := by
  have hview : ∀ e ∈ m.entries, ((m.shape? e.1).filter fun s => s.kind = k).map Shape.id
      = if e.2.statesKind k && e.2.isObject then some e.1 else none := by
    rintro ⟨id, node⟩ hmem
    rw [shape?, hd.get?_of_mem hmem, Option.bind_some]
    cases hobject : node.isObject with
    | false =>
      have hnone : Shape.ofNode? id node = none := by
        rw [Option.eq_none_iff_forall_ne_some]
        intro s hs
        have hkind := (Shape.ofNode?_eq_some_iff.1 hs).2.1
        exact Bool.false_ne_true (hobject.symm.trans (Json.isObject_of_kind? hkind))
      simp [hnone]
    | true =>
      obtain ⟨s, hs⟩ := h id node (List.mem_filter.2 ⟨hmem, hobject⟩)
      obtain ⟨hid, hkind, -⟩ := Shape.ofNode?_eq_some_iff.1 hs
      by_cases hk : s.kind = k
      · have hstates : node.statesKind k := Json.statesKind_iff.2 (hk ▸ hkind)
        simp [hs, hk, hstates, hid]
      · have hstates : ¬ node.statesKind k := fun hstates =>
          hk (Option.some.inj (hkind.symm.trans (Json.statesKind_iff.1 hstates)))
        simp [hs, hk, hstates]
  calc
    (m.shapesOfKind k).map Shape.id
      = m.entries.filterMap
          fun e => ((m.shape? e.1).filter fun s => s.kind = k).map Shape.id := by
        rw [shapesOfKind, ids, Fields.keys, List.filterMap_map, List.map_filterMap]
        rfl
    _ = m.entries.filterMap fun e => if e.2.statesKind k && e.2.isObject then some e.1 else none :=
        List.filterMap_congr hview
    _ = Fields.keys (m.nodes.filter fun e => e.2.statesKind k) := by
        rw [nodes, List.filter_filter, Fields.keys, ← List.filterMap_eq_map, List.filterMap_filter]
        rfl

end Model

namespace Shape

/-- A node that a check accepts has a view, which shows the whole of it and is accepted in the same
scope. So in a model of such nodes the views of a kind are the nodes of that kind. -/
theorem accepted_node_is_shown (scope : Scope) :
    (∀ id v, (ShapeCheck.report Json.display scope id v).isValid →
      ∃ s, ofNode? id v = some s ∧ s.Shows id v ∧ (ShapeCheck.report Json.display scope id s.toNode).isValid)
    ∧ ∀ m : Model, m.entries.Distinct →
      (∀ id node, (id, node) ∈ m.nodes → (ShapeCheck.report Json.display scope id node).isValid) →
      ∀ type : String, ((Kind.ofName? type).elim [] fun k => (m.shapesOfKind k).map Shape.id)
        = Fields.keys (m.selectKind (Kind.ofName? type)) := by
  simp only [ShapeCheck.isValid_report_iff]
  refine ⟨fun id v h => h.exists_shape id, fun m hd hvalid type => ?_⟩
  cases Kind.ofName? type with
  | none => rfl
  | some k =>
    have hviews : ∀ id node, (id, node) ∈ m.nodes → ∃ s, ofNode? id node = some s := by
      intro id node hmem
      obtain ⟨s, hs, -⟩ := (hvalid id node hmem).exists_shape id
      exact ⟨s, hs⟩
    rw [Option.elim_some, Model.map_id_shapesOfKind hd hviews, Model.selectKind_eq_filter hd]

def pier : Json :=
  .obj [("create", .str "Moor"), ("type", .str "resource"), ("errors", .int 1),
    ("identifiers", .obj [("b", .obj [("target", .str "Text")]), ("a", .str "Text")]),
    ("operations", .arr [.obj [("target", .str "Moor")], .str "Moor"])]

theorem pier_is_shown :
    (ShapeCheck.report Json.display (some ["Text", "Moor"]) "Pier" pier).isValid
      ∧ (∃ s, ofNode? "Pier" pier = some s ∧ s.Shows "Pier" pier
        ∧ (ShapeCheck.report Json.display (some ["Text", "Moor"]) "Pier" s.toNode).isValid)
      ∧ Model.shop.entries.Distinct
      ∧ (∀ id node, (id, node) ∈ Model.shop.nodes → (ShapeCheck.report Json.display none id node).isValid)
      ∧ Fields.keys (Model.shop.selectKind (Kind.ofName? "union")) = ["Choice"] := by
  have hpier : (ShapeCheck.report Json.display (some ["Text", "Moor"]) "Pier" pier).isValid := by decide
  have hdistinct : Model.shop.entries.Distinct := by
    unfold Fields.Distinct
    decide
  have hshop : ∀ e ∈ Model.shop.nodes, (ShapeCheck.report Json.display none e.1 e.2).isValid := by decide
  have hnodes := fun id node hmem => hshop (id, node) hmem
  obtain ⟨hshown, -⟩ := accepted_node_is_shown (some ["Text", "Moor"])
  obtain ⟨-, hkinds⟩ := accepted_node_is_shown none
  refine ⟨hpier, hshown "Pier" pier hpier, hdistinct, hnodes, ?_⟩
  rw [← hkinds Model.shop hdistinct hnodes]
  decide

end Shape

end ShapeGraph
