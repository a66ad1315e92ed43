import ShapeGraph.Proofs.Fields
import ShapeGraph.Proofs.Model.Lookup
import ShapeGraph.Proofs.Reading
import ShapeGraph.Shape.Reading

namespace ShapeGraph

open Layered

variable {β τ : Type} {name key : String}

theorem Form.read_congr {α : Type} [Layered α] {traits : α → τ} {v v' : α}
    (h : ∀ name, name ∉ ["type", "traits"] → get? v name = get? v' name) (k : Kind) :
    read traits v k = read traits v' k := by
  cases k with
  | simple k => rfl
  | resource =>
    have hbound (l : Lifecycle) : get? v l.name = get? v' l.name := h _ (by cases l <;> decide)
    simp (disch := decide) only [read, mapOf, namedOf, targetsOf, itemsOf, hbound, h]
  | _ => simp (disch := decide) only [read, mapOf, namedOf, targetsOf, itemsOf, h]

namespace Writer

/-- Nodes are read as they are written. -/
structure Faithful [Layered β] (W : Writer τ β) (traits : β → τ) : Prop where
  layer_text : ∀ s, layer (W.text s) = .text s
  layer_list : ∀ xs, layer (W.list xs) = .list xs
  layer_object : ∀ fs, layer (W.object fs) = .mapping (fs.map fun (key, x) => (.text key, x))
  traits_object : ∀ fs t, Fields.get? fs "traits" = W.traits? t → traits (W.object fs) = t

variable (W : Writer τ β)

@[simp] theorem get?_entryOf_self (name : String) (x : Option β) :
    Fields.get? (entryOf name x) name = x := by
  cases x with
  | none => rfl
  | some x => exact if_pos rfl

@[simp] theorem get?_entryOf_of_ne (h : name ≠ key) (x : Option β) :
    Fields.get? (entryOf name x) key = none := by
  cases x with
  | none => rfl
  | some x => exact if_neg h

@[simp] theorem get?_entryOfText_of_ne (h : name ≠ key) (text : Option String) :
    Fields.get? (W.entryOfText name text) key = none :=
  get?_entryOf_of_ne h _

@[simp] theorem get?_entryOfTarget_of_ne (h : name ≠ key) (target : Option String) :
    Fields.get? (W.entryOfTarget name target) key = none :=
  get?_entryOf_of_ne h _

@[simp] theorem get?_entryOfTargets_of_ne (h : name ≠ key) (targets : List String) :
    Fields.get? (W.entryOfTargets name targets) key = none := by
  cases targets with
  | nil => rfl
  | cons target targets => exact if_neg h

@[simp] theorem get?_entryOfFields_of_ne (h : name ≠ key) (fs : Fields β) :
    Fields.get? (W.entryOfFields name fs) key = none := by
  cases fs with
  | nil => rfl
  | cons f fs => exact if_neg h

theorem entries_service (s : ServiceView) : W.entries (.service s)
    = W.entryOfText "version" s.version ++ W.entryOfTargets "operations" s.operations
      ++ W.entryOfTargets "resources" s.resources ++ W.entryOfTargets "errors" s.errors
      ++ W.entryOfFields "rename" (s.rename.mapValues fun _ => W.text) := rfl

theorem map_lifecycle (r : ResourceView) :
    (r.lifecycle.map fun (l, target) => (l.name, W.reference target))
      = Lifecycle.all.flatMap fun l => W.entryOfTarget l.name (r.bound l) := by
  rw [ResourceView.lifecycle, List.map_filterMap, List.filterMap_eq_flatMap_toList]
  apply List.flatMap_congr
  intro l _
  cases r.bound l <;> rfl

theorem entries_resource (r : ResourceView) : W.entries (.resource r)
    = W.entryOfFields "identifiers" (r.identifiers.mapValues fun _ => W.reference)
      ++ W.entryOfFields "properties" (r.properties.mapValues fun _ => W.reference)
      ++ Lifecycle.all.flatMap (fun l => W.entryOfTarget l.name (r.bound l))
      ++ W.entryOfTargets "operations" r.operations
      ++ W.entryOfTargets "collectionOperations" r.collectionOperations
      ++ W.entryOfTargets "resources" r.resources := by
  rw [← W.map_lifecycle]
  rfl

theorem get?_traits_entries (form : Form τ) : Fields.get? (W.entries form) "traits" = none := by
  cases form with
  | resource r => simp [entries_resource, Lifecycle.all, Lifecycle.name, Fields.get?_append]
  | _ => simp [entries, Fields.get?_cons, Fields.get?_append]

end Writer

namespace Writer.Faithful

variable [Layered β] {W : Writer τ β} {traits : β → τ} (h : W.Faithful traits)

include h

theorem text?_text (s : String) : text? (W.text s) = some s := by
  rw [text?, h.layer_text]
  rfl

theorem named_object (fs : Fields β) : named (W.object fs) = fs := by
  rw [named, Layered.entries, h.layer_object, Layer.entries, List.filterMap_map]
  exact List.filterMap_some

theorem get?_object (fs : Fields β) (name : String) : get? (W.object fs) name = fs.get? name := by
  rw [get?, h.named_object]

theorem target?_reference (target : String) : target? (W.reference target) = some target := by
  have htext : text? (W.reference target) = none := by
    rw [text?, Writer.reference, h.layer_object]
    rfl
  have hget : get? (W.reference target) "target" = some (W.text target) := by
    rw [Writer.reference, h.get?_object]
    rfl
  rw [target?, htext, Option.none_or, memberTarget?, hget, Option.bind_some, h.text?_text]

theorem text?_entryOfText (name : String) (text : Option String) :
    (Fields.get? (W.entryOfText name text) name).bind text? = text := by
  rw [Writer.entryOfText, Writer.get?_entryOf_self]
  cases text with
  | none => rfl
  | some s => exact h.text?_text s

theorem target?_entryOfTarget (name : String) (target : Option String) :
    (Fields.get? (W.entryOfTarget name target) name).bind target? = target := by
  rw [Writer.entryOfTarget, Writer.get?_entryOf_self]
  cases target with
  | none => rfl
  | some s => exact h.target?_reference s

theorem targets_entryOfTargets (name : String) (targets : List String) :
    (((Fields.get? (W.entryOfTargets name targets) name).map items).getD []).filterMap target?
      = targets := by
  cases targets with
  | nil => rfl
  | cons target targets =>
    simp only [Writer.entryOfTargets, Fields.get?_cons, if_pos, Option.map_some, Option.getD_some,
      items, h.layer_list, Layer.items, List.filterMap_map]
    refine (List.filterMap_congr ?_).trans List.filterMap_some
    intro target _
    exact h.target?_reference target

theorem filterMap_named_object {α : Type} {read : β → Option α} {write : α → β}
    (hread : ∀ x, read (write x) = some x) (xs : Fields α) :
    (named (W.object (xs.mapValues fun _ => write))).filterMap
      (fun (key, x) => (read x).map fun y => (key, y)) = xs := by
  rw [h.named_object]
  refine (Fields.filterMap_mapValues ?_).trans List.filterMap_some
  intro e _
  simp only [hread]
  rfl

theorem map_entryOfFields {α : Type} {read : β → Option α} {write : α → β}
    (hread : ∀ x, read (write x) = some x) (name : String) (xs : Fields α) :
    (((Fields.get? (W.entryOfFields name (xs.mapValues fun _ => write)) name).map
      named).getD []).filterMap (fun (key, x) => (read x).map fun y => (key, y)) = xs := by
  cases xs with
  | nil => rfl
  | cons x xs =>
    rw [show Fields.get? (W.entryOfFields name (Fields.mapValues (fun _ => write) (x :: xs))) name
      = some (W.object (Fields.mapValues (fun _ => write) (x :: xs))) from if_pos rfl]
    exact h.filterMap_named_object hread (x :: xs)

theorem read_member (m : Member τ) : Member.read traits (W.member m) = some m := by
  have htarget : get? (W.member m) "target" = some (W.text m.target) := by
    rw [Writer.member, h.get?_object]
    rfl
  have htraits : traits (W.member m) = m.traits := by
    apply h.traits_object
    rw [Fields.get?_cons, if_neg (by decide), Writer.get?_entryOf_self]
  rw [Member.read, memberTarget?, htarget, Option.bind_some, h.text?_text, htraits]
  rfl

theorem read_members (ms : Fields (Member τ)) :
    (named (W.members ms)).filterMap
      (fun (key, x) => (Member.read traits x).map fun m => (key, m)) = ms :=
  h.filterMap_named_object h.read_member ms

theorem read_entries (form : Form τ) :
    Form.read traits (W.object (W.entries form)) form.kind = some form := by
  have hrename := h.map_entryOfFields h.text?_text
  have hmap := h.map_entryOfFields h.target?_reference
  cases form with
  | simple k => rfl
  | list m | set m | map k v =>
    simp [Form.read, Form.kind, Writer.entries, h.get?_object, Fields.get?_cons, h.read_member]
  | struct ms mixins | union ms =>
    simp [Form.read, Form.kind, Writer.entries, mapOf, namedOf, targetsOf, itemsOf, h.get?_object,
      Fields.get?_cons, h.read_members, h.targets_entryOfTargets]
  | service s =>
    simp [Form.read, Form.kind, Writer.entries_service, mapOf, namedOf, targetsOf, itemsOf,
      h.get?_object, Fields.get?_append, h.text?_entryOfText, h.targets_entryOfTargets, hrename]
  | operation o =>
    simp [Form.read, Form.kind, Writer.entries, targetsOf, itemsOf, h.get?_object,
      Fields.get?_append, h.target?_entryOfTarget, h.targets_entryOfTargets]
  | resource r =>
    -- a view has its lifecycle as a function, so it is read back for any of its names at once
    have hbound (l : Lifecycle) :
        (get? (W.object (W.entries (.resource r))) l.name).bind target? = r.bound l := by
      rw [h.get?_object]
      cases l <;> simp [Writer.entries_resource, Lifecycle.all, Lifecycle.name,
        Fields.get?_append, h.target?_entryOfTarget]
    simp only [Form.read, Form.kind, hbound]
    simp [Writer.entries_resource, Lifecycle.all, Lifecycle.name, mapOf, namedOf, targetsOf,
      itemsOf, h.get?_object, Fields.get?_append, h.targets_entryOfTargets, hmap]

theorem get?_shape (s : Shape τ) (hname : name ∉ ["type", "traits"]) :
    get? (W.shape s) name = Fields.get? (W.entries s.form) name := by
  simp only [List.mem_cons, List.not_mem_nil, or_false, not_or] at hname
  rw [Writer.shape, h.get?_object, List.cons_append, Fields.get?_cons, if_neg (Ne.symm hname.1),
    Fields.get?_append, Writer.get?_entryOf_of_ne (Ne.symm hname.2), Option.or_none]

theorem kind?_shape (s : Shape τ) : kind? (W.shape s) = some s.kind := by
  have htype : get? (W.shape s) "type" = some (W.text s.kind.name) := by
    rw [Writer.shape, h.get?_object]
    rfl
  rw [kind?, htype, Option.bind_some, h.text?_text, Option.bind_some, Kind.ofName?_name]

theorem traits_shape (s : Shape τ) : traits (W.shape s) = s.traits := by
  apply h.traits_object
  rw [List.cons_append, Fields.get?_cons, if_neg (by decide), Fields.get?_append,
    W.get?_traits_entries, Option.none_or, Writer.get?_entryOf_self]

theorem read_shape (s : Shape τ) : Shape.read traits s.id (W.shape s) = some s := by
  have hform : Form.read traits (W.shape s) s.kind = some s.form := by
    rw [Form.read_congr fun name hname => (h.get?_shape s hname).trans (h.get?_object _ name).symm]
    exact h.read_entries s.form
  exact Shape.read_eq_some_iff.2 ⟨rfl, h.kind?_shape s, h.traits_shape s, hform⟩

end Writer.Faithful

theorem Json.faithful : Json.writer.Faithful Json.traits where
  layer_text _ := rfl
  layer_list _ := rfl
  layer_object _ := rfl
  traits_object fs t h := by
    have htraits : (Json.writer.object fs).traits = ((fs.get? "traits").getD .null).fieldsD := rfl
    rw [htraits, h]
    cases t <;> rfl

theorem Built.faithful {α : Type} [Layered α] :
    (writer : Writer _ (Built α)).Faithful Layered.traits where
  layer_text _ := rfl
  layer_list _ := rfl
  layer_object _ := rfl
  traits_object fs t h := by
    have hnamed : named (writer.object fs) = fs := by
      rw [named, entries]
      exact (List.filterMap_map ..).trans List.filterMap_some
    rw [Layered.traits, entriesOf, Layered.get?, hnamed, h]
    cases t <;> rfl

theorem Shape.ofNode?_toNode (s : Shape) : ofNode? s.id s.toNode = some s :=
  Json.faithful.read_shape s

theorem Shape.kind?_toNode (s : Shape) : s.toNode.kind? = some s.kind := Json.faithful.kind?_shape s

theorem Shape.traits_toNode (s : Shape) : s.toNode.traits = s.traits := Json.faithful.traits_shape s

theorem Shape.get?_toNode (s : Shape) (h : name ∉ ["type", "traits"]) :
    s.toNode.get? name = Fields.get? (Json.writer.entries s.form) name := by
  rw [← Layered.get?_json]
  exact Json.faithful.get?_shape s h

theorem Shape.id_of_mapTraits {ε σ : Type} {f : τ → Except ε σ} {s : Shape τ} {s' : Shape σ}
    (h : s.mapTraits f = .ok s') : s'.id = s.id := by
  obtain ⟨form, -, h⟩ := bind_eq_ok_iff.1 h
  obtain ⟨traits, -, h⟩ := bind_eq_ok_iff.1 h
  cases h
  rfl

theorem Model.shape?_withEntries_set (m : Model) (entries : Fields Json) (id : String)
    (node : Json) : (m.withEntries (entries.set id node)).shape? id = Shape.ofNode? id node := by
  rw [shape?, entries_withEntries, Fields.get?_set_self, Option.bind_some]

namespace Shape

/-- Whatever value a view was read from, the view written as a node is read as itself, its traits
being any values. Where they are data, so it is as a shape of a model. -/
theorem reads_as_itself (id : String) :
    (∀ (g : Graph) (v : Built (Fin g.size)) s,
      read Layered.traits id v = some s →
        read Layered.traits id (Built.writer.shape s) = some s)
    ∧ ∀ s : Shape, ((∃ v, ofNode? id v = some s)
        ∨ ∃ (g : Graph) (v : Fin g.size) (s' : Shape _),
          g.shape? id v = some s' ∧ g.dataShape s' = .ok s) →
      ofNode? id s.toNode = some s
        ∧ ∀ (m : Model) (entries : Fields Json), m.shapes = some (.obj entries) →
          ∃ m', m.addShape id s.toNode = .ok m' ∧ m'.shape? id = some s := by
  constructor
  · intro g v s hs
    obtain ⟨rfl, -⟩ := read_eq_some_iff.1 hs
    exact Built.faithful.read_shape s
  · intro s h
    have hid : s.id = id := by
      rcases h with ⟨v, hv⟩ | ⟨g, v, s', hv, hdata⟩
      · exact (ofNode?_eq_some_iff.1 hv).1
      · exact (id_of_mapTraits hdata).trans (read_eq_some_iff.1 hv).1
    have hself : ofNode? id s.toNode = some s := hid ▸ ofNode?_toNode s
    refine ⟨hself, ?_⟩
    intro m entries hs
    refine ⟨m.withEntries (Fields.set entries id s.toNode), by rw [Model.addShape, hs], ?_⟩
    rw [Model.shape?_withEntries_set, hself]

def crate : Json :=
  .obj [("traits", .arr []),
    ("members", .obj
      [("a", .obj [("target", .str ""), ("traits", .obj [("required", .null)])]), ("b", .int 1)]),
    ("mixins", .arr [.null, .str "Base", .obj [("target", .str "Base")]]),
    ("type", .str "structure")]

def crateView : Shape :=
  ⟨"Crate", [], .struct [("a", ⟨"", [("required", .null)]⟩)] ["Base", "Base"]⟩

def rack : Graph :=
  .ofCells #[.mapping [(.text "type", 1), (.text "member", 2), (.text "traits", 4)], .text "list",
    .mapping [(.text "target", 3)], .text "", .mapping [(.int 1, 5)], .callable "len"]

theorem crate_reads_as_itself : ofNode? "Crate" crate = some crateView
    ∧ ofNode? "Crate" crateView.toNode = some crateView
    ∧ (∃ m', Model.addShape ⟨.str "2.0", none, some (.obj [])⟩ "Crate" crateView.toNode = .ok m'
      ∧ m'.shape? "Crate" = some crateView)
    ∧ ∃ s, read Layered.traits "Rack" (Built.old (⟨0, by decide⟩ : Fin rack.size)) = some s
      ∧ s.traits.map Prod.fst = [.int 1]
      ∧ read Layered.traits "Rack" (Built.writer.shape s) = some s := by
  have h : ofNode? "Crate" crate = some crateView := by rfl
  obtain ⟨hself, hmodel⟩ := (reads_as_itself "Crate").2 crateView (.inl ⟨crate, h⟩)
  refine ⟨h, hself, hmodel _ [] rfl, _, rfl, rfl, ?_⟩
  exact (reads_as_itself "Rack").1 rack (.old ⟨0, by decide⟩) _ rfl

end Shape

end ShapeGraph
