import ShapeGraph.Value.Graph

namespace ShapeGraph

/-- Values that are looked at one level at a time. -/
class Layered (α : Type) where
  layer : α → Layer α

instance Json.layered : Layered Json := ⟨Json.layer⟩

instance Graph.layered (g : Graph) : Layered (Fin g.size) := ⟨g.cell⟩

namespace Layered

variable {α : Type} [Layered α]

def text? (v : α) : Option String := (layer v).text?

def items (v : α) : List α := (layer v).items

def entries (v : α) : List (Key × α) := (layer v).entries

def named (v : α) : Fields α :=
  (entries v).filterMap fun (key, x) => key.text?.map fun name => (name, x)

def unnamed (v : α) : List α :=
  (entries v).filterMap fun (key, x) => if key.text?.isNone then some x else none

def get? (v : α) (name : String) : Option α := (named v).get? name

def itemsOf (v : α) (name : String) : List α := ((get? v name).map items).getD []

def entriesOf (v : α) (name : String) : List (Key × α) := ((get? v name).map entries).getD []

def namedOf (v : α) (name : String) : Fields α := ((get? v name).map named).getD []

def unnamedOf (v : α) (name : String) : List α := ((get? v name).map unnamed).getD []

/-- An entry that is given neither as null nor as the empty text. -/
def given? (v : α) (name : String) : Option α := (get? v name).filter fun x => !(layer x).isBlank

theorem get?_eq_none {v : α} (h : entries v = []) (name : String) : get? v name = none := by
  rw [get?, named, h]
  rfl

theorem given?_eq_none {v : α} (h : entries v = []) (name : String) : given? v name = none := by
  rw [given?, get?_eq_none h]
  rfl

theorem bind_given? {β : Type} {read : α → Option β} (h : ∀ x, (layer x).isBlank → read x = none)
    (v : α) (name : String) : (given? v name).bind read = (get? v name).bind read := by
  rw [given?]
  cases get? v name with
  | none => rfl
  | some x => cases hx : (layer x).isBlank <;> simp [Option.filter, hx, h x]

theorem text?_of_isBlank {x : α} (h : (layer x).isBlank) : text? x = none ∨ text? x = some "" := by
  rw [text?]
  cases hx : layer x with
  | text s => exact .inr (congrArg some (by simpa [hx, Layer.isBlank] using h))
  | _ => exact .inl rfl

section

variable (v : Json) (name : String)

theorem layer_json : layer v = v.layer := rfl

@[simp] theorem text?_json : text? v = v.str? := by
  cases v <;> rfl

@[simp] theorem isMapping_json : (layer v).isMapping = v.isObject := by
  cases v <;> rfl

@[simp] theorem items_json : items v = v.items?.getD [] := by
  cases v <;> rfl

theorem entries_json : entries v = v.fieldsD.map fun (key, x) => (.text key, x) := by
  cases v <;> rfl

@[simp] theorem named_json : named v = v.fieldsD := by
  rw [named, entries_json, List.filterMap_map]
  exact List.filterMap_some

@[simp] theorem unnamed_json : unnamed v = [] := by
  rw [unnamed, entries_json, List.filterMap_map, List.filterMap_eq_nil_iff]
  intro e _
  rfl

@[simp] theorem get?_json : get? v name = v.get? name := by
  rw [get?, named_json]
  cases v <;> rfl

theorem given?_json : given? v name
    = if (layer (v.getD name)).isBlank then none else some (v.getD name) := by
  rw [given?, get?_json, Json.getD]
  cases v.get? name with
  | none => rfl
  | some x => cases hx : (layer x).isBlank <;> simp [Option.filter, hx]

theorem itemsOf_json : itemsOf v name = (v.getD name).items?.getD [] := by
  rw [itemsOf, get?_json, Json.getD]
  cases v.get? name with
  | none => rfl
  | some x => exact items_json x

theorem namedOf_json : namedOf v name = (v.getD name).fieldsD := by
  rw [namedOf, get?_json, Json.getD]
  cases v.get? name with
  | none => rfl
  | some x => exact named_json x

theorem unnamedOf_json : unnamedOf v name = [] := by
  rw [unnamedOf, get?_json]
  cases v.get? name with
  | none => rfl
  | some x => exact unnamed_json x

end

end Layered

end ShapeGraph
