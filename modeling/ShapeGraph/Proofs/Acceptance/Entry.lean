import ShapeGraph.Proofs.View.Node
import ShapeGraph.Shape.Check

namespace ShapeGraph

namespace Json

def Present (v : Json) (name : String) (p : Json → Prop) : Prop :=
  ∃ x, v.get? name = some x ∧ p x

/-- `p` holds of the entry if it is there. A null is there. -/
def WhenPresent (v : Json) (name : String) (p : Json → Prop) : Prop :=
  ∀ x, v.get? name = some x → p x

def IsArrayOf (p : Json → Prop) (v : Json) : Prop := ∃ items, v = .arr items ∧ ∀ x ∈ items, p x

def IsObjectOf (p : Json → Prop) (v : Json) : Prop :=
  ∃ fs, v = .obj fs ∧ ∀ name x, (name, x) ∈ fs → p x

def IsText (v : Json) : Prop := ∃ s, v = .str s

def IsNonEmptyText (v : Json) : Prop := ∃ s, v = .str s ∧ s ≠ ""

variable {v : Json} {name : String}

theorem isObject_iff : v.isObject ↔ ∃ fs, v = .obj fs := by
  cases v <;> simp [isObject, fields?]

theorem get?_eq_some_iff {x : Json} :
    v.get? name = some x ↔ ∃ fs, v = .obj fs ∧ Fields.get? fs name = some x := by
  cases v <;> simp [get?, fields?]

theorem getD_eq_of_get? {x : Json} (h : v.get? name = some x) : v.getD name = x := by
  simp [getD, h]

theorem getD_eq_iff {x : Json} (hx : x ≠ .null) : v.getD name = x ↔ v.get? name = some x := by
  cases h : v.get? name with
  | none => simp [getD, h, Ne.symm hx]
  | some y => simp [getD, h]

theorem str?_eq_some_iff {s : String} : v.str? = some s ↔ v = .str s := by
  cases v <;> simp [str?]

theorem str?_getD_eq_some_iff {s : String} :
    (v.getD name).str? = some s ↔ v.get? name = some (.str s) := by
  rw [str?_eq_some_iff, getD_eq_iff (by simp)]

end Json

theorem Layered.isBlank_json_iff {v : Json} : (layer v).isBlank ↔ v = .null ∨ v = .str "" := by
  cases v with
  | str s => simp [layer, Json.layer, Layer.isBlank]
  | _ => simp [layer, Json.layer, Layer.isBlank]

namespace ShapeCheck

open Layered

variable {v : Json} {name : String}

theorem given?_eq_some_iff {x : Json} :
    given? v name = some x ↔ v.get? name = some x ∧ x ≠ .null ∧ x ≠ .str "" := by
  rw [given?, Option.filter_eq_some_iff, get?_json, Bool.not_eq_true', ← Bool.not_eq_true,
    isBlank_json_iff, not_or]

theorem onEntry_eq_nil_iff {check : Json → Problems} :
    onEntry v name check = [] ↔ v.WhenPresent name fun x => check x = [] := by
  cases h : v.get? name <;> simp [onEntry, Json.WhenPresent, h]

variable {scope : Scope} {id field path : String}

@[simp] theorem checkReferenceMap_obj (fs : Fields Json) :
    checkReferenceMap scope id field (Json.obj fs)
      = fs.flatMap fun (key, x) => checkReference scope (id ++ "." ++ field ++ "." ++ key) x :=
  List.flatMap_map _ _ fs

@[simp] theorem checkMemberMap_obj (a : Aggregate) (fs : Fields Json) :
    checkMemberMap scope id a (Json.obj fs)
      = fs.flatMap fun (name, x) => checkMember scope (id ++ "." ++ name) x :=
  List.flatMap_map _ _ fs

theorem checkMember_obj (fs : Fields Json) : checkMember scope path (Json.obj fs) =
    match given? (Json.obj fs) "target" with
    | none => [⟨path, .targetMissing⟩]
    | some (.str target) => checkTarget scope path target
    | some _ => [⟨path, .targetType⟩] := by
  have hlayer : layer (Json.obj fs) = .mapping (fs.map fun (key, x) => (.text key, x)) := rfl
  rw [checkMember, hlayer]
  cases given? (Json.obj fs) "target" with
  | none => rfl
  | some x => cases x <;> rfl

theorem checkVersion_json (v : Json) : checkVersion id v =
    match given? v "version" with
    | none => [⟨id ++ ".version", .versionMissing⟩]
    | some (.str _) => []
    | some _ => [⟨id ++ ".version", .versionType⟩] := by
  rw [checkVersion]
  cases given? v "version" with
  | none => rfl
  | some x => cases x <;> rfl

theorem checkJson_obj (fs : Fields Json) : checkJson scope id (.obj fs) =
    match given? (Json.obj fs) "type" with
    | none => [⟨id, .typeMissing⟩]
    | some type =>
      match type.str?.bind Kind.ofName? with
      | some k => checkKind scope id (Json.obj fs) k
      | none => [⟨id, .typeUnknown type.display⟩] := by
  have hlayer : layer (Json.obj fs) = .mapping (fs.map fun (key, x) => (.text key, x)) := rfl
  rw [checkJson, check, hlayer]
  cases given? (Json.obj fs) "type" with
  | none => rfl
  | some type =>
    cases hk : type.str?.bind Kind.ofName? <;> simp only [text?_json, hk]

end ShapeCheck

end ShapeGraph
