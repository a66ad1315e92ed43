import Mathlib.Data.List.Enum
import ShapeGraph.Proofs.Acceptance.Entry

/-!
What it is for a node to be a shape, and that the check of a shape finds nothing exactly then.
`allowed` holds of the ids that references may name.
-/

namespace ShapeGraph

namespace Json

variable (allowed : String → Prop)

def IsReference (v : Json) : Prop :=
  ∃ target, allowed target ∧ (v = .str target ∨ v.get? "target" = some (.str target))

def IsMember (v : Json) : Prop :=
  ∃ target, allowed target ∧ target ≠ "" ∧ v.get? "target" = some (.str target)

end Json

open Json (IsArrayOf IsObjectOf IsReference IsMember IsNonEmptyText)

def Kind.Accepts (allowed : String → Prop) (v : Json) : Kind → Prop
  | .simple _ => True
  | .list | .set => v.Present "member" (IsMember allowed)
  | .map => v.Present "key" (IsMember allowed) ∧ v.Present "value" (IsMember allowed)
  | .struct =>
    v.WhenPresent "members" (IsObjectOf (IsMember allowed))
      ∧ v.WhenPresent "mixins" (IsArrayOf (IsReference allowed))
  | .union => v.WhenPresent "members" (IsObjectOf (IsMember allowed))
  | .service =>
    v.Present "version" IsNonEmptyText
      ∧ (∀ name ∈ ["operations", "resources", "errors"],
        v.WhenPresent name (IsArrayOf (IsReference allowed)))
      ∧ v.WhenPresent "rename" (IsObjectOf fun _ => True)
  | .operation =>
    (∀ name ∈ ["input", "output"], v.WhenPresent name (IsReference allowed))
      ∧ v.WhenPresent "errors" (IsArrayOf (IsReference allowed))
  | .resource =>
    (∀ name ∈ ["identifiers", "properties"],
        v.WhenPresent name (IsObjectOf (IsReference allowed)))
      ∧ (∀ l : Lifecycle, v.WhenPresent l.name (IsReference allowed))
      ∧ ∀ name ∈ ["operations", "collectionOperations", "resources"],
        v.WhenPresent name (IsArrayOf (IsReference allowed))

/-- A shape is an object that states one of the kinds and meets it. -/
def Json.IsShape (allowed : String → Prop) (v : Json) : Prop :=
  ∃ k : Kind, v.get? "type" = some (.str k.name) ∧ k.Accepts allowed v

theorem Lifecycle.mem_all (l : Lifecycle) : l ∈ Lifecycle.all := by
  cases l <;> decide

theorem Kind.name_ne_empty (k : Kind) : k.name ≠ "" := by
  rcases k with k | _ <;> (try cases k) <;> decide

theorem Json.kind?_eq_some_iff {v : Json} {k : Kind} :
    v.kind? = some k ↔ v.get? "type" = some (.str k.name) := by
  simp only [Json.kind?_eq, Option.bind_eq_some_iff, Json.str?_getD_eq_some_iff,
    Kind.ofName?_eq_some_iff]
  simp

theorem Json.isShape_iff {allowed : String → Prop} {v : Json} :
    v.IsShape allowed ↔ ∃ k, v.kind? = some k ∧ k.Accepts allowed v := by
  simp only [Json.IsShape, Json.kind?_eq_some_iff]

theorem Json.IsShape.isObject {allowed : String → Prop} {v : Json} (h : v.IsShape allowed) :
    v.isObject := by
  obtain ⟨k, hk, -⟩ := h
  obtain ⟨fs, rfl, -⟩ := Json.get?_eq_some_iff.1 hk
  rfl

theorem Json.target?_eq_some_iff {v : Json} {target : String} :
    v.target? = some target ↔ v = .str target ∨ v.get? "target" = some (.str target) := by
  rw [Json.target?_eq, ← Json.str?_getD_eq_some_iff, ← Json.str?_eq_some_iff]
  cases v <;> simp [Json.str?, Json.getD, Json.get?, Json.fields?]

namespace ShapeCheck

open Layered

variable {scope : Scope} {v : Json}

@[simp] theorem checkTarget_eq_nil_iff {path target : String} :
    checkTarget scope path target = [] ↔ scope.allows target := by
  simp [checkTarget]

@[simp] theorem checkReference_eq_nil_iff {path : String} :
    checkReference scope path v = [] ↔ v.IsReference (scope.allows ·) := by
  simp only [checkReference, target?_json, IsReference, ← Json.target?_eq_some_iff]
  cases h : v.target? <;> simp

@[simp] theorem checkReferences_eq_nil_iff {path : String} {items : List Json} :
    checkReferences scope path items = [] ↔ ∀ x ∈ items, x.IsReference (scope.allows ·) := by
  simp [checkReferences, List.flatMap_eq_nil_iff, List.forall_mem_iff_getElem]

@[simp] theorem checkReferenceList_eq_nil_iff {id field : String} :
    checkReferenceList scope id field v = [] ↔ v.IsArrayOf (IsReference (scope.allows ·)) := by
  cases v with
  | arr items =>
    rw [show checkReferenceList scope id field (Json.arr items)
      = checkReferences scope (id ++ "." ++ field) items from rfl]
    simp [IsArrayOf]
  | _ => simp [checkReferenceList, layer, Json.layer, IsArrayOf]

@[simp] theorem checkReferenceMap_eq_nil_iff {id field : String} :
    checkReferenceMap scope id field v = [] ↔ v.IsObjectOf (IsReference (scope.allows ·)) := by
  cases v with
  | obj fs => simp [IsObjectOf, List.flatMap_eq_nil_iff]
  | _ => simp [checkReferenceMap, layer, Json.layer, IsObjectOf]

@[simp] theorem checkMember_eq_nil_iff {path : String} :
    checkMember scope path v = [] ↔ v.IsMember (scope.allows ·) := by
  cases v with
  | obj fs =>
    rw [checkMember_obj]
    split
    · next h =>
      simp only [List.cons_ne_nil, false_iff]
      rintro ⟨target, -, hne, ht⟩
      simp [given?_eq_some_iff.2 ⟨ht, by simp, by simpa using hne⟩] at h
    · next target h =>
      obtain ⟨ht, -, hne⟩ := given?_eq_some_iff.1 h
      simp_all [IsMember]
    · next x hx h =>
      obtain ⟨ht, -, -⟩ := given?_eq_some_iff.1 h
      simp only [List.cons_ne_nil, false_iff]
      rintro ⟨target, -, -, ht'⟩
      rw [ht] at ht'
      exact hx target (Option.some.inj ht')
  | _ => simp [checkMember, layer, Json.layer, IsMember, Json.get?, Json.fields?]

theorem checkSlot_eq_nil_iff {id : String} {slot : Slot} :
    checkSlot scope id v slot = [] ↔ v.Present slot.field (IsMember (scope.allows ·)) := by
  simp only [checkSlot]
  split
  · next h =>
    simp only [List.cons_ne_nil, false_iff]
    rintro ⟨x, hx, target, -, -, ht⟩
    obtain ⟨fs, rfl, -⟩ := Json.get?_eq_some_iff.1 ht
    simp [given?_eq_some_iff.2 ⟨hx, by simp, by simp⟩] at h
  · next x h =>
    obtain ⟨hx, -, -⟩ := given?_eq_some_iff.1 h
    simp [Json.Present, hx]

theorem checkMembers_eq_nil_iff {id : String} {a : Aggregate} :
    checkMembers scope id v a = []
      ↔ v.WhenPresent "members" (IsObjectOf (IsMember (scope.allows ·))) := by
  simp only [checkMembers, onEntry_eq_nil_iff, Json.WhenPresent]
  refine forall_congr' fun x => imp_congr_right fun _ => ?_
  cases x with
  | obj fs => simp [IsObjectOf, List.flatMap_eq_nil_iff]
  | _ => simp [checkMemberMap, layer, Json.layer, IsObjectOf]

theorem checkMixins_eq_nil_iff {id : String} :
    checkMixins scope id v = []
      ↔ v.WhenPresent "mixins" (IsArrayOf (IsReference (scope.allows ·))) := by
  simp only [checkMixins, onEntry_eq_nil_iff, Json.WhenPresent]
  refine forall_congr' fun x => imp_congr_right fun _ => ?_
  cases x <;> simp [checkMixinList, layer, Json.layer, IsArrayOf]

theorem checkVersion_eq_nil_iff {id : String} :
    checkVersion id v = [] ↔ v.Present "version" IsNonEmptyText := by
  rw [checkVersion_json]
  split
  · next h =>
    simp only [List.cons_ne_nil, false_iff]
    rintro ⟨x, hx, s, rfl, hs⟩
    simp [given?_eq_some_iff.2 ⟨hx, by simp, by simpa using hs⟩] at h
  · next s h =>
    obtain ⟨hx, -, hs⟩ := given?_eq_some_iff.1 h
    simpa [Json.Present, hx, IsNonEmptyText] using hs
  · next x hx h =>
    obtain ⟨hv, -, -⟩ := given?_eq_some_iff.1 h
    simpa [Json.Present, hv, IsNonEmptyText] using fun s hs => absurd hs (hx s)

theorem checkRename_eq_nil_iff {id : String} :
    checkRename id v = [] ↔ v.WhenPresent "rename" (IsObjectOf fun _ => True) := by
  simp only [checkRename, onEntry_eq_nil_iff, Json.WhenPresent]
  refine forall_congr' fun x => imp_congr_right fun _ => ?_
  simp [IsObjectOf, ← Json.isObject_iff]

theorem checkKind_eq_nil_iff {id : String} {k : Kind} :
    checkKind scope id v k = [] ↔ k.Accepts (scope.allows ·) v := by
  cases k with
  | simple k => simp [checkKind, Kind.Accepts]
  | list => exact checkSlot_eq_nil_iff
  | set => exact checkSlot_eq_nil_iff
  | map => simp [checkKind, Kind.Accepts, checkSlot_eq_nil_iff, Slot.field]
  | struct =>
    simp [checkKind, Kind.Accepts, checkMembers_eq_nil_iff, checkMixins_eq_nil_iff]
  | union => simp [checkKind, Kind.Accepts, checkMembers_eq_nil_iff]
  | service =>
    simp [checkKind, Kind.Accepts, checkVersion_eq_nil_iff, checkRename_eq_nil_iff, checkList,
      onEntry_eq_nil_iff, and_assoc]
  | operation =>
    simp [checkKind, Kind.Accepts, checkField, checkList, onEntry_eq_nil_iff, and_assoc]
  | resource =>
    have hall (p : Lifecycle → Prop) : (∀ l ∈ Lifecycle.all, p l) ↔ ∀ l, p l :=
      ⟨fun h l => h l (Lifecycle.mem_all l), fun h l _ => h l⟩
    simp [checkKind, Kind.Accepts, checkField, checkList, checkMap, onEntry_eq_nil_iff,
      List.flatMap_eq_nil_iff, hall, and_assoc]

theorem checkJson_eq_nil_iff {id : String} :
    checkJson scope id v = [] ↔ v.IsShape (scope.allows ·) := by
  cases v with
  | obj fs =>
    rw [Json.isShape_iff, checkJson_obj]
    split
    · next h =>
      simp only [List.cons_ne_nil, false_iff]
      rintro ⟨k, hk, -⟩
      have ht : given? (Json.obj fs) "type" = some (.str k.name) :=
        given?_eq_some_iff.2 ⟨Json.kind?_eq_some_iff.1 hk, by simp, by simpa using k.name_ne_empty⟩
      simp [ht] at h
    · next type h =>
      have hkind : type.str?.bind Kind.ofName? = (Json.obj fs).kind? := by
        rw [Json.kind?_eq, Json.getD_eq_of_get? (given?_eq_some_iff.1 h).1]
      rw [hkind]
      split
      · next k hk => simp [hk, checkKind_eq_nil_iff]
      · next hk => simp [hk]
  | _ => simp [checkJson, check, layer, Json.layer, Json.IsShape, Json.get?, Json.fields?]

end ShapeCheck

end ShapeGraph
