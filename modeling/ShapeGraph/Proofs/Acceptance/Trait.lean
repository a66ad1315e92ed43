import ShapeGraph.Proofs.Acceptance.Entry
import ShapeGraph.Proofs.Number.Value
import ShapeGraph.Trait.Check

namespace ShapeGraph

namespace Json

def number? : Json → Option ℚ
  | .int n => some n
  | .real x => x.value?
  | _ => none

def IsNumberIn (low high : Int) (v : Json) : Prop := ∃ q, v.number? = some q ∧ low ≤ q ∧ q ≤ high

end Json

def PreludeTrait.Accepts (v : Json) : PreludeTrait → Prop
  | .http =>
    v.Present "method" (fun x => ∃ method, x = .str method ∧ Text.upper method ∈ httpMethods)
      ∧ v.Present "uri" (fun x => ∃ rest, x = .str ("/" ++ rest))
      ∧ v.WhenPresent "code" (Json.IsNumberIn 100 599)
  | .httpError => v.IsNumberIn 400 599
  | .httpQuery | .httpHeader | .documentation => v.IsNonEmptyText
  | .paginated =>
    v.isObject
      ∧ ∀ name ∈ ["inputToken", "outputToken", "items", "pageSize"], v.WhenPresent name Json.IsText
  | .required | .httpLabel | .httpPayload | .readonly | .idempotent => v = .obj []

def Json.IsTraitValue (traitId : String) (v : Json) : Prop :=
  traitId ≠ "" ∧ ∀ t : PreludeTrait, traitId = t.id ∨ traitId = t.name → t.Accepts v

namespace PreludeTrait

theorem mem_allTraits (t : PreludeTrait) : t ∈ all := by
  cases t <;> decide

theorem id_injective : Function.Injective id := by
  intro s t h
  cases s <;> cases t <;> first | rfl | exact absurd h (by decide)

theorem isAbsolute_id (t : PreludeTrait) : Spelling.isAbsolute t.id := by
  cases t <;> decide

theorem isRelative_name (t : PreludeTrait) : Spelling.isAbsolute t.name = false := by
  cases t <;> decide

theorem id_eq_resolve_iff {t : PreludeTrait} {traitId : String} :
    t.id = TraitId.resolve traitId ↔ traitId = t.id ∨ traitId = t.name := by
  simp only [TraitId.resolve, Spelling.toAbsolute]
  split
  · next h =>
    constructor
    · rintro rfl
      exact .inl rfl
    · rintro (rfl | rfl)
      · rfl
      · simp [isRelative_name] at h
  · next h =>
    constructor
    · intro heq
      right
      simpa [id, Spelling.qualify, eq_comm] using heq
    · rintro (rfl | rfl)
      · exact absurd t.isAbsolute_id h
      · rfl

theorem ofId?_eq_some_iff {traitId : String} {t : PreludeTrait} :
    ofId? traitId = some t ↔ traitId = t.id ∨ traitId = t.name := by
  rw [← id_eq_resolve_iff]
  constructor
  · intro h
    simpa using List.find?_some h
  · intro h
    cases hf : ofId? traitId with
    | none =>
      have := List.find?_eq_none.1 hf t t.mem_allTraits
      simp [h] at this
    | some s =>
      have hs : s.id = TraitId.resolve traitId := by simpa using List.find?_some hf
      rw [id_injective (hs.trans h.symm)]

end PreludeTrait

theorem Json.textEntry?_layer (name : String) (fs : Fields Json) :
    Layer.textEntry? name (fs.map fun (k, v) => (Key.text k, v)) = fs.get? name := by
  induction fs with
  | nil => rfl
  | cons f fs ih =>
    obtain ⟨k, v⟩ := f
    simp only [List.map_cons, Layer.textEntry?, Fields.get?_cons, Key.text.injEq, ih]

namespace TraitCheck

open Layered

variable {v : Json} {o : Option Json}

theorem methodFaults_eq_nil_iff :
    methodFaults (o.map layer) = []
      ↔ ∃ x, o = some x ∧ ∃ method, x = .str method ∧ Text.upper method ∈ httpMethods := by
  cases o with
  | none => simp [methodFaults]
  | some x =>
    cases x with
    | str s =>
      by_cases hs : s = ""
      · subst hs
        simp only [Option.map_some, layer_json, Json.layer, methodFaults]
        simp
        decide
      · simp [methodFaults, layer_json, Json.layer, hs]
    | _ => simp [methodFaults, layer_json, Json.layer]

theorem head?_eq_slash_iff {s : String} : s.toList.head? = some '/' ↔ ∃ rest, s = "/" ++ rest := by
  constructor
  · intro h
    obtain ⟨rest, hrest⟩ := List.head?_eq_some_iff.1 h
    exact ⟨String.ofList rest, by rw [← String.toList_inj]; simp [hrest]⟩
  · rintro ⟨rest, rfl⟩
    simp

theorem uriFaults_eq_nil_iff :
    uriFaults (o.map layer) = [] ↔ ∃ x, o = some x ∧ ∃ rest, x = .str ("/" ++ rest) := by
  cases o with
  | none => simp [uriFaults]
  | some x =>
    cases x with
    | str s =>
      by_cases hs : s = ""
      · subst hs
        simp [uriFaults, layer_json, Json.layer]
      · simp [uriFaults, layer_json, Json.layer, hs, head?_eq_slash_iff]
    | _ => simp [uriFaults, layer_json, Json.layer]

theorem rangeFaults_eq_nil_iff {low high : Int} {typeFault rangeFault : TraitFault} :
    rangeFaults low high typeFault rangeFault v.layer = [] ↔ v.IsNumberIn low high := by
  cases v with
  | int n =>
    simp [rangeFaults, Json.layer, Layer.compareInt?, Json.IsNumberIn, Json.number?,
      compare_lt_iff_lt, compare_gt_iff_gt]
  | real x =>
    cases hq : x.value? with
    | some q =>
      simp [rangeFaults, Json.layer, Layer.compareInt?, Json.IsNumberIn, Json.number?, hq,
        Binary64.compareInt_eq_lt_iff hq, Binary64.compareInt_eq_gt_iff hq]
    | none =>
      obtain ⟨negative, rfl⟩ := Binary64.value?_eq_none_iff.1 hq
      cases negative <;> simp [rangeFaults, Json.layer, Layer.compareInt?, Json.IsNumberIn,
        Json.number?, hq, Binary64.compareInt_infinite]
  | _ => simp [rangeFaults, Json.layer, Layer.compareInt?, Json.IsNumberIn, Json.number?]

theorem codeFaults_eq_nil_iff :
    codeFaults (o.map layer) = [] ↔ ∀ x, o = some x → x.IsNumberIn 100 599 := by
  cases o <;> simp [codeFaults, layer_json, rangeFaults_eq_nil_iff]

theorem checkHttp_eq_nil_iff :
    checkHttp (some v.layer) = [] ↔ PreludeTrait.http.Accepts v := by
  cases v with
  | obj fs =>
    simp only [checkHttp, Json.layer, Json.textEntry?_layer, List.append_eq_nil_iff,
      List.map_eq_nil_iff, methodFaults_eq_nil_iff, uriFaults_eq_nil_iff, codeFaults_eq_nil_iff]
    exact and_assoc
  | _ => simp [checkHttp, Json.layer, PreludeTrait.Accepts, Json.Present, Json.get?, Json.fields?]

theorem checkText_eq_nil_iff {t : TextTrait} :
    checkText t (some v.layer) = [] ↔ v.IsNonEmptyText := by
  cases v <;> simp [checkText, Json.layer, Json.IsNonEmptyText]

theorem isEmptyObject_layer : isEmptyObject v.layer ↔ v = .obj [] := by
  cases v with
  | obj fs => cases fs <;> simp [isEmptyObject, Json.layer]
  | _ => simp [isEmptyObject, Json.layer]

theorem checkPaginated_eq_nil_iff :
    checkPaginated (some v.layer) = [] ↔ PreludeTrait.paginated.Accepts v := by
  cases v with
  | obj fs =>
    simp only [checkPaginated, Json.layer, Json.textEntry?_layer, List.filterMap_eq_nil_iff]
    constructor
    · intro h
      refine ⟨rfl, fun name hn x hx => ?_⟩
      have := h name hn
      rw [Json.get?_obj] at hx
      cases x <;> simp_all [layer_json, Json.layer, Json.IsText]
    · rintro ⟨-, h⟩ name hn
      cases hx : Fields.get? fs name with
      | none => rfl
      | some x =>
        obtain ⟨s, rfl⟩ := h name hn x hx
        rfl
  | _ => simp [checkPaginated, Json.layer, PreludeTrait.Accepts, Json.isObject, Json.fields?]

theorem checkPrelude_eq_nil_iff {t : PreludeTrait} :
    checkPrelude t (some v.layer) = [] ↔ t.Accepts v := by
  cases t with
  | http => exact checkHttp_eq_nil_iff
  | httpError => simp [checkPrelude, checkHttpError, rangeFaults_eq_nil_iff, PreludeTrait.Accepts]
  | httpQuery | httpHeader | documentation => exact checkText_eq_nil_iff
  | paginated => exact checkPaginated_eq_nil_iff
  | required => simp [checkPrelude, checkRequired, isEmptyObject_layer, PreludeTrait.Accepts]
  | httpLabel | httpPayload | readonly | idempotent =>
    simp [checkPrelude, checkMarker, isEmptyObject_layer, PreludeTrait.Accepts]

theorem checkJson_eq_nil_iff {traitId : String} :
    checkJson traitId v = [] ↔ v.IsTraitValue traitId := by
  by_cases hid : traitId = ""
  · subst hid
    simp [checkJson, check, Json.IsTraitValue]
  · simp only [checkJson, check, Json.IsTraitValue, ne_eq, hid, not_false_eq_true, true_and,
      ← PreludeTrait.ofId?_eq_some_iff]
    cases ht : PreludeTrait.ofId? traitId with
    | none => simp
    | some t => simp [layer_json, checkPrelude_eq_nil_iff]

end TraitCheck

end ShapeGraph
