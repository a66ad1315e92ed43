import ShapeGraph.Catalog.Basic
import ShapeGraph.Proofs.ShapeId.Spelling
import ShapeGraph.Proofs.Text.Casing

/-!
The operation that a name finds. A name without `#` is compared with names alone and a name with one
with whole ids, as a `#` stays where it is when case, `-` and `_` are left out of account.
-/

namespace ShapeGraph

namespace Spelling

variable {id : String}

theorem isRelative_iff : isRelative id ↔ '#' ∉ id.toList := by
  rw [isRelative, Bool.not_eq_true', ← Bool.not_eq_true, isAbsolute_iff]

theorem name_of_isRelative (h : isRelative id) : name id = id := by
  rw [name, split, Text.cut_eq_none_iff.2 (isRelative_iff.1 h)]

theorem isRelative_name (h : id.toList.count '#' ≤ 1) : isRelative (name id) := by
  cases hcut : Text.cut '#' id with
  | none =>
    have hid : isRelative id := isRelative_iff.2 (Text.cut_eq_none_iff.1 hcut)
    rw [name_of_isRelative hid]
    exact hid
  | some parts =>
    obtain ⟨before, after⟩ := parts
    rw [(Text.cut_eq_some_iff.1 hcut).1, List.count_append, List.count_cons_self] at h
    have hafter : after.toList.count '#' = 0 := by omega
    rw [name, split, hcut, isRelative_iff]
    exact List.count_eq_zero.1 hafter

end Spelling

namespace Model

variable {m : Model} {name id : String}

theorem isRelative_lower (id : String) : Spelling.isRelative (Text.lower id)
    ↔ Spelling.isRelative id := by
  have hhash : Text.IsBelowLetters '#' := ⟨by decide, by decide⟩
  rw [Spelling.isRelative_iff, Spelling.isRelative_iff, Text.mem_lower_iff hhash]

theorem isRelative_looseName (name : String) : Spelling.isRelative (looseName name)
    ↔ Spelling.isRelative name := by
  rw [← isRelative_lower name, Spelling.isRelative_iff, Spelling.isRelative_iff, looseName,
    String.toList_ofList, List.mem_filter]
  simp

theorem namesLoosely_iff : namesLoosely name id
    ↔ looseName (Spelling.name id) = looseName name ∨ Text.lower id = Text.lower name := by
  simp [namesLoosely]

theorem namesLoosely_iff_of_isRelative (h : Spelling.isRelative name) :
    namesLoosely name id ↔ looseName (Spelling.name id) = looseName name := by
  rw [namesLoosely_iff, or_iff_left_iff_imp]
  intro hlower
  -- an id that is the name up to case has no `#` either, so it is its own name
  have hid : Spelling.isRelative id := by
    rw [← isRelative_lower, hlower, isRelative_lower]
    exact h
  rw [Spelling.name_of_isRelative hid, looseName, looseName, hlower]

theorem namesLoosely_iff_of_isAbsolute (h : Spelling.isAbsolute name)
    (hid : id.toList.count '#' ≤ 1) :
    namesLoosely name id ↔ Text.lower id = Text.lower name := by
  rw [namesLoosely_iff, or_iff_right_iff_imp]
  intro hloose
  -- the name of an id with one `#` has none, so it is no loose form of one that has
  have hrelative : Spelling.isRelative name := by
    rw [← isRelative_looseName, ← hloose, isRelative_looseName]
    exact Spelling.isRelative_name hid
  rw [Spelling.isRelative, h] at hrelative
  cases hrelative

def FirstOperation (m : Model) (fits : String → Prop) (id : String) : Prop :=
  ∃ before after, m.ids = before ++ id :: after ∧ (m.operation? id).isSome ∧ fits id
    ∧ ∀ other ∈ before, (m.operation? other).isSome → ¬ fits other

structure Finds (m : Model) (fits : String → Prop) (found : Option String) : Prop where
  some_iff : ∀ id, found = some id ↔ m.FirstOperation fits id
  none_iff : found = none ↔ ∀ id ∈ m.ids, (m.operation? id).isSome → ¬ fits id

theorem finds_find? {fits : String → Prop} {test : String → Bool}
    (h : ∀ id ∈ m.ids, test id ↔ fits id) :
    m.Finds fits (m.ids.find? fun id => test id && (m.operation? id).isSome) where
  some_iff id := by
    rw [List.find?_eq_some_iff_append, FirstOperation]
    constructor
    · rintro ⟨hid, before, after, hids, hbefore⟩
      rw [Bool.and_eq_true] at hid
      have hmem {other : String} (hother : other ∈ before) : other ∈ m.ids :=
        hids ▸ List.mem_append_left (id :: after) hother
      refine ⟨before, after, hids, hid.2, (h id (by simp [hids])).1 hid.1, ?_⟩
      intro other hother hoperation hfits
      simpa [(h other (hmem hother)).2 hfits, hoperation] using hbefore other hother
    · rintro ⟨before, after, hids, hoperation, hfits, hbefore⟩
      refine ⟨by simp [(h id (by simp [hids])).2 hfits, hoperation], before, after, hids, ?_⟩
      intro other hother
      have hmem : other ∈ m.ids := hids ▸ List.mem_append_left (id :: after) hother
      by_cases htest : test other
      · simpa [htest] using fun ho => hbefore other hother ho ((h other hmem).1 htest)
      · simp [htest]
  none_iff := by
    rw [List.find?_eq_none]
    apply forall₂_congr
    intro id hid
    rw [Bool.and_eq_true, h id hid, not_and']

theorem Finds.unique {fits : String → Prop} {found found' : Option String}
    (h : m.Finds fits found) (h' : m.Finds fits found') : found = found' := by
  apply Option.ext
  intro id
  rw [h.some_iff, h'.some_iff]

theorem findOperation?_of_isSome (h : (m.operation? name).isSome) :
    m.findOperation? name = some name :=
  if_pos h

theorem findOperation?_of_eq_none (h : m.operation? name = none) :
    m.findOperation? name
      = m.ids.find? fun id => namesLoosely name id && (m.operation? id).isSome := by
  rw [findOperation?, h, Option.isSome_none, if_neg Bool.false_ne_true]

theorem finds_of_isRelative (hname : m.operation? name = none) (h : Spelling.isRelative name) :
    m.Finds (fun id => looseName (Spelling.name id) = looseName name) (m.findOperation? name) := by
  rw [findOperation?_of_eq_none hname]
  exact finds_find? fun _ _ => namesLoosely_iff_of_isRelative h

theorem finds_of_isAbsolute (hname : m.operation? name = none) (h : Spelling.isAbsolute name)
    (hids : ∀ id ∈ m.ids, id.toList.count '#' ≤ 1) :
    m.Finds (fun id => Text.lower id = Text.lower name) (m.findOperation? name) := by
  rw [findOperation?_of_eq_none hname]
  exact finds_find? fun id hid => namesLoosely_iff_of_isAbsolute h (hids id hid)

/-- An operation is found by its id. Any other name without `#` finds the first operation whose name
is the same but for case, `-` and `_`, and so does any such name that is the same but for those. If
no id has more than one `#`, a name with one finds the first operation whose id is the same but for
case. -/
theorem first_operation_is_found (m : Model) (name : String) :
    ((m.operation? name).isSome → m.findOperation? name = some name)
    ∧ (m.operation? name = none → Spelling.isRelative name →
      m.Finds (fun id => looseName (Spelling.name id) = looseName name) (m.findOperation? name)
      ∧ ∀ other, m.operation? other = none → Spelling.isRelative other →
        looseName other = looseName name → m.findOperation? other = m.findOperation? name)
    ∧ (m.operation? name = none → Spelling.isAbsolute name →
      (∀ id ∈ m.ids, id.toList.count '#' ≤ 1) →
      m.Finds (fun id => Text.lower id = Text.lower name) (m.findOperation? name)) := by
  refine ⟨findOperation?_of_isSome, ?_, finds_of_isAbsolute⟩
  intro hname hrelative
  have hfinds := finds_of_isRelative hname hrelative
  refine ⟨hfinds, ?_⟩
  intro other hother hrelative' hloose
  have hfinds' := finds_of_isRelative hother hrelative'
  rw [hloose] at hfinds'
  exact hfinds'.unique hfinds

def cityModel : Model where
  version := .str "2.0"
  metadata := none
  shapes := some (.obj [("example#City", .obj [("type", .str "structure")]),
    ("example#Get_City", .obj [("type", .str "operation")]),
    ("example#GetCity", .obj [("type", .str "operation")])])

theorem first_operation_is_found_in_city :
    (cityModel.operation? "example#GetCity").isSome
      ∧ cityModel.findOperation? "example#GetCity" = some "example#GetCity"
      ∧ cityModel.operation? "get-city" = none ∧ Spelling.isRelative "get-city"
      ∧ cityModel.operation? "getCITY" = none ∧ Spelling.isRelative "getCITY"
      ∧ cityModel.findOperation? "getCITY" = some "example#Get_City"
      ∧ cityModel.operation? "EXAMPLE#GETCITY" = none ∧ Spelling.isAbsolute "EXAMPLE#GETCITY"
      ∧ (∀ id ∈ cityModel.ids, id.toList.count '#' ≤ 1)
      ∧ cityModel.findOperation? "EXAMPLE#GETCITY" = some "example#GetCity" := by
  have hkey : (cityModel.operation? "example#GetCity").isSome := by rfl
  have hname : cityModel.operation? "get-city" = none := by rfl
  have hname' : cityModel.operation? "getCITY" = none := by rfl
  have hfull : cityModel.operation? "EXAMPLE#GETCITY" = none := by rfl
  have hids : ∀ id ∈ cityModel.ids, id.toList.count '#' ≤ 1 := by decide
  obtain ⟨hfinds, hsame⟩ := (first_operation_is_found cityModel "get-city").2.1 hname (by decide)
  refine ⟨hkey, (first_operation_is_found _ _).1 hkey, hname, by decide, hname', by decide, ?_,
    hfull, by decide, hids, ?_⟩
  · rw [hsame "getCITY" hname' (by decide) (by decide +kernel), hfinds.some_iff]
    refine ⟨["example#City"], ["example#GetCity"], rfl, rfl, by decide +kernel, ?_⟩
    decide +kernel
  · rw [((first_operation_is_found _ _).2.2 hfull (by decide) hids).some_iff]
    refine ⟨["example#City", "example#Get_City"], [], rfl, rfl, by decide +kernel, ?_⟩
    decide +kernel

end Model

end ShapeGraph
