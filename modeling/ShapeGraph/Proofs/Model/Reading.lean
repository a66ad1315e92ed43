import ShapeGraph.Model.Reading
import ShapeGraph.Proofs.Json.Recognition

namespace ShapeGraph.Model

variable {document : Json} {text : String} {m : Model}

structure Admissible (m : Model) : Prop where
  version : ∃ s, m.version = .str s
  metadata : ∀ v, m.metadata = some v → isContainer v
  shapes : ∃ v, m.shapes = some v ∧ isContainer v

theorem admissible_iff :
    m.Admissible ↔ m.version.str?.isSome ∧ m.metadata.all isContainer
      ∧ isContainer (m.shapes.getD .null) := by
  obtain ⟨version, metadata, shapes⟩ := m
  constructor
  · rintro ⟨⟨s, rfl⟩, hmetadata, v, rfl, hshapes⟩
    exact ⟨rfl, by cases metadata <;> simp_all, hshapes⟩
  · rintro ⟨hversion, hmetadata, hshapes⟩
    refine ⟨?_, ?_, ?_⟩
    · cases version with
      | str s => exact ⟨s, rfl⟩
      | _ => cases hversion
    · rintro v rfl
      exact hmetadata
    · cases shapes with
      | some v => exact ⟨v, rfl, hshapes⟩
      | none => cases hshapes

theorem formatFlaw?_eq_none_iff :
    formatFlaw? document = none ↔ document.isObject ∧ (ofDocument document).Admissible := by
  rw [admissible_iff, formatFlaw?]
  change _ ↔ _ ∧ (document.getD "smithy").str?.isSome ∧ (document.get? "metadata").all isContainer
    ∧ isContainer (document.getD "shapes")
  cases document.isObject
  · simp
  · cases (document.getD "smithy").str? with
    | none => simp
    | some s =>
      cases isContainer (document.getD "shapes") <;>
        cases (document.get? "metadata").all isContainer <;> simp

theorem accept_eq_ok_iff :
    accept document = .ok m ↔ document.isObject ∧ ofDocument document = m ∧ m.Admissible := by
  have hflaw : formatFlaw? document = none ↔ _ := formatFlaw?_eq_none_iff
  rw [accept]
  split
  · rename_i flaw h
    rw [h] at hflaw
    constructor
    · nofun
    · rintro ⟨hobject, rfl, hadmissible⟩
      cases hflaw.2 ⟨hobject, hadmissible⟩
  · rename_i h
    obtain ⟨hobject, hadmissible⟩ := hflaw.1 h
    constructor
    · rintro ⟨⟩
      exact ⟨hobject, rfl, hadmissible⟩
    · rintro ⟨-, rfl, -⟩
      rfl

theorem parse_eq_ok_iff :
    parse text = .ok m ↔ ∃ document, Json.DocumentText text.toList document
      ∧ document.isObject ∧ ofDocument document = m ∧ m.Admissible := by
  simp only [← Json.ofText_eq_ok_iff, ← accept_eq_ok_iff]
  rw [parse]
  cases Json.ofText text <;> simp

end ShapeGraph.Model
