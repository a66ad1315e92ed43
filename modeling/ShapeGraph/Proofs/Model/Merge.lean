import ShapeGraph.Model.Merge
import ShapeGraph.Proofs.Fields

namespace ShapeGraph.Model

variable {models models' : List Model} {m : Model}

theorem foldl_merge (part : Model → Fields Json) (models : List Model) (fs : Fields Json) :
    models.foldl (fun acc m => acc.merge (part m)) fs = fs.merge (models.map part).flatten := by
  induction models generalizing fs with
  | nil => rfl
  | cons m models ih =>
    rw [List.foldl_cons, ih, List.map_cons, List.flatten_cons, Fields.merge_append]

theorem shapes_merge (models : List Model) :
    (merge models).shapes = some (.obj (Fields.ofList (models.map entries).flatten)) :=
  congrArg (fun fs => some (Json.obj fs)) (foldl_merge entries models [])

theorem entries_merge (models : List Model) :
    (merge models).entries = Fields.ofList (models.map entries).flatten := by
  rw [entries, shapes_merge]
  rfl

theorem shapes_merge_eq (models : List Model) :
    (merge models).shapes = some (.obj (merge models).entries) := by
  rw [entries_merge, shapes_merge]

def metadataOf (fs : Fields Json) : Option Json := if fs.isEmpty then none else some (.obj fs)

theorem metadata_merge (models : List Model) :
    (merge models).metadata = metadataOf (Fields.ofList (models.map metadataFields).flatten) :=
  congrArg metadataOf (foldl_merge metadataFields models [])

theorem metadataFields_merge (models : List Model) :
    (merge models).metadataFields = Fields.ofList (models.map metadataFields).flatten := by
  rw [metadataFields, metadata_merge, metadataOf]
  split
  · rename_i h
    rw [List.isEmpty_iff.1 h]
    rfl
  · rfl

theorem eq_of_metadata_merge {v : Json} (h : (merge models).metadata = some v) :
    v = .obj (merge models).metadataFields := by
  rw [metadataFields, h]
  rw [metadata_merge, metadataOf] at h
  split at h
  · cases h
  · cases h
    rfl

theorem statesVersion_eq_false_iff : m.statesVersion = false ↔ m.version = .null := by
  rw [statesVersion]
  cases m.version <;> simp

theorem version_merge (models : List Model) :
    (merge models).version = ((models.find? statesVersion).map version).getD .null := rfl

theorem version_merge_pair (m n : Model) :
    (merge [m, n]).version = if m.statesVersion then m.version else n.version := by
  rw [version_merge]
  cases hm : m.statesVersion
  · cases hn : n.statesVersion
    · simp [hm, hn, statesVersion_eq_false_iff.1 hn]
    · simp [hm, hn]
  · simp [hm]

theorem statesVersion_merge (models : List Model) :
    (merge models).statesVersion = (models.find? statesVersion).isSome := by
  cases h : models.find? statesVersion with
  | none =>
    refine statesVersion_eq_false_iff.2 ?_
    rw [version_merge, h]
    rfl
  | some m =>
    have hm : m.statesVersion := List.find?_some h
    have hversion : (merge models).version = m.version := by
      rw [version_merge, h]
      rfl
    rw [statesVersion, hversion]
    exact hm

theorem version_merge_append (models models' : List Model) :
    (merge (models ++ models')).version =
      if (merge models).statesVersion then (merge models).version
      else (merge models').version := by
  rw [statesVersion_merge]
  simp only [version_merge, List.find?_append]
  cases models.find? statesVersion <;> rfl

theorem ext_iff {m n : Model} :
    m = n ↔ m.version = n.version ∧ m.metadata = n.metadata ∧ m.shapes = n.shapes := by
  cases m
  cases n
  simp

theorem merge_append (models models' : List Model) :
    merge (models ++ models') = merge [merge models, merge models'] := by
  refine ext_iff.2 ⟨?_, ?_, ?_⟩
  · rw [version_merge_append, version_merge_pair]
  · simp [metadata_merge, metadataFields_merge, Fields.ofList_append_ofList]
  · simp [shapes_merge, entries_merge, Fields.ofList_append_ofList]

/-- Models of which nothing is lost when they are merged. -/
structure Mergeable (m : Model) : Prop where
  shapes : ∃ fs, m.shapes = some (.obj fs)
  metadata : ∀ v, m.metadata = some v → ∃ fs, v = .obj fs ∧ fs ≠ []

theorem metadataOf_eq_none_iff {fs : Fields Json} : metadataOf fs = none ↔ fs = [] := by
  rw [metadataOf]
  split <;> simp_all

theorem Mergeable.metadata_eq_none_iff (h : m.Mergeable) :
    m.metadata = none ↔ m.metadataFields = [] := by
  rw [metadataFields]
  cases hv : m.metadata with
  | none => simp
  | some v =>
    obtain ⟨fs, rfl, hfs⟩ := h.metadata v hv
    simp [Json.fields?, hfs]

theorem metadata_merge_eq_none_iff (h : ∀ m ∈ models, m.Mergeable) :
    (merge models).metadata = none ↔ ∀ m ∈ models, m.metadata = none := by
  rw [metadata_merge, metadataOf_eq_none_iff, Fields.ofList_eq_nil_iff, List.flatten_eq_nil_iff,
    List.forall_mem_map]
  exact forall₂_congr fun m hm => (h m hm).metadata_eq_none_iff.symm

theorem version_merge_singleton (m : Model) : (merge [m]).version = m.version := by
  rw [version_merge]
  cases hm : m.statesVersion
  · simp [hm, statesVersion_eq_false_iff.1 hm]
  · simp [hm]

theorem metadataOf_metadataFields_eq_iff :
    metadataOf m.metadataFields = m.metadata
      ↔ ∀ v, m.metadata = some v → ∃ fs, v = .obj fs ∧ fs ≠ [] := by
  rw [metadataFields]
  cases m.metadata with
  | none => simp [metadataOf]
  | some v =>
    cases v with
    | obj fs => cases fs <;> simp [metadataOf, Json.fields?]
    | _ => simp [metadataOf, Json.fields?]

theorem some_obj_entries_eq_iff :
    some (.obj m.entries) = m.shapes ↔ ∃ fs, m.shapes = some (.obj fs) := by
  rw [entries]
  cases m.shapes with
  | none => simp
  | some v => cases v <;> simp [Json.fields?]

theorem merge_singleton_eq_iff (hentries : m.entries.Distinct)
    (hmetadata : m.metadataFields.Distinct) : merge [m] = m ↔ m.Mergeable := by
  rw [ext_iff, version_merge_singleton, metadata_merge, shapes_merge, List.map_singleton,
    List.map_singleton, List.flatten_singleton, List.flatten_singleton,
    Fields.ofList_eq_self hentries, Fields.ofList_eq_self hmetadata,
    metadataOf_metadataFields_eq_iff, some_obj_entries_eq_iff]
  exact ⟨fun h => ⟨h.2.2, h.2.1⟩, fun h => ⟨rfl, h.metadata, h.shapes⟩⟩

end ShapeGraph.Model
