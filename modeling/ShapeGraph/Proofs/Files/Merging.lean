import ShapeGraph.Proofs.Files.Enumeration
import ShapeGraph.Proofs.Files.Loading

namespace ShapeGraph.Files.Tree

variable {t : Tree} {here : List String} {p : Path} {paths : List Path} {models : List Model}
  {m : Model} {text : String}

theorem readModels_append (paths paths' : List Path) :
    t.readModels here (paths ++ paths') = (t.readModels here paths).bind fun models =>
      (t.readModels here paths').map (models ++ ·) := by
  induction paths with
  | nil =>
    rw [List.nil_append, readModels]
    cases t.readModels here paths' <;> rfl
  | cons p paths ih =>
    rw [List.cons_append, readModels, readModels, ih]
    cases t.readModel here p with
    | error e => rfl
    | ok m =>
      cases t.readModels here paths with
      | error e => rfl
      | ok models => cases t.readModels here paths' <;> rfl

theorem loadAll_append (paths paths' : List Path) :
    t.loadAll here (paths ++ paths') = (t.loadAll here paths).bind fun m =>
      (t.loadAll here paths').map fun n => Model.merge [m, n] := by
  rw [loadAll, loadAll, loadAll, readModels_append]
  cases t.readModels here paths with
  | error e => rfl
  | ok models =>
    cases t.readModels here paths' with
    | error e => rfl
    | ok models' => exact congrArg Except.ok (Model.merge_append models models')

theorem loadAll_of_parse_eq_error {e : ReadError}
    (hbefore : List.Forall₂ (t.Holds here) paths models) (htext : t.readText here p = .ok text)
    (hparse : Model.parse text = .error e) (after : List Path) :
    t.loadAll here (paths ++ p :: after) = .error (.read e) := by
  have herror : t.loadAll here (p :: after) = .error (.read e) := by
    rw [loadAll, readModels, readModel_of_readText htext, hparse]
    rfl
  rw [loadAll_append, loadAll_of_holds hbefore, herror]
  rfl

theorem Holds.statesVersion (h : t.Holds here p m) : m.statesVersion := by
  obtain ⟨text, -, hparse⟩ := h
  exact Model.statesVersion_of_parse hparse

theorem Holds.distinct (h : t.Holds here p m) :
    m.entries.Distinct ∧ m.metadataFields.Distinct := by
  obtain ⟨text, -, hparse⟩ := h
  exact Model.distinct_of_parse hparse

theorem version_merge_of_holds (h : List.Forall₂ (t.Holds here) paths models) :
    (Model.merge models).version = (models.head?.map Model.version).getD .null := by
  cases h with
  | nil => rfl
  | cons hm _ =>
    rw [Model.version_merge, List.find?_cons_of_pos hm.statesVersion]
    rfl

theorem exists_holds_of_mem (h : List.Forall₂ (t.Holds here) paths models) (hm : m ∈ models) :
    ∃ p, t.Holds here p m := by
  induction h with
  | nil => cases hm
  | cons hfirst _ ih =>
    cases hm with
    | head => exact ⟨_, hfirst⟩
    | tail _ hm => exact ih hm

/-- Files are merged without loss, in turn; the first that is rejected decides the error; and the
order in which a directory is listed does not count. -/
theorem loading_merges_files (t : Tree) (here : List String) :
    (∀ paths models, List.Forall₂ (t.Holds here) paths models → (∀ m ∈ models, m.Mergeable) →
        ∃ merged, t.loadAll here paths = .ok merged
          ∧ merged.version = (models.head?.map Model.version).getD .null
          ∧ merged.shapes = some (.obj merged.entries)
          ∧ merged.entries.Unites (models.map Model.entries)
          ∧ (merged.metadata = none ↔ ∀ m ∈ models, m.metadata = none)
          ∧ (∀ v, merged.metadata = some v → v = .obj merged.metadataFields)
          ∧ merged.metadataFields.Unites (models.map Model.metadataFields))
      ∧ (∀ paths paths', t.loadAll here (paths ++ paths') = (t.loadAll here paths).bind fun m =>
          (t.loadAll here paths').map fun n => Model.merge [m, n])
      ∧ (∀ before models p text e after, List.Forall₂ (t.Holds here) before models →
          t.readText here p = .ok text → Model.parse text = .error e →
          t.loadAll here (before ++ p :: after) = .error (.read e))
      ∧ ∀ t' : Tree, t'.Relists t → ∀ p, t'.load here p = t.load here p := by
  refine ⟨fun paths models hfiles hmergeable => ?_, loadAll_append, ?_, ?_⟩
  · have hdistinct {m : Model} (hm : m ∈ models) :
        m.entries.Distinct ∧ m.metadataFields.Distinct := by
      obtain ⟨p, hholds⟩ := exists_holds_of_mem hfiles hm
      exact hholds.distinct
    refine ⟨Model.merge models, loadAll_of_holds hfiles, version_merge_of_holds hfiles,
      Model.shapes_merge_eq models, ?_, Model.metadata_merge_eq_none_iff hmergeable,
      fun v hv => Model.eq_of_metadata_merge hv, ?_⟩
    · rw [Model.entries_merge]
      exact Fields.unites_ofList (List.forall_mem_map.2 fun m hm => (hdistinct hm).1)
    · rw [Model.metadataFields_merge]
      exact Fields.unites_ofList (List.forall_mem_map.2 fun m hm => (hdistinct hm).2)
  · intro before models p text e after hbefore htext hparse
    exact loadAll_of_parse_eq_error hbefore htext hparse after
  · intro t' h p
    exact h.load here p

def rack : Tree :=
  shelf [("a.json", leafletText (owner "a") "string"), ("b.json", leafletText (owner "b") "blob"),
    ("c.json", "")]

theorem mergeable_owned (name type : String) : (leaflet (owner name) type).Mergeable where
  shapes := ⟨_, rfl⟩
  metadata v hv := by
    cases hv
    exact ⟨_, rfl, List.cons_ne_nil _ _⟩

theorem rack_merges_files :
    (∃ merged, rack.loadAll [] [⟨.here, ["a.json"]⟩, ⟨.here, ["b.json"]⟩] = .ok merged
        ∧ merged.version = .str "2.0" ∧ merged.ids = ["Text"]
        ∧ merged.entries.get? "Text" = some (.obj [("type", .str "blob")])
        ∧ merged.metadata ≠ none)
      ∧ (∃ e, rack.loadAll [] [⟨.here, ["a.json"]⟩, ⟨.here, ["c.json"]⟩, ⟨.here, ["b.json"]⟩]
          = .error (.read e))
      ∧ (Tree.mk rack.entries.reverse).load [] ⟨.here, []⟩ = rack.load [] ⟨.here, []⟩ := by
  have ha : rack.Holds [] ⟨.here, ["a.json"]⟩ (leaflet (owner "a") "string") :=
    holds_of_access rfl (parse_ownedText "a" "string")
  have hb : rack.Holds [] ⟨.here, ["b.json"]⟩ (leaflet (owner "b") "blob") :=
    holds_of_access rfl (parse_ownedText "b" "blob")
  obtain ⟨hmerge, -, hreject, hlisted⟩ := loading_merges_files rack []
  refine ⟨?_, ?_, ?_⟩
  · have hmergeable := List.forall_mem_cons.2
      ⟨mergeable_owned "a" "string", List.forall_mem_singleton.2 (mergeable_owned "b" "blob")⟩
    obtain ⟨merged, hload, hversion, -, hentries, hmetadata, -, -⟩ :=
      hmerge _ _ (.cons ha (.cons hb .nil)) hmergeable
    refine ⟨merged, hload, hversion, hentries.keys.trans (by decide), ?_, ?_⟩
    · exact (hentries.get? "Text" _).2 ⟨[_], _, [], rfl, rfl, nofun⟩
    · intro h
      cases hmetadata.1 h _ List.mem_cons_self
  · exact ⟨_, hreject [⟨.here, ["a.json"]⟩] _ ⟨.here, ["c.json"]⟩ _ _ _ (.cons ha .nil)
      (readText_of_access rfl) rfl⟩
  · exact hlisted _ ⟨List.reverse_perm _, by decide⟩ _

end ShapeGraph.Files.Tree
