import ShapeGraph.Proofs.Acceptance.Model
import ShapeGraph.Proofs.Model.Reading

namespace ShapeGraph

instance (key : String) : Decidable (ShapeKey.IsKey key) := decidable_of_iff _ ShapeKey.isValid_iff

theorem Model.isContainer_iff {v : Json} :
    isContainer v ↔ (∃ items, v = .arr items) ∨ ∃ entries, v = .obj entries := by
  cases v <;> simp [isContainer]

namespace DocumentCheck

variable {codes codes' : List String} {problems problems' : Problems}

def withCodes (codes : List String) (problems : Problems) : Problems :=
  problems.filter fun p => p.cause.code ∈ codes

def versionCodes : List String :=
  ["MISSING_VERSION", "INVALID_VERSION_TYPE", "INVALID_VERSION_FORMAT", "UNSUPPORTED_VERSION"]

def metadataCodes : List String := ["INVALID_METADATA_TYPE"]

def entriesCodes : List String := ["EMPTY_SHAPES", "INVALID_SHAPE_ID", "INVALID_SHAPE_TYPE"]

def shapesCodes : List String := "MISSING_SHAPES" :: "INVALID_SHAPES_TYPE" :: entriesCodes

theorem withCodes_append : withCodes codes (problems ++ problems')
    = withCodes codes problems ++ withCodes codes problems' :=
  List.filter_append problems problems'

theorem withCodes_withCodes (h : codes ⊆ codes') (problems : Problems) :
    withCodes codes (withCodes codes' problems) = withCodes codes problems := by
  rw [withCodes, withCodes, List.filter_filter]
  apply List.filter_congr
  intro p _
  rw [Bool.and_eq_left_iff_imp, decide_eq_true_eq, decide_eq_true_eq]
  exact @h p.cause.code

theorem withCodes_eq_self (h : ∀ p ∈ problems, p.cause.code ∈ codes) :
    withCodes codes problems = problems := by
  rw [withCodes, List.filter_eq_self]
  intro p hp
  exact decide_eq_true (h p hp)

theorem withCodes_eq_nil (h : ∀ p ∈ problems, p.cause.code ∈ codes')
    (hdisjoint : ∀ code ∈ codes', code ∉ codes) : withCodes codes problems = [] := by
  rw [withCodes, List.filter_eq_nil_iff]
  intro p hp
  rw [decide_eq_true_eq]
  exact hdisjoint _ (h p hp)

theorem code_of_mem_checkVersion (v : Json) :
    ∀ p ∈ checkVersion v, p.cause.code ∈ versionCodes := by
  rw [checkVersion]
  cases v with
  | str version =>
    rw [versionFault?]
    split_ifs <;> simp [DocumentFault.code, versionCodes]
  | _ => simp [versionFault?, DocumentFault.code, versionCodes]

theorem code_of_mem_checkMetadata (v : Json) :
    ∀ p ∈ checkMetadata v, p.cause.code ∈ metadataCodes := by
  cases v <;> simp [checkMetadata, DocumentFault.code, metadataCodes]

theorem code_of_mem_checkEntry (key : String) (node : Json) :
    ∀ p ∈ checkEntry key node, p.cause.code ∈ entriesCodes := by
  rw [checkEntry]
  split_ifs <;> simp [DocumentFault.code, entriesCodes]

theorem code_of_mem_checkEntries (entries : Fields Json) :
    ∀ p ∈ checkShapes (some (.obj entries)), p.cause.code ∈ entriesCodes := by
  cases entries with
  | nil => simp [checkShapes, DocumentFault.code, entriesCodes]
  | cons e es =>
    intro p hp
    obtain ⟨⟨key, node⟩, -, hp⟩ := List.mem_flatMap.1 hp
    exact code_of_mem_checkEntry key node p hp

theorem code_of_mem_checkShapes (shapes : Option Json) :
    ∀ p ∈ checkShapes shapes, p.cause.code ∈ shapesCodes := by
  rcases shapes with _ | v
  · simp [checkShapes, DocumentFault.code, shapesCodes]
  · cases v with
    | obj entries =>
      intro p hp
      exact List.mem_cons_of_mem _ (List.mem_cons_of_mem _ (code_of_mem_checkEntries entries p hp))
    | _ => simp [checkShapes, DocumentFault.code, shapesCodes]

theorem code_of_mem_metadata (m : Model) :
    ∀ p ∈ (m.metadata.map checkMetadata).getD [], p.cause.code ∈ metadataCodes := by
  cases m.metadata with
  | none => simp
  | some v => exact code_of_mem_checkMetadata v

theorem withCodes_version (m : Model) :
    withCodes versionCodes (check m) = checkVersion m.version := by
  rw [check, withCodes_append, withCodes_append, withCodes_eq_self (code_of_mem_checkVersion _),
    withCodes_eq_nil (code_of_mem_metadata m) (by decide),
    withCodes_eq_nil (code_of_mem_checkShapes _) (by decide), List.append_nil, List.append_nil]

theorem withCodes_metadata (m : Model) :
    withCodes metadataCodes (check m) = (m.metadata.map checkMetadata).getD [] := by
  rw [check, withCodes_append, withCodes_append, withCodes_eq_self (code_of_mem_metadata m),
    withCodes_eq_nil (code_of_mem_checkVersion _) (by decide),
    withCodes_eq_nil (code_of_mem_checkShapes _) (by decide), List.nil_append, List.append_nil]

theorem withCodes_shapes (m : Model) : withCodes shapesCodes (check m) = checkShapes m.shapes := by
  rw [check, withCodes_append, withCodes_append, withCodes_eq_self (code_of_mem_checkShapes _),
    withCodes_eq_nil (code_of_mem_checkVersion _) (by decide),
    withCodes_eq_nil (code_of_mem_metadata m) (by decide), List.nil_append, List.nil_append]

theorem withCodes_of_version (h : codes ⊆ versionCodes) (m : Model) :
    withCodes codes (check m) = withCodes codes (checkVersion m.version) := by
  rw [← withCodes_version, withCodes_withCodes h]

theorem withCodes_of_shapes (h : codes ⊆ shapesCodes) (m : Model) :
    withCodes codes (check m) = withCodes codes (checkShapes m.shapes) := by
  rw [← withCodes_shapes, withCodes_withCodes h]

def entryProblems (e : String × Json) : Problems :=
  (if ShapeKey.IsKey e.1 then [] else [⟨"shapes." ++ e.1, .shapeKey e.1⟩])
    ++ if e.2.isObject then [] else [⟨"shapes." ++ e.1, .shapeType⟩]

/-- The problems of a document that is read: one at most of its version, and of its metadata and its
shapes that they are an array, each just where they are. Shapes that are an object are reported to
be empty or entry by entry. -/
structure Reports (document : Json) (problems : Problems) : Prop where
  version : (withCodes versionCodes problems).length ≤ 1
  versionType : withCodes ["INVALID_VERSION_TYPE"] problems = []
  metadataType : withCodes ["INVALID_METADATA_TYPE"] problems ≠ []
    ↔ ∃ items, document.get? "metadata" = some (.arr items)
  shapesMissing : withCodes ["MISSING_SHAPES"] problems = []
  shapesType : withCodes ["INVALID_SHAPES_TYPE"] problems ≠ []
    ↔ ∃ items, document.get? "shapes" = some (.arr items)
  shapes : (¬ ∃ items, document.get? "shapes" = some (.arr items)) →
    ∃ entries, document.get? "shapes" = some (.obj entries)
      ∧ (entries = [] → withCodes shapesCodes problems = [⟨"shapes", .shapesEmpty⟩])
      ∧ (entries ≠ [] → withCodes shapesCodes problems = entries.flatMap entryProblems)

theorem checkShapes_eq_flatMap {entries : Fields Json} (h : entries ≠ []) :
    checkShapes (some (.obj entries)) = entries.flatMap entryProblems := by
  obtain ⟨e, es, rfl⟩ := List.exists_cons_of_ne_nil h
  rw [checkShapes]
  · apply List.flatMap_congr
    rintro ⟨key, node⟩ -
    simp only [checkEntry, entryProblems, ShapeKey.isValid_iff]
  · rintro ⟨⟩

theorem length_checkVersion_le (v : Json) : (checkVersion v).length ≤ 1 := by
  rw [checkVersion]
  cases versionFault? v <;> simp

theorem withCodes_versionType (s : String) :
    withCodes ["INVALID_VERSION_TYPE"] (checkVersion (.str s)) = [] := by
  rw [checkVersion, versionFault?]
  split_ifs <;> simp [withCodes, DocumentFault.code]

theorem metadata_ne_nil_iff {metadata : Option Json}
    (h : ∀ v, metadata = some v → Model.isContainer v) :
    (metadata.map checkMetadata).getD [] ≠ [] ↔ ∃ items, metadata = some (.arr items) := by
  cases metadata with
  | none => simp
  | some v =>
    rcases Model.isContainer_iff.1 (h v rfl) with ⟨items, rfl⟩ | ⟨fs, rfl⟩ <;> simp [checkMetadata]

theorem withCodes_shapesMissing {v : Json} (h : Model.isContainer v) :
    withCodes ["MISSING_SHAPES"] (checkShapes (some v)) = [] := by
  rcases Model.isContainer_iff.1 h with ⟨items, rfl⟩ | ⟨entries, rfl⟩
  · rfl
  · exact withCodes_eq_nil (code_of_mem_checkEntries entries) (by decide)

theorem withCodes_shapesType_iff {v : Json} (h : Model.isContainer v) :
    withCodes ["INVALID_SHAPES_TYPE"] (checkShapes (some v)) ≠ [] ↔ ∃ items, v = .arr items := by
  rcases Model.isContainer_iff.1 h with ⟨items, rfl⟩ | ⟨entries, rfl⟩
  · exact iff_of_true (List.cons_ne_nil _ _) ⟨items, rfl⟩
  · rw [withCodes_eq_nil (code_of_mem_checkEntries entries) (by decide)]
    simp

theorem reports_check {document : Json} (h : (Model.ofDocument document).Admissible) :
    Reports document (check (Model.ofDocument document)) := by
  obtain ⟨⟨s, hversion⟩, hmetadata, v, hshapes, hcontainer⟩ := h
  have hget : document.get? "shapes" = some v := hshapes
  exact {
    version := by
      rw [withCodes_version]
      exact length_checkVersion_le _
    versionType := by
      rw [withCodes_of_version (by decide), hversion, withCodes_versionType]
    metadataType := by
      rw [← metadataCodes, withCodes_metadata]
      exact metadata_ne_nil_iff hmetadata
    shapesMissing := by
      rw [withCodes_of_shapes (by decide), hshapes, withCodes_shapesMissing hcontainer]
    shapesType := by
      rw [withCodes_of_shapes (by decide), hshapes, withCodes_shapesType_iff hcontainer, hget]
      simp only [Option.some.injEq]
    shapes := by
      simp only [withCodes_shapes, hshapes, hget, Option.some.injEq]
      intro hnot
      obtain ⟨entries, rfl⟩ := (Model.isContainer_iff.1 hcontainer).resolve_left hnot
      refine ⟨entries, rfl, ?_, checkShapes_eq_flatMap⟩
      rintro rfl
      rfl }

end DocumentCheck

namespace Model

inductive Gives : Json → Json → Prop
  | text {s : String} {document : Json} : Json.ofText s = .ok document → Gives (.str s) document
  | object {fs : Fields Json} : Gives (.obj fs) (.obj fs)

variable {input document : Json} {m : Model}

theorem read_eq_ok_iff :
    read input = .ok m ↔ ∃ document, Gives input document ∧ accept document = .ok m := by
  constructor
  · intro h
    cases input with
    | str s =>
      rw [read, parse] at h
      split at h
      · cases h
      · next document hdocument => exact ⟨document, .text hdocument, h⟩
    | obj fs => exact ⟨.obj fs, .object, h⟩
    | _ => cases h
  · rintro ⟨document, hgives, haccept⟩
    cases hgives with
    | text hdocument =>
      rw [read, parse, hdocument]
      exact haccept
    | object => exact haccept

theorem accept_of_checkDocument_eq_nil (h : DocumentCheck.checkDocument document = []) :
    accept document = .ok (ofDocument document) := by
  have hcheck : DocumentCheck.check (ofDocument document) = [] := h
  obtain ⟨hversion, hmetadata, entries, hshapes, -⟩ := DocumentCheck.check_eq_nil_iff.1 hcheck
  obtain ⟨fs, rfl, -⟩ := Json.get?_eq_some_iff.1 hshapes
  refine accept_eq_ok_iff.2 ⟨rfl, rfl, ?_, ?_, _, hshapes, rfl⟩
  · rcases hversion with hversion | hversion <;> exact ⟨_, hversion⟩
  · intro v hv
    obtain ⟨fs, rfl⟩ := Json.isObject_iff.1 (hmetadata v hv)
    rfl

/-- A document of which the checks report nothing is read. Of one that is read they report the same
as of the model: of its version one problem at most, and not that it is no text; that its metadata
or its shapes are an array, just where they are; and if the shapes are an object, that they are
empty, or for each entry what is wrong with its key and with its node. -/
theorem reading_agrees_with_checks :
    (∀ input document, Gives input document → DocumentCheck.checkDocument document = [] →
      read input = .ok (ofDocument document))
    ∧ ∀ input m, read input = .ok m → ∃ document, Gives input document
      ∧ DocumentCheck.check m = DocumentCheck.checkDocument document
      ∧ DocumentCheck.Reports document (DocumentCheck.check m) := by
  constructor
  · intro input document hgives hnil
    exact read_eq_ok_iff.2 ⟨document, hgives, accept_of_checkDocument_eq_nil hnil⟩
  · intro input m hread
    obtain ⟨document, hgives, haccept⟩ := read_eq_ok_iff.1 hread
    obtain ⟨-, rfl, hadmissible⟩ := accept_eq_ok_iff.1 haccept
    exact ⟨document, hgives, rfl, DocumentCheck.reports_check hadmissible⟩

def soundDocument : Fields Json :=
  [("smithy", .str "2.0"), ("shapes", .obj [("Text", .obj [("type", .str "string")])])]

def flawedDocument : Fields Json :=
  [("smithy", .str "3.1"), ("metadata", .arr []),
    ("shapes", .obj [("1st", .null), ("Text", .obj [("type", .str "string")])])]

theorem reading_agrees_with_checks_of_documents :
    DocumentCheck.checkDocument (.obj soundDocument) = []
      ∧ read (.obj soundDocument) = .ok (ofDocument (.obj soundDocument))
      ∧ read (.obj flawedDocument) = .ok (ofDocument (.obj flawedDocument))
      ∧ DocumentCheck.withCodes DocumentCheck.shapesCodes
          (DocumentCheck.check (ofDocument (.obj flawedDocument)))
        = [⟨"shapes.1st", .shapeKey "1st"⟩, ⟨"shapes.1st", .shapeType⟩] := by
  have hsound : DocumentCheck.checkDocument (.obj soundDocument) = [] := by decide
  have hflawed : read (.obj flawedDocument) = .ok (ofDocument (.obj flawedDocument)) := by rfl
  obtain ⟨hread, hreports⟩ := reading_agrees_with_checks
  refine ⟨hsound, hread _ _ .object hsound, hflawed, ?_⟩
  obtain ⟨document, hgives, -, h⟩ := hreports _ _ hflawed
  cases hgives with
  | object =>
    obtain ⟨entries, hentries, -, hproblems⟩ := h.shapes (by rintro ⟨items, ⟨⟩⟩)
    cases hentries
    rw [hproblems (List.cons_ne_nil _ _)]
    decide

end Model

end ShapeGraph
