import Mathlib.Data.List.Forall2
import ShapeGraph.Files.Load
import ShapeGraph.Model.Check
import ShapeGraph.Proofs.Json.Distinct
import ShapeGraph.Proofs.Json.LineEnds
import ShapeGraph.Proofs.Model.Merge
import ShapeGraph.Proofs.Model.RoundTrip

namespace ShapeGraph

open Files.Tree (unixLines)

namespace Model

variable {m : Model} {text : String}

theorem distinct_of_parse (h : parse text = .ok m) :
    m.entries.Distinct ∧ m.metadataFields.Distinct := by
  obtain ⟨document, htext, -, rfl, -⟩ := parse_eq_ok_iff.1 h
  have hdistinct {key : String} :
      Fields.Distinct (((document.get? key).bind Json.fields?).getD []) := by
    cases hv : document.get? key with
    | none => exact Fields.distinct_nil
    | some v =>
      have hv := htext.distinct.of_get? hv
      cases v with
      | obj fs => exact hv.1
      | _ => exact Fields.distinct_nil
  exact ⟨hdistinct, hdistinct⟩

theorem parse_unixLines (h : parse text = .ok m) :
    parse (String.ofList (unixLines text.toList)) = .ok m := by
  obtain ⟨document, htext, hdocument⟩ := parse_eq_ok_iff.1 h
  refine parse_eq_ok_iff.2 ⟨document, ?_, hdocument⟩
  rw [String.toList_ofList]
  exact htext.unixLines

theorem statesVersion_of_parse (h : parse text = .ok m) : m.statesVersion := by
  obtain ⟨-, -, -, -, hadmissible⟩ := parse_eq_ok_iff.1 h
  obtain ⟨s, hs⟩ := hadmissible.version
  rw [statesVersion, hs]

end Model

namespace Files.Tree

variable {t : Tree} {here place : List String} {p : Path} {paths : List Path} {models : List Model}
  {m : Model} {text : String}

theorem fromUTF8?_toUTF8 (text : String) : String.fromUTF8? text.toUTF8 = some text := by
  have hvalid : text.toUTF8.IsValidUTF8 := text.isValidUTF8
  rw [String.fromUTF8?, dif_pos hvalid]
  rfl

theorem readText_of_access (h : t.access here p = .ok (place, .file text.toUTF8)) :
    t.readText here p = .ok (String.ofList (unixLines text.toList)) := by
  rw [readText, h]
  simp only [fromUTF8?_toUTF8]

def Holds (t : Tree) (here : List String) (p : Path) (m : Model) : Prop :=
  ∃ text, t.readText here p = .ok text ∧ Model.parse text = .ok m

theorem holds_of_access (hfile : t.access here p = .ok (place, .file text.toUTF8))
    (hparse : Model.parse text = .ok m) : t.Holds here p m :=
  ⟨_, readText_of_access hfile, Model.parse_unixLines hparse⟩

theorem readModel_of_readText (h : t.readText here p = .ok text) :
    t.readModel here p = (Model.parse text).mapError LoadError.read := by
  rw [readModel, h]

theorem Holds.readModel (h : t.Holds here p m) : t.readModel here p = .ok m := by
  obtain ⟨text, htext, hparse⟩ := h
  rw [readModel_of_readText htext, hparse]
  rfl

theorem readModels_of_holds (h : List.Forall₂ (t.Holds here) paths models) :
    t.readModels here paths = .ok models := by
  induction h with
  | nil => rfl
  | cons hm _ ih =>
    rw [readModels, hm.readModel, ih]
    rfl

theorem loadAll_of_holds (h : List.Forall₂ (t.Holds here) paths models) :
    t.loadAll here paths = .ok (Model.merge models) := by
  rw [loadAll, readModels_of_holds h]
  rfl

/-- A file is loaded as it is parsed, exactly if its shapes are an object and its metadata, where
there is any, an object that is not empty. -/
theorem loadAll_file (hfile : t.access here p = .ok (place, .file text.toUTF8))
    (hparse : Model.parse text = .ok m) :
    ∃ n, t.loadAll here [p] = .ok n ∧ n.version = m.version ∧ n.entries = m.entries
      ∧ n.metadataFields = m.metadataFields ∧ (n = m ↔ m.Mergeable) := by
  obtain ⟨hentries, hmetadata⟩ := Model.distinct_of_parse hparse
  refine ⟨Model.merge [m], loadAll_of_holds (.cons (holds_of_access hfile hparse) .nil),
    Model.version_merge_singleton m, ?_, ?_, Model.merge_singleton_eq_iff hentries hmetadata⟩
  · rw [Model.entries_merge, List.map_singleton, List.flatten_singleton,
      Fields.ofList_eq_self hentries]
  · rw [Model.metadataFields_merge, List.map_singleton, List.flatten_singleton,
      Fields.ofList_eq_self hmetadata]

def leaflet (metadata : Json) (type : String) : Model where
  version := .str "2.0"
  metadata := some metadata
  shapes := some (.obj [("Text", .obj [("type", .str type)])])

def leafletText (metadata : Json) (type : String) : String :=
  (Json.obj [("smithy", .str "2.0"), ("metadata", metadata),
    ("shapes", .obj [("Text", .obj [("type", .str type)])])]).toText false

theorem parse_leafletText {metadata : Json} (hcontainer : Model.isContainer metadata)
    (hmetadata : metadata.Portable 899) (type : String) :
    Model.parse (leafletText metadata type) = .ok (leaflet metadata type) := by
  have hnode : (Json.obj [("type", .str type)]).Portable 898 :=
    .obj (by simp [Fields.Distinct]) (List.forall_mem_singleton.2 (.str type))
  have hportable : (leaflet metadata type).Portable := by
    refine ⟨⟨⟨_, rfl⟩, ?_, _, rfl, rfl⟩, ?_⟩
    · intro v hv
      cases hv
      exact hcontainer
    · rintro v (hv | hv)
      · cases hv
        exact hmetadata
      · cases hv
        exact .obj (by simp [Fields.Distinct]) (List.forall_mem_singleton.2 hnode)
  obtain ⟨document, hdocument, hparse⟩ := hportable.parse_document false
  cases hdocument
  exact hparse

def owner (name : String) : Json := .obj [("owner", .str name)]

theorem parse_ownedText (name type : String) :
    Model.parse (leafletText (owner name) type) = .ok (leaflet (owner name) type) :=
  parse_leafletText rfl (.obj (by simp [Fields.Distinct]) (List.forall_mem_singleton.2 (.str name)))
    type

def shelf (texts : List (String × String)) : Tree :=
  ⟨texts.map fun (name, text) => ([name], .file text.toUTF8)⟩

theorem loadAll_file_shelf :
    (shelf [("a.json", leafletText (owner "w") "string")]).access [] ⟨.here, ["a.json"]⟩
        = .ok (["a.json"], .file (leafletText (owner "w") "string").toUTF8)
      ∧ Model.parse (leafletText (owner "w") "string") = .ok (leaflet (owner "w") "string")
      ∧ ∃ n, (shelf [("a.json", leafletText (owner "w") "string")]).loadAll [] [⟨.here, ["a.json"]⟩]
          = .ok n ∧ n.version = .str "2.0" ∧ n.ids = ["Text"]
        ∧ (n = leaflet (owner "w") "string" ↔ (leaflet (owner "w") "string").Mergeable) := by
  have hfile : (shelf [("a.json", leafletText (owner "w") "string")]).access [] ⟨.here, ["a.json"]⟩
      = .ok (["a.json"], .file (leafletText (owner "w") "string").toUTF8) := rfl
  have hparse := parse_ownedText "w" "string"
  obtain ⟨n, hload, hversion, hentries, -, hiff⟩ := loadAll_file hfile hparse
  exact ⟨hfile, hparse, n, hload, hversion, congrArg Fields.keys hentries, hiff⟩

def arrayText : String :=
  "\x7b\"smithy\": \"2.0\", \"metadata\": [], \"shapes\": "
    ++ "\x7b\"Text\": \x7b\"type\": \"string\"\x7d\x7d\x7d"

theorem loadAll_drops_array :
    Model.parse arrayText = .ok (leaflet (.arr []) "string")
      ∧ ¬ ((leaflet (.arr []) "string").validate Checks.all).isValid
      ∧ ∃ n, (shelf [("a.json", arrayText)]).loadAll [] [⟨.here, ["a.json"]⟩] = .ok n
        ∧ n ≠ leaflet (.arr []) "string" ∧ (n.validate Checks.all).isValid := by
  have htext : arrayText = leafletText (.arr []) "string" := by decide +kernel
  have hparse : Model.parse arrayText = .ok (leaflet (.arr []) "string") := by
    rw [htext]
    exact parse_leafletText rfl (.arr (List.forall_mem_nil _)) "string"
  refine ⟨hparse, by decide, _, loadAll_of_holds (.cons (holds_of_access rfl hparse) .nil), ?_,
    by decide⟩
  intro h
  cases congrArg Model.metadata h

end Files.Tree

end ShapeGraph
