import ShapeGraph.Proofs.Json.RoundTrip
import ShapeGraph.Proofs.Model.Reading

namespace ShapeGraph.Model

open Json (nestingLimit integerLimit)

variable {m : Model}

structure Admitted (m : Model) : Prop where
  admissible : m.Admissible
  part : ∀ v, m.metadata = some v ∨ m.shapes = some v → v.Admitted (nestingLimit - 1)

def isFinite (m : Model) : Bool := m.metadata.all Json.isFinite && m.shapes.all Json.isFinite

theorem exists_document (h : m.Admitted) :
    ∃ document, m.toDocument? = some document ∧ document.Admitted nestingLimit
      ∧ document.isFinite = m.isFinite ∧ accept document = .ok m := by
  obtain ⟨version, metadata, shapes⟩ := m
  have hadmissible := h.admissible
  obtain ⟨⟨⟨s, rfl⟩, -, v, rfl, -⟩, hpart⟩ := h
  refine ⟨_, rfl, ?_, ?_, accept_eq_ok_iff.2 ⟨rfl, ?_, hadmissible⟩⟩
  · have hversion : (Json.str s).Admitted (nestingLimit - 1) := .str s
    have hshapes : v.Admitted (nestingLimit - 1) := hpart v (.inr rfl)
    cases metadata with
    | none =>
      exact .obj (by simp [Fields.Distinct])
        (List.forall_mem_cons.2 ⟨hversion, List.forall_mem_singleton.2 hshapes⟩)
    | some w =>
      have hmetadata : w.Admitted (nestingLimit - 1) := hpart w (.inl rfl)
      exact .obj (by simp [Fields.Distinct])
        (List.forall_mem_cons.2 ⟨hversion, List.forall_mem_cons.2
          ⟨hmetadata, List.forall_mem_singleton.2 hshapes⟩⟩)
  · cases metadata <;> simp [isFinite]
  · cases metadata <;> simp [ofDocument, Json.getD, Fields.get?_cons]

theorem Admitted.parse_document (h : m.Admitted) (hfinite : m.isFinite) (pretty : Bool) :
    ∃ document, m.toDocument? = some document ∧ parse (document.toText pretty) = .ok m := by
  obtain ⟨document, hdocument, hadmitted, hsame, haccept⟩ := exists_document h
  refine ⟨document, hdocument, ?_⟩
  rw [parse, Json.ofText_toText hadmitted (hsame.trans hfinite)]
  exact haccept

structure Portable (m : Model) : Prop where
  admissible : m.Admissible
  part : ∀ v, m.metadata = some v ∨ m.shapes = some v → v.Portable (nestingLimit - 1)

theorem Portable.admitted (h : m.Portable) : m.Admitted :=
  ⟨h.admissible, fun v hv => (h.part v hv).admitted⟩

theorem Portable.isFinite (h : m.Portable) : m.isFinite := by
  rw [Model.isFinite, Bool.and_eq_true, Option.all_eq_true, Option.all_eq_true]
  exact ⟨fun v hv => (h.part v (.inl hv)).isFinite, fun v hv => (h.part v (.inr hv)).isFinite⟩

theorem Portable.parse_document (h : m.Portable) (pretty : Bool) :
    ∃ document, m.toDocument? = some document ∧ parse (document.toText pretty) = .ok m :=
  h.admitted.parse_document h.isFinite pretty

/-- A model without reals is read back from its own text, as it was. -/
theorem parse_toText (h : m.Portable) (pretty : Bool) :
    ∃ text, m.toText pretty = .ok text ∧ parse text = .ok m := by
  obtain ⟨document, hdocument, hparse⟩ := h.parse_document pretty
  refine ⟨document.toText pretty, ?_, hparse⟩
  rw [toText, hdocument]

def archive : Model where
  version := .str "2.0"
  metadata := some (.arr [.null, .int (-40), .obj [], .str "\x7f"])
  shapes := some (.obj [("", .arr []), ("a\n\"#\\€𝄞", .obj [("x", .bool false)])])

theorem portable_archive : archive.Portable where
  admissible := ⟨⟨_, rfl⟩, by simp [archive, isContainer], _, rfl, rfl⟩
  part := by
    have hint : (-40 : Int).natAbs < 10 ^ integerLimit := by decide +kernel
    have hentry : (Json.obj [("x", .bool false)]).Portable 898 :=
      .obj (by simp [Fields.Distinct]) (List.forall_mem_singleton.2 (.bool false))
    rintro v (hv | hv)
    · cases hv
      refine .arr ?_
      simp only [List.forall_mem_cons]
      exact ⟨.null, .int hint, .obj Fields.distinct_nil (List.forall_mem_nil _), .str _,
        List.forall_mem_nil _⟩
    · cases hv
      refine .obj (by simp [Fields.Distinct]) ?_
      simp only [List.forall_mem_cons]
      exact ⟨.arr (List.forall_mem_nil _), hentry, List.forall_mem_nil _⟩

theorem parse_toText_archive :
    archive.Portable
      ∧ ∃ text, archive.toText true = .ok text ∧ parse text = .ok archive :=
  ⟨portable_archive, parse_toText portable_archive true⟩

end ShapeGraph.Model
