import ShapeGraph.Proofs.Acceptance.Shape
import ShapeGraph.Proofs.Acceptance.Trait
import ShapeGraph.Settings.Basic

namespace ShapeGraph

namespace ShapeKey

def LetterThen (part : Char → Prop) (cs : List Char) : Prop :=
  ∃ c rest, cs = c :: rest ∧ Text.isLetter c ∧ ∀ d ∈ rest, part d

def IsName (cs : List Char) : Prop := LetterThen (Text.isIdentifierPart ·) cs

def IsNamespace (cs : List Char) : Prop :=
  LetterThen (fun c => Text.isIdentifierPart c ∨ c = '.') cs

def IsKey (key : String) : Prop :=
  IsName key.toList ∨ ∃ ns name, key.toList = ns ++ '#' :: name ∧ IsNamespace ns ∧ IsName name

variable {part : Char → Prop} {cs : List Char}

theorem isName_iff : isName cs ↔ IsName cs := by
  cases cs <;> simp [isName, startsWithLetter, IsName, LetterThen]

theorem isNamespace_iff : isNamespace cs ↔ IsNamespace cs := by
  cases cs <;> simp [isNamespace, startsWithLetter, IsNamespace, LetterThen]

theorem LetterThen.not_mem {x : Char} (h : LetterThen part cs) (hletter : Text.isLetter x = false)
    (hpart : ¬ part x) : x ∉ cs := by
  obtain ⟨c, rest, rfl, hc, hrest⟩ := h
  intro hx
  rcases List.mem_cons.1 hx with rfl | hx
  · simp [hletter] at hc
  · exact hpart (hrest x hx)

theorem IsName.hash_not_mem (h : IsName cs) : '#' ∉ cs := h.not_mem (by decide) (by decide)

theorem IsNamespace.hash_not_mem (h : IsNamespace cs) : '#' ∉ cs :=
  h.not_mem (by decide) (by decide)

theorem isValid_iff {key : String} : isValid key ↔ IsKey key := by
  simp only [isValid, IsKey]
  split
  · next h =>
    have hn := Text.cutAt_eq_none_iff.1 h
    rw [isName_iff]
    constructor
    · exact .inl
    · rintro (hname | ⟨ns, name, hkey, -⟩)
      · exact hname
      · simp [hkey] at hn
  · next ns name h =>
    rw [Bool.and_eq_true, isNamespace_iff, isName_iff]
    constructor
    · exact fun hv => .inr ⟨ns, name, (Text.cutAt_eq_some_iff.1 h).1, hv⟩
    · rintro (hname | ⟨ns', name', hkey, hns, hname⟩)
      · have := hname.hash_not_mem
        simp [(Text.cutAt_eq_some_iff.1 h).1] at this
      · have := Text.cutAt_eq_some_iff.2 ⟨hkey, hns.hash_not_mem⟩
        obtain ⟨rfl, rfl⟩ := Prod.mk.inj (Option.some.inj (h.symm.trans this))
        exact ⟨hns, hname⟩

end ShapeKey

namespace Json

def HasAcceptedTraits (v : Json) : Prop :=
  v.WhenPresent "traits" fun traits =>
    ∀ fs, traits = .obj fs → ∀ traitId value, (traitId, value) ∈ fs → value.IsTraitValue traitId

inductive HasMember (v : Json) : Json → Prop
  | named {fs : Fields Json} {name : String} {member : Json} :
      v.get? "members" = some (.obj fs) → (name, member) ∈ fs → HasMember v member
  | slot {name : String} {member : Json} :
      name ∈ ["member", "key", "value"] → v.get? name = some member → HasMember v member

end Json

namespace Model

structure WellFormedShape (ids : List String) (id : String) (node : Json) : Prop where
  key : ShapeKey.IsKey id
  shape : node.IsShape (· ∈ ids)
  traits : node.HasAcceptedTraits
  memberTraits : ∀ member, node.HasMember member → member.HasAcceptedTraits

structure WellFormed (m : Model) : Prop where
  version : m.version = .str "1.0" ∨ m.version = .str "2.0"
  metadata : ∀ v, m.metadata = some v → v.isObject
  shapes : ∃ entries, m.shapes = some (.obj entries) ∧ entries ≠ []
    ∧ ∀ id node, (id, node) ∈ entries → WellFormedShape (Fields.keys entries) id node

end Model

namespace DocumentCheck

theorem versionFault?_eq_none_iff {v : Json} :
    versionFault? v = none ↔ v = .str "1.0" ∨ v = .str "2.0" := by
  cases v with
  | str s =>
    simp only [Json.str.injEq]
    constructor
    · intro h
      simp only [versionFault?] at h
      split_ifs at h with _ _ hs
      simpa [supportedVersions] using hs
    · rintro (rfl | rfl) <;> decide
  | _ => simp [versionFault?]

theorem checkMetadata_eq_nil_iff {v : Json} : checkMetadata v = [] ↔ v.isObject := by
  cases v <;> simp [checkMetadata, Json.isObject, Json.fields?]

theorem checkShapes_eq_nil_iff {shapes : Option Json} :
    checkShapes shapes = [] ↔ ∃ entries, shapes = some (.obj entries) ∧ entries ≠ []
      ∧ ∀ id node, (id, node) ∈ entries → ShapeKey.IsKey id ∧ node.isObject := by
  have hentry (id : String) (node : Json) :
      checkEntry id node = [] ↔ ShapeKey.IsKey id ∧ node.isObject := by
    simp [checkEntry, ShapeKey.isValid_iff]
  rcases shapes with _ | v
  · simp [checkShapes]
  · cases v with
    | obj entries =>
      cases entries with
      | nil => simp [checkShapes]
      | cons e es =>
        simp only [checkShapes, List.flatMap_eq_nil_iff, Prod.forall, hentry]
        simp
    | _ => simp [checkShapes]

theorem check_eq_nil_iff {m : Model} :
    check m = [] ↔ (m.version = .str "1.0" ∨ m.version = .str "2.0")
      ∧ (∀ v, m.metadata = some v → v.isObject)
      ∧ ∃ entries, m.shapes = some (.obj entries) ∧ entries ≠ []
        ∧ ∀ id node, (id, node) ∈ entries → ShapeKey.IsKey id ∧ node.isObject := by
  simp only [check, List.append_eq_nil_iff, checkShapes_eq_nil_iff, and_assoc]
  refine and_congr ?_ (and_congr ?_ Iff.rfl)
  · cases h : versionFault? m.version <;> simp [checkVersion, h, ← versionFault?_eq_none_iff]
  · cases m.metadata <;> simp [checkMetadata_eq_nil_iff]

end DocumentCheck

theorem Scope.allows_ofIds {ids : List String} (h : ids ≠ []) (target : String) :
    (Scope.ofIds ids).allows target ↔ target ∈ ids := by
  simp [Scope.ofIds, Scope.allows, h]

namespace Model

variable {m : Model} {id : String} {node : Json}

theorem shapeProblems_eq_nil_iff {scope : Scope} :
    shapeProblems scope id node = [] ↔ node.IsShape (scope.allows ·) := by
  simp [shapeProblems, ShapeCheck.checkJson_eq_nil_iff]

theorem mem_fieldsD_getD_iff {name key : String} {value : Json} :
    (key, value) ∈ (node.getD name).fieldsD
      ↔ ∃ fs, node.get? name = some (.obj fs) ∧ (key, value) ∈ fs := by
  cases h : node.get? name with
  | none => simp [Json.getD, h, Json.fieldsD, Json.fields?]
  | some x => cases x <;> simp [Json.getD, h, Json.fieldsD, Json.fields?]

theorem appliedProblems_eq_nil_iff {place : String} :
    appliedProblems place (node.getD "traits") = [] ↔ node.HasAcceptedTraits := by
  simp only [appliedProblems, List.flatMap_eq_nil_iff, List.map_eq_nil_iff,
    TraitCheck.checkJson_eq_nil_iff, Prod.forall, mem_fieldsD_getD_iff]
  constructor
  · rintro h _ hx fs rfl traitId value hmem
    exact h traitId value ⟨fs, hx, hmem⟩
  · rintro h traitId value ⟨fs, hx, hmem⟩
    exact h _ hx fs rfl traitId value hmem

theorem mem_memberNodes_iff {member : Json} :
    (∃ place, (place, member) ∈ memberNodes node) ↔ node.HasMember member ∧ member.isObject := by
  simp only [memberNodes, List.mem_filter, List.mem_append, List.mem_map, Prod.exists,
    Prod.mk.injEq]
  constructor
  · rintro ⟨place, ⟨name, x, hmem, rfl, rfl⟩ | ⟨name, hname, rfl, rfl⟩, hobj⟩
    · obtain ⟨fs, hfs, hmem⟩ := mem_fieldsD_getD_iff.1 hmem
      exact ⟨.named hfs hmem, hobj⟩
    · refine ⟨.slot hname ((Json.getD_eq_iff ?_).1 rfl), hobj⟩
      intro hnull
      simp [hnull, Json.isObject, Json.fields?] at hobj
  · rintro ⟨⟨hfs, hmem⟩ | ⟨hname, hx⟩, hobj⟩
    · exact ⟨_, .inl ⟨_, _, mem_fieldsD_getD_iff.2 ⟨_, hfs, hmem⟩, rfl, rfl⟩, hobj⟩
    · exact ⟨_, .inr ⟨_, hname, rfl, Json.getD_eq_of_get? hx⟩, hobj⟩

theorem hasAcceptedTraits_of_not_isObject (h : ¬ node.isObject) : node.HasAcceptedTraits := by
  intro x hx
  obtain ⟨fs, rfl, -⟩ := Json.get?_eq_some_iff.1 hx
  exact absurd rfl h

theorem traitProblems_eq_nil_iff :
    traitProblems Checks.all id node = [] ↔
      node.HasAcceptedTraits ∧ ∀ member, node.HasMember member → member.HasAcceptedTraits := by
  simp only [traitProblems, Checks.all, if_true, List.append_eq_nil_iff,
    appliedProblems_eq_nil_iff, List.flatMap_eq_nil_iff, Prod.forall]
  refine and_congr_right fun _ => ?_
  constructor
  · intro h member hmember
    by_cases hobj : member.isObject
    · obtain ⟨place, hmem⟩ := mem_memberNodes_iff.2 ⟨hmember, hobj⟩
      exact h place member hmem
    · exact hasAcceptedTraits_of_not_isObject hobj
  · intro h place member hmem
    exact h member (mem_memberNodes_iff.1 ⟨place, hmem⟩).1

theorem entries_of_shapes {entries : Fields Json} (h : m.shapes = some (.obj entries)) :
    m.entries = entries := by
  simp [Model.entries, h, Json.fields?]

theorem nodes_of_shapes {entries : Fields Json} (h : m.shapes = some (.obj entries))
    (hobj : ∀ id node, (id, node) ∈ entries → node.isObject) : m.nodes = entries := by
  rw [nodes, entries_of_shapes h, List.filter_eq_self]
  exact fun e he => hobj e.1 e.2 he

theorem ids_of_shapes {entries : Fields Json} (h : m.shapes = some (.obj entries)) :
    m.ids = Fields.keys entries := by
  rw [ids, entries_of_shapes h]

theorem ids_ne_nil {entries : Fields Json} (h : m.shapes = some (.obj entries))
    (hne : entries ≠ []) : m.ids ≠ [] := by
  simpa [ids_of_shapes h, Fields.keys] using hne

theorem allows_scope (hne : m.ids ≠ []) (target : String) :
    (m.scope true).allows target ↔ target ∈ m.ids :=
  Scope.allows_ofIds hne target

theorem mem_ids_of_mem_nodes (h : (id, node) ∈ m.nodes) : id ∈ m.ids :=
  List.mem_map.2 ⟨(id, node), List.mem_of_mem_filter h, rfl⟩

theorem isShape_of_problems_eq_nil {checks : Checks} (h : m.problems checks = [])
    (hmem : (id, node) ∈ m.nodes) : node.IsShape ((m.scope checks.references).allows ·) := by
  simp only [problems, List.append_eq_nil_iff, List.flatMap_eq_nil_iff] at h
  exact shapeProblems_eq_nil_iff.1 (h.1.2 (id, node) hmem)

theorem wellFormedShape_iff {ids : List String} :
    WellFormedShape ids id node ↔ ShapeKey.IsKey id ∧ node.IsShape (· ∈ ids)
      ∧ node.HasAcceptedTraits ∧ ∀ member, node.HasMember member → member.HasAcceptedTraits :=
  ⟨fun h => ⟨h.key, h.shape, h.traits, h.memberTraits⟩, fun ⟨hk, hs, ht, hm⟩ => ⟨hk, hs, ht, hm⟩⟩

theorem problems_eq_nil_iff : m.problems Checks.all = [] ↔ m.WellFormed := by
  have hall : m.problems Checks.all = [] ↔ DocumentCheck.check m = []
      ∧ ∀ id node, (id, node) ∈ m.nodes → node.IsShape ((m.scope true).allows ·)
        ∧ node.HasAcceptedTraits ∧ ∀ member, node.HasMember member → member.HasAcceptedTraits := by
    simp only [problems, List.append_eq_nil_iff, List.map_eq_nil_iff, List.flatMap_eq_nil_iff,
      Prod.forall, shapeProblems_eq_nil_iff, traitProblems_eq_nil_iff, and_assoc, forall_and]
    rfl
  rw [hall, DocumentCheck.check_eq_nil_iff]
  constructor
  · rintro ⟨⟨hversion, hmetadata, entries, hshapes, hne, hentries⟩, hnodes⟩
    refine ⟨hversion, hmetadata, entries, hshapes, hne, fun id node hmem => ?_⟩
    rw [nodes_of_shapes hshapes fun id node h => (hentries id node h).2] at hnodes
    simp only [allows_scope (ids_ne_nil hshapes hne), ids_of_shapes hshapes] at hnodes
    exact wellFormedShape_iff.2 ⟨(hentries id node hmem).1, hnodes id node hmem⟩
  · rintro ⟨hversion, hmetadata, entries, hshapes, hne, hentries⟩
    have hobj (id : String) (node : Json) (h : (id, node) ∈ entries) : node.isObject :=
      (hentries id node h).shape.isObject
    refine ⟨⟨hversion, hmetadata, entries, hshapes, hne, fun id node h =>
      ⟨(hentries id node h).key, hobj id node h⟩⟩, ?_⟩
    rw [nodes_of_shapes hshapes hobj]
    simp only [allows_scope (ids_ne_nil hshapes hne), ids_of_shapes hshapes]
    exact fun id node h => (wellFormedShape_iff.1 (hentries id node h)).2

end Model

/-- A validation with default settings finds nothing exactly in well-formed models. -/
theorem Model.isValid_validate_iff_wellFormed (m : Model) (homes : Files.Homes)
    (here : List String) :
    (Settings.ofEnvironment? [] (Files.places homes here)).any
        (fun s => (m.validate (s.checksWith (some true))).isValid)
      ↔ m.WellFormed := by
  have hchecks : (Settings.ofEnvironment? [] (Files.places homes here)).any
      (fun s => (m.validate (s.checksWith (some true))).isValid)
        = (m.validate Checks.all).isValid := rfl
  rw [hchecks, ← Model.problems_eq_nil_iff]
  simp [Report.isValid, Model.validate]

end ShapeGraph
