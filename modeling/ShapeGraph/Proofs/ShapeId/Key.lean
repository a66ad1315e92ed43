import Mathlib.Data.List.Basic
import ShapeGraph.Proofs.Acceptance.Model
import ShapeGraph.Proofs.ShapeId.Spelling

/-!
Two grammars, of shape keys and of shape ids, and where they part. A key has no member, and a letter
at the front of its namespace and of its name; an id has an identifier in each segment of its
namespace.
-/

namespace ShapeGraph

section

variable {c : Char} {cs : List Char}

def BeginsIdentifier (cs : List Char) : Prop :=
  ∃ c rest, cs = c :: rest ∧ Text.isIdentifierStart c

theorem IdentifierText.begins (h : IdentifierText cs) : BeginsIdentifier cs := by
  obtain ⟨c, rest, rfl, hc, -⟩ := Text.exists_of_isIdentifierChars (isIdentifierChars_iff.2 h)
  exact ⟨c, rest, rfl, hc⟩

theorem NamespaceText.begins (h : NamespaceText cs) : BeginsIdentifier cs := by
  cases h with
  | one h => exact h.begins
  | more h _ =>
    obtain ⟨c, rest, rfl, hc⟩ := h.begins
    exact ⟨c, _, rfl, hc⟩

theorem BeginsIdentifier.head?_append (h : BeginsIdentifier cs) (rest : List Char) :
    (cs ++ rest).head? = cs.head? := by
  obtain ⟨c, tail, rfl, -⟩ := h
  rfl

theorem isLetter_iff_of_isIdentifierStart (h : Text.isIdentifierStart c) :
    Text.isLetter c ↔ c ≠ '_' := by
  rw [Text.isIdentifierStart, Bool.or_eq_true, decide_eq_true_eq] at h
  constructor
  · rintro hc rfl
    exact absurd hc (by decide)
  · exact h.resolve_right

theorem not_isDigit_of_isIdentifierStart (h : Text.isIdentifierStart c) : ¬ c.isDigit := by
  simp only [Text.isIdentifierStart, Text.isLetter, Char.isDigit, Bool.or_eq_true,
    Bool.and_eq_true, decide_eq_true_eq, Char.le_def, UInt32.le_iff_toNat_le,
    ← Char.toNat_inj] at h ⊢
  change ((65 ≤ c.toNat ∧ c.toNat ≤ 90) ∨ 97 ≤ c.toNat ∧ c.toNat ≤ 122) ∨ c.toNat = 95 at h
  change ¬ (48 ≤ c.toNat ∧ c.toNat ≤ 57)
  omega

theorem isIdentifierStart_iff_of_isIdentifierPart (h : Text.isIdentifierPart c) :
    Text.isIdentifierStart c ↔ ¬ c.isDigit := by
  constructor
  · exact not_isDigit_of_isIdentifierStart
  · exact (isIdentifierPart_iff_or.1 h).resolve_right

theorem isIdentifierChars_iff_of_parts (h : ∀ c ∈ cs, Text.isIdentifierPart c) :
    Text.isIdentifierChars cs ↔ cs ≠ [] ∧ ∀ c ∈ cs.head?, ¬ c.isDigit := by
  cases cs with
  | nil => simp [Text.isIdentifierChars]
  | cons c rest =>
    obtain ⟨hc, hrest⟩ := List.forall_mem_cons.1 h
    have hall : rest.all Text.isIdentifierPart := List.all_eq_true.2 hrest
    rw [Text.isIdentifierChars, hall, Bool.and_true, isIdentifierStart_iff_of_isIdentifierPart hc]
    simp

end

namespace ShapeId

theorem head?_text (id : ShapeId) :
    id.text.toList.head? = (id.ns.getD id.name).toList.head? := by
  rw [text, toList_join]
  cases h : id.ns with
  | none => exact id.identifierText_name.begins.head?_append _
  | some ns =>
    rw [Option.elim_some, List.append_assoc]
    exact (namespaceText_of_ns h).begins.head?_append _

end ShapeId

namespace ShapeKey

variable {part : Char → Prop} {cs ns name : List Char} {c : Char}

theorem letterThen_iff (hbegins : BeginsIdentifier cs) (hpart : ∀ c ∈ cs, part c) :
    LetterThen part cs ↔ cs.head? ≠ some '_' := by
  obtain ⟨c, rest, rfl, hc⟩ := hbegins
  rw [List.head?_cons, ne_eq, Option.some.injEq, ← ne_eq, ← isLetter_iff_of_isIdentifierStart hc]
  constructor
  · rintro ⟨d, tail, heq, hd, -⟩
    rw [(List.cons.inj heq).1]
    exact hd
  · intro hletter
    exact ⟨c, rest, rfl, hletter, fun d hd => hpart d (List.mem_cons_of_mem c hd)⟩

theorem isName_iff_of_identifierText (h : IdentifierText cs) : IsName cs ↔ cs.head? ≠ some '_' :=
  letterThen_iff h.begins fun _ hc => h.isPart hc

theorem isNamespace_iff_of_namespaceText (h : NamespaceText cs) :
    IsNamespace cs ↔ cs.head? ≠ some '_' :=
  letterThen_iff h.begins fun _ hc => h.isPart hc

theorem isName_join_iff (id : ShapeId) : IsName (ShapeId.join none id.name id.member).toList
    ↔ id.member = none ∧ id.name.toList.head? ≠ some '_' := by
  rw [ShapeId.toList_join, Option.elim_none, List.nil_append]
  cases id.member with
  | none => simp [isName_iff_of_identifierText id.identifierText_name]
  | some member =>
    have hdollar : ¬ IsName (id.name.toList ++ '$' :: member.toList) :=
      fun h => h.not_mem (by decide) (by decide) (List.mem_append_right _ List.mem_cons_self)
    simpa using hdollar

theorem isValid_text_iff (id : ShapeId) : isValid id.text
    ↔ id.member = none ∧ id.text.toList.head? ≠ some '_' ∧ id.name.toList.head? ≠ some '_' := by
  have hcut := id.cut_hash_text
  rw [isValid, ShapeId.head?_text]
  cases h : id.ns with
  | none =>
    rw [h, Option.map_none, Text.cut_eq_none_iff, ← Text.cutAt_eq_none_iff] at hcut
    rw [hcut, isName_iff, ShapeId.text, h, isName_join_iff, Option.getD_none, and_self]
  | some ns =>
    rw [h, Option.map_some, Text.cut_eq_some_iff, ← Text.cutAt_eq_some_iff] at hcut
    rw [hcut, Bool.and_eq_true, isNamespace_iff, isName_iff, isName_join_iff,
      isNamespace_iff_of_namespaceText (ShapeId.namespaceText_of_ns h), Option.getD_some,
      and_left_comm]

theorem IsName.identifierText (h : IsName cs) : IdentifierText cs := by
  obtain ⟨c, rest, rfl, hc, hrest⟩ := h
  exact .intro (.inl (isLetter_iff.1 hc)) fun d hd => isIdentifierPart_iff.1 (hrest d hd)

theorem IsNamespace.isPart (h : IsNamespace cs) (hc : c ∈ cs) :
    Text.isIdentifierPart c ∨ c = '.' := by
  obtain ⟨d, rest, rfl, hd, hrest⟩ := h
  rcases List.mem_cons.1 hc with rfl | hc
  · left
    rw [isIdentifierPart_iff_or, Text.isIdentifierStart, hd, Bool.true_or]
    exact .inl rfl
  · exact hrest c hc

theorem IsNamespace.namespaceText_iff (h : IsNamespace ns) : NamespaceText ns
    ↔ ∀ segment ∈ Text.pieces '.' ns, segment ≠ [] ∧ ∀ c ∈ segment.head?, ¬ c.isDigit := by
  rw [← ShapeGraph.namespaceText_iff, List.all_eq_true]
  refine forall₂_congr fun segment hsegment => isIdentifierChars_iff_of_parts fun c hc => ?_
  apply (h.isPart (Text.subset_of_mem_pieces hsegment hc)).resolve_right
  rintro rfl
  exact Text.not_mem_of_mem_pieces hsegment hc

theorem exists_parse_of_isName {key : String} (h : IsName key.toList) :
    ∃ id, ShapeId.parse key = .ok id := by
  have hvalid : Text.isIdentifier key := isIdentifierChars_iff.2 h.identifierText
  exact ⟨⟨none, key, none, rfl, hvalid, rfl⟩,
    ShapeId.parse_eq_ok_iff.2 (by simp [ShapeId.text, ShapeId.join])⟩

theorem exists_parse_iff_namespaceText {key : String} (hkey : key.toList = ns ++ '#' :: name)
    (hns : IsNamespace ns) (hname : IsName name) :
    (∃ id, ShapeId.parse key = .ok id) ↔ NamespaceText ns := by
  simp only [ShapeId.parse_eq_ok_iff]
  constructor
  · rintro ⟨id, rfl⟩
    have hcut : Text.cut '#' id.text = some (String.ofList ns, String.ofList name) :=
      Text.cut_eq_some_iff.2 (by simpa using ⟨hkey, hns.hash_not_mem⟩)
    rw [id.cut_hash_text, Option.map_eq_some_iff] at hcut
    obtain ⟨s, hs, heq⟩ := hcut
    rw [(Prod.mk.inj heq).1] at hs
    simpa using ShapeId.namespaceText_of_ns hs
  · intro h
    have hns' : Text.isNamespace (String.ofList ns) :=
      ShapeGraph.namespaceText_iff.2 (by simpa using h)
    have hname' : Text.isIdentifier (String.ofList name) :=
      isIdentifierChars_iff.2 (by simpa using hname.identifierText)
    refine ⟨⟨some (String.ofList ns), String.ofList name, none, hns', hname', rfl⟩, ?_⟩
    rw [← String.toList_inj, ShapeId.text, ShapeId.toList_join, hkey]
    simp

/-- An id is a key unless it has a member or begins with an underscore, as a whole or in its name.
A key is an id if each segment of its namespace has something in it and begins with no digit. -/
theorem keys_and_ids :
    (∀ s id, ShapeId.parse s = .ok id → (isValid s
      ↔ id.member = none ∧ s.toList.head? ≠ some '_' ∧ id.name.toList.head? ≠ some '_'))
    ∧ ∀ s, isValid s → ((∃ id, ShapeId.parse s = .ok id)
      ↔ ∀ ns name, s.toList = ns ++ '#' :: name → ∀ segment ∈ Text.pieces '.' ns,
        segment ≠ [] ∧ ∀ c ∈ segment.head?, ¬ c.isDigit) := by
  constructor
  · intro s id hs
    obtain rfl := ShapeId.parse_eq_ok_iff.1 hs
    exact isValid_text_iff id
  · intro s hs
    rcases isValid_iff.1 hs with hname | ⟨ns, name, hkey, hns, hname⟩
    · refine iff_of_true (exists_parse_of_isName hname) fun ns name hkey => ?_
      have hhash := hname.hash_not_mem
      simp [hkey] at hhash
    · rw [exists_parse_iff_namespaceText hkey hns hname, hns.namespaceText_iff]
      constructor
      · intro h ns' name' hkey'
        rw [hkey, List.append_cons_inj_of_notMem hns.hash_not_mem hname.hash_not_mem] at hkey'
        obtain ⟨rfl, -, -⟩ := hkey'
        exact h
      · intro h
        exact h ns name hkey

def hallRoom : ShapeId := ⟨some "_hall", "Room", none, by decide, by decide, Option.all_none⟩

theorem keys_and_ids_of_rooms : ShapeId.parse "_hall#Room" = .ok hallRoom
    ∧ ¬ isValid "_hall#Room" ∧ isValid "hall.1#Room"
    ∧ ¬ ∃ id, ShapeId.parse "hall.1#Room" = .ok id := by
  obtain ⟨hid, hkey⟩ := keys_and_ids
  have hhall : ShapeId.parse "_hall#Room" = .ok hallRoom := ShapeId.parse_eq_ok_iff.2 (by decide)
  have hroom : isValid "hall.1#Room" := by decide
  refine ⟨hhall, ?_, hroom, ?_⟩
  · rw [hid _ _ hhall]
    decide
  · rw [hkey _ hroom]
    intro h
    have hsegment := h "hall.1".toList "Room".toList (by decide) ['1'] (by decide)
    exact hsegment.2 '1' rfl rfl

end ShapeKey

end ShapeGraph
