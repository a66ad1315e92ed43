import ShapeGraph.Proofs.Reading
import ShapeGraph.Proofs.Text.Identifier
import ShapeGraph.ShapeId.Basic

namespace ShapeGraph

section

variable {c : Char} {cs piece : List Char} {pieces : List (List Char)}

inductive IdentifierText : List Char → Prop
  | intro {c : Char} {cs : List Char} : c.isAlpha ∨ c = '_' → (∀ d ∈ cs, d.isAlphanum ∨ d = '_') →
      IdentifierText (c :: cs)

inductive NamespaceText : List Char → Prop
  | one {cs : List Char} : IdentifierText cs → NamespaceText cs
  | more {cs rest : List Char} : IdentifierText cs → NamespaceText rest →
      NamespaceText (cs ++ '.' :: rest)

theorem isLetter_iff : Text.isLetter c ↔ c.isAlpha := by
  have hupper : c.isUpper = decide ('A' ≤ c ∧ c ≤ 'Z') := rfl
  have hlower : c.isLower = (decide ('a' ≤ c) && decide (c ≤ 'z')) := rfl
  have halpha : c.isAlpha = (c.isUpper || c.isLower) := rfl
  simp [Text.isLetter, halpha, hupper, hlower]

theorem isIdentifierStart_iff : Text.isIdentifierStart c ↔ c.isAlpha ∨ c = '_' := by
  simp [Text.isIdentifierStart, isLetter_iff]

theorem isIdentifierPart_iff_or :
    Text.isIdentifierPart c ↔ Text.isIdentifierStart c ∨ c.isDigit := by
  have hdigit : ('0' ≤ c && c ≤ '9') ↔ c.isDigit := by simp [Char.isDigit, Char.le_def]
  rw [Text.isIdentifierPart, Bool.or_eq_true, hdigit]

theorem isIdentifierPart_iff : Text.isIdentifierPart c ↔ c.isAlphanum ∨ c = '_' := by
  rw [isIdentifierPart_iff_or, isIdentifierStart_iff, Char.isAlphanum, Bool.or_eq_true,
    or_right_comm]

theorem isIdentifierChars_iff : Text.isIdentifierChars cs ↔ IdentifierText cs := by
  constructor
  · intro h
    obtain ⟨c, tail, rfl, hc, htail⟩ := Text.exists_of_isIdentifierChars h
    exact .intro (isIdentifierStart_iff.1 hc) fun d hd => isIdentifierPart_iff.1 (htail d hd)
  · rintro ⟨hc, htail⟩
    rw [Text.isIdentifierChars, Bool.and_eq_true, List.all_eq_true]
    exact ⟨isIdentifierStart_iff.2 hc, fun d hd => isIdentifierPart_iff.2 (htail d hd)⟩

theorem IdentifierText.isPart (h : IdentifierText cs) (hc : c ∈ cs) : Text.isIdentifierPart c := by
  obtain ⟨d, tail, rfl, hd, htail⟩ := Text.exists_of_isIdentifierChars (isIdentifierChars_iff.2 h)
  cases hc with
  | head => exact Text.isIdentifierPart_of_isIdentifierStart hd
  | tail _ hc => exact htail c hc

theorem IdentifierText.not_mem (h : IdentifierText cs) (hc : ¬ Text.isIdentifierPart c) :
    c ∉ cs :=
  fun hmem => hc (h.isPart hmem)

theorem namespaceText_intercalate (hne : pieces ≠ []) (h : ∀ piece ∈ pieces, IdentifierText piece) :
    NamespaceText (['.'].intercalate pieces) := by
  induction pieces with
  | nil => contradiction
  | cons piece pieces ih =>
    obtain ⟨hpiece, hpieces⟩ := List.forall_mem_cons.1 h
    cases pieces with
    | nil =>
      rw [List.intercalate_singleton]
      exact .one hpiece
    | cons next pieces =>
      rw [List.intercalate_cons_cons, List.append_assoc]
      exact .more hpiece (ih (List.cons_ne_nil _ _) hpieces)

theorem not_isIdentifierPart_dot : ¬ Text.isIdentifierPart '.' := by decide

theorem NamespaceText.isIdentifierChars_pieces (h : NamespaceText cs) :
    (Text.pieces '.' cs).all Text.isIdentifierChars := by
  induction h with
  | one h =>
    rw [Text.pieces_of_not_mem (h.not_mem not_isIdentifierPart_dot)]
    simp [isIdentifierChars_iff.2 h]
  | more h _ ih =>
    rw [Text.pieces_append_cons (h.not_mem not_isIdentifierPart_dot)]
    simp [isIdentifierChars_iff.2 h, ih]

theorem namespaceText_iff : (Text.pieces '.' cs).all Text.isIdentifierChars ↔ NamespaceText cs := by
  constructor
  · intro h
    rw [← Text.intercalate_pieces '.' cs]
    apply namespaceText_intercalate (Text.pieces_ne_nil '.' cs)
    intro piece hpiece
    exact isIdentifierChars_iff.1 (List.all_eq_true.1 h piece hpiece)
  · exact NamespaceText.isIdentifierChars_pieces

theorem NamespaceText.isPart (h : NamespaceText cs) (hc : c ∈ cs) :
    Text.isIdentifierPart c ∨ c = '.' := by
  induction h with
  | one h => exact .inl (h.isPart hc)
  | more h _ ih =>
    rcases List.mem_append.1 hc with hc | hc
    · exact .inl (h.isPart hc)
    · rcases List.mem_cons.1 hc with rfl | hc
      · exact .inr rfl
      · exact ih hc

theorem NamespaceText.not_mem (h : NamespaceText cs) (hc : ¬ Text.isIdentifierPart c)
    (hdot : c ≠ '.') : c ∉ cs :=
  fun hmem => (h.isPart hmem).elim hc hdot

end

inductive NsText : List Char → String → Prop
  | intro {ns : String} : NamespaceText ns.toList → NsText (ns.toList ++ ['#']) ns

inductive MemberText : List Char → String → Prop
  | intro {member : String} : IdentifierText member.toList →
      MemberText ('$' :: member.toList) member

inductive IdText : List Char → Option String → String → Option String → Prop
  | intro {before after : List Char} {ns member : Option String} {name : String} :
      Perhaps NsText before ns → IdentifierText name.toList → Perhaps MemberText after member →
      IdText (before ++ (name.toList ++ after)) ns name member

namespace ShapeId

variable {text name : String} {ns member : Option String} {id : ShapeId} {cs : List Char}

theorem toList_join (ns : Option String) (name : String) (member : Option String) :
    (join ns name member).toList
      = ns.elim [] (·.toList ++ ['#']) ++ (name.toList ++ member.elim [] ('$' :: ·.toList)) := by
  cases ns <;> cases member <;> simp [join]

theorem perhaps_nsText_iff :
    Perhaps NsText cs ns ↔ ns.all Text.isNamespace ∧ cs = ns.elim [] (·.toList ++ ['#']) := by
  constructor
  · rintro (_ | ⟨⟨h⟩⟩)
    · exact ⟨rfl, rfl⟩
    · exact ⟨namespaceText_iff.2 h, rfl⟩
  · rintro ⟨h, rfl⟩
    cases ns with
    | none => exact .without
    | some s => exact .given (.intro (namespaceText_iff.1 h))

theorem perhaps_memberText_iff :
    Perhaps MemberText cs member
      ↔ member.all Text.isIdentifier ∧ cs = member.elim [] ('$' :: ·.toList) := by
  constructor
  · rintro (_ | ⟨⟨h⟩⟩)
    · exact ⟨rfl, rfl⟩
    · exact ⟨isIdentifierChars_iff.2 h, rfl⟩
  · rintro ⟨h, rfl⟩
    cases member with
    | none => exact .without
    | some s => exact .given (.intro (isIdentifierChars_iff.1 h))

theorem namespaceText_of_ns {s : String} (h : id.ns = some s) : NamespaceText s.toList := by
  have hvalid := id.ns_valid
  rw [h] at hvalid
  exact namespaceText_iff.1 hvalid

theorem identifierText_name (id : ShapeId) : IdentifierText id.name.toList :=
  isIdentifierChars_iff.1 id.name_valid

theorem identifierText_of_member {s : String} (h : id.member = some s) :
    IdentifierText s.toList := by
  have hvalid := id.member_valid
  rw [h] at hvalid
  exact isIdentifierChars_iff.1 hvalid

theorem idText_iff :
    IdText text.toList ns name member
      ↔ ∃ id : ShapeId, id.text = text ∧ id.ns = ns ∧ id.name = name ∧ id.member = member := by
  constructor
  · generalize hcs : text.toList = cs
    rintro ⟨hns, hname, hmember⟩
    obtain ⟨hvalid, rfl⟩ := perhaps_nsText_iff.1 hns
    obtain ⟨hvalid', rfl⟩ := perhaps_memberText_iff.1 hmember
    refine ⟨⟨ns, name, member, hvalid, isIdentifierChars_iff.2 hname, hvalid'⟩, ?_, rfl, rfl, rfl⟩
    exact String.toList_inj.1 ((toList_join ns name member).trans hcs.symm)
  · rintro ⟨id, rfl, rfl, rfl, rfl⟩
    rw [ShapeId.text, toList_join]
    exact .intro (perhaps_nsText_iff.2 ⟨id.ns_valid, rfl⟩) id.identifierText_name
      (perhaps_memberText_iff.2 ⟨id.member_valid, rfl⟩)

end ShapeId

end ShapeGraph
