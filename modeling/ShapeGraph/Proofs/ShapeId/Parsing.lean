import ShapeGraph.Proofs.ShapeId.Grammar

namespace ShapeGraph.ShapeId

variable {text name : String} {ns member : Option String} {id : ShapeId}

theorem splitMember_join (hname : name ≠ "") (hdollar : '$' ∉ name.toList)
    (hmember : member ≠ some "") (ns : Option String) :
    splitMember ns (join none name member) = .ok (ns, name, member) := by
  rw [splitMember]
  cases member with
  | none =>
    have hcut : Text.cut '$' (join none name none) = none := by
      rw [Text.cut_eq_none_iff, toList_join]
      simpa using hdollar
    rw [hcut]
    simp [join, hname]
  | some m =>
    have hcut : Text.cut '$' (join none name (some m)) = some (name, m) := by
      rw [Text.cut_eq_some_iff, toList_join]
      exact ⟨rfl, hdollar⟩
    have hm : m ≠ "" := fun h => hmember (congrArg some h)
    rw [hcut]
    simp [hm, hname]

structure Separates (sep : Char) (id : ShapeId) : Prop where
  ns {s : String} : id.ns = some s → sep ∉ s.toList
  name : sep ∉ id.name.toList
  member {s : String} : id.member = some s → sep ∉ s.toList

theorem separates {sep : Char} (hpart : ¬ Text.isIdentifierPart sep) (hdot : sep ≠ '.')
    (id : ShapeId) : Separates sep id where
  ns h := (namespaceText_of_ns h).not_mem hpart hdot
  name := id.identifierText_name.not_mem hpart
  member h := (identifierText_of_member h).not_mem hpart

theorem separates_hash (id : ShapeId) : Separates '#' id := separates (by decide) (by decide) id

theorem separates_dollar (id : ShapeId) : Separates '$' id := separates (by decide) (by decide) id

theorem Separates.count_text_le {sep : Char} (h : Separates sep id) :
    id.text.toList.count sep ≤ 1 := by
  have hns : (id.ns.elim [] (·.toList ++ ['#'])).count sep ≤ if '#' = sep then 1 else 0 := by
    cases hs : id.ns with
    | none => simp
    | some s => simp [List.count_append, List.count_eq_zero.2 (h.ns hs), List.count_singleton]
  have hname : id.name.toList.count sep = 0 := List.count_eq_zero.2 h.name
  have hmember : (id.member.elim [] ('$' :: ·.toList)).count sep ≤ if '$' = sep then 1 else 0 := by
    cases hs : id.member with
    | none => simp
    | some s => simp [List.count_cons, List.count_eq_zero.2 (h.member hs)]
  have hone : ¬ ('#' = sep ∧ '$' = sep) := by
    rintro ⟨rfl, h⟩
    cases h
  rw [text, toList_join, List.count_append, List.count_append, hname]
  split_ifs at hns hmember
  · exact absurd ⟨‹_›, ‹_›⟩ hone
  all_goals omega

theorem ne_some_empty {p : String → Bool} {part : Option String} (h : part.all p)
    (hp : p "" = false) : part ≠ some "" := by
  rintro rfl
  cases hp.symm.trans h

theorem name_ne_empty (id : ShapeId) : id.name ≠ "" := by
  have hvalid : (some id.name).all Text.isIdentifier := id.name_valid
  exact fun h => ne_some_empty hvalid rfl (congrArg some h)

theorem text_ne_empty (id : ShapeId) : id.text ≠ "" := by
  intro h
  have hlist := congrArg String.toList h
  rw [text, toList_join] at hlist
  simp [id.name_ne_empty] at hlist

theorem cut_hash_text (id : ShapeId) :
    Text.cut '#' id.text = id.ns.map fun s => (s, join none id.name id.member) := by
  have hhash := separates_hash id
  rw [text]
  cases hns : id.ns with
  | none =>
    rw [Option.map_none, Text.cut_eq_none_iff, toList_join]
    cases hmember : id.member with
    | none => simpa using hhash.name
    | some m => simpa using ⟨hhash.name, hhash.member hmember⟩
  | some s =>
    rw [Option.map_some, Text.cut_eq_some_iff, toList_join, toList_join]
    exact ⟨by simp, hhash.ns hns⟩

theorem split_text (id : ShapeId) : split id.text = .ok (id.ns, id.name, id.member) := by
  -- no part has a separator in it, so each is found where the parts were joined
  have hdollar := separates_dollar id
  have hmember : id.member ≠ some "" := ne_some_empty id.member_valid rfl
  have hns : id.ns ≠ some "" := ne_some_empty id.ns_valid rfl
  have hrest := splitMember_join id.name_ne_empty hdollar.name hmember
  rw [split, if_neg id.text_ne_empty, if_neg (Nat.not_lt.2 (separates_hash id).count_text_le),
    if_neg (Nat.not_lt.2 hdollar.count_text_le), cut_hash_text]
  cases hs : id.ns with
  | none =>
    rw [text, hs]
    exact hrest none
  | some s =>
    have hne : s ≠ "" := fun h => hns (hs.trans (congrArg some h))
    simpa [hne, hdollar.ns hs] using hrest (some s)

theorem join_of_splitMember {rest : String} {ns' : Option String}
    (h : splitMember ns rest = .ok (ns', name, member)) :
    ns' = ns ∧ join none name member = rest := by
  rw [splitMember] at h
  split at h
  · split at h
    · cases h
    · cases h
      exact ⟨rfl, by simp [join]⟩
  · rename_i hcut
    rw [Text.cut_eq_some_iff] at hcut
    split_ifs at h
    cases h
    refine ⟨rfl, String.toList_inj.1 ?_⟩
    rw [toList_join, hcut.1]
    rfl

theorem join_of_split (h : split text = .ok (ns, name, member)) : join ns name member = text := by
  rw [split] at h
  split_ifs at h
  split at h
  · obtain ⟨rfl, hrest⟩ := join_of_splitMember h
    exact hrest
  · rename_i hcut
    rw [Text.cut_eq_some_iff] at hcut
    split_ifs at h
    obtain ⟨rfl, hrest⟩ := join_of_splitMember h
    refine String.toList_inj.1 ?_
    rw [hcut.1, ← hrest, toList_join, toList_join]
    simp

theorem ofParts_eq_ok_iff :
    ofParts ns name member = .ok id ↔ id.ns = ns ∧ id.name = name ∧ id.member = member := by
  constructor
  · intro h
    unfold ofParts at h
    split_ifs at h
    cases h
    exact ⟨rfl, rfl, rfl⟩
  · rintro ⟨rfl, rfl, rfl⟩
    simp [ofParts, id.ns_valid, id.name_valid, id.member_valid]

theorem parse_eq_ok_iff : parse text = .ok id ↔ id.text = text := by
  constructor
  · intro h
    rw [parse] at h
    split at h
    · cases h
    · rename_i hsplit
      obtain ⟨rfl, rfl, rfl⟩ := ofParts_eq_ok_iff.1 h
      exact join_of_split hsplit
  · rintro rfl
    rw [parse, split_text]
    exact ofParts_eq_ok_iff.2 ⟨rfl, rfl, rfl⟩

theorem text_inj {a b : ShapeId} : a.text = b.text ↔ a = b := by
  constructor
  · intro h
    have hb : parse b.text = .ok b := parse_eq_ok_iff.2 rfl
    rw [parse_eq_ok_iff.2 h] at hb
    exact Except.ok.inj hb
  · rintro rfl
    rfl

theorem given_of_parse {r : Rejection} (h : parse text = .error r) : r.given = .str text := by
  rw [parse] at h
  split at h
  · cases h
    rfl
  · rename_i hsplit
    rw [← join_of_split hsplit]
    unfold ofParts at h
    split_ifs at h <;> cases h <;> rfl

/-- Ids as they come about: from texts, from parts, and from other ids. -/
inductive Reached : ShapeId → Prop
  | parse {text : String} {id : ShapeId} : parse text = .ok id → Reached id
  | ofParts {ns member : Option String} {name : String} {id : ShapeId} :
      ofParts ns name member = .ok id → Reached id
  | withMember {id id' : ShapeId} {member : String} : Reached id →
      id.withMember member = .ok id' → Reached id'
  | withoutMember {id : ShapeId} : Reached id → Reached id.withoutMember
  | toAbsolute {id id' : ShapeId} {default : String} : Reached id →
      id.toAbsolute default = .ok id' → Reached id'

theorem exists_error_iff :
    (∃ r, parse text = .error r ∧ r.given = .str text) ↔ ∀ id : ShapeId, id.text ≠ text := by
  simp only [ne_eq, ← parse_eq_ok_iff]
  cases h : parse text with
  | ok id => simp
  | error r => simp [given_of_parse h]

/-- Reading takes exactly the texts of the grammar, each apart into its parts, and undoes writing on
every id, however it was reached. -/
theorem parse_inverts_text :
    (∀ text ns name member, IdText text.toList ns name member ↔
        ∃ id, parse text = .ok id ∧ id.ns = ns ∧ id.name = name ∧ id.member = member)
      ∧ (∀ text, (∃ r, parse text = .error r ∧ r.given = .str text) ↔
        ¬ ∃ ns name member, IdText text.toList ns name member)
      ∧ (∀ id, Reached id ∧ ∀ text, parse text = .ok id ↔ id.text = text)
      ∧ ∀ a b : ShapeId, a.text = b.text ↔ a = b := by
  refine ⟨fun text ns name member => ?_, fun text => ?_, fun id => ?_, fun a b => ?_⟩
  · simp only [parse_eq_ok_iff]
    exact idText_iff
  · rw [exists_error_iff]
    constructor
    · rintro h ⟨ns, name, member, htext⟩
      obtain ⟨id, hid, -⟩ := idText_iff.1 htext
      exact h id hid
    · intro h id hid
      exact h ⟨id.ns, id.name, id.member, idText_iff.2 ⟨id, hid, rfl, rfl, rfl⟩⟩
  · exact ⟨.parse (parse_eq_ok_iff.2 rfl), fun text => parse_eq_ok_iff⟩
  · rw [← parse_eq_ok_iff, parse_eq_ok_iff.2 (rfl : b.text = _)]
    simp [eq_comm]

end ShapeGraph.ShapeId
