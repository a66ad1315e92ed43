import ShapeGraph.Proofs.ShapeId.Parsing
import ShapeGraph.ShapeId.Spelling

namespace ShapeGraph

namespace Spelling

variable {id : String}

theorem isAbsolute_iff : isAbsolute id ↔ '#' ∈ id.toList := List.contains_iff_mem

theorem isAbsolute_or_isRelative (id : String) : isAbsolute id ∨ isRelative id := by
  rw [isRelative]
  cases isAbsolute id <;> simp

theorem isAbsolute_qualify (ns name : String) : isAbsolute (qualify ns name) := by
  simp [isAbsolute, qualify]

theorem toAbsolute_of_isAbsolute (h : isAbsolute id) (default : String) :
    toAbsolute id default = id :=
  if_pos h

theorem toAbsolute_of_isRelative (h : isRelative id) (default : String) :
    toAbsolute id default = qualify default id := by
  rw [isRelative, Bool.not_eq_true'] at h
  rw [toAbsolute, h, if_neg Bool.false_ne_true]

theorem isAbsolute_toAbsolute (id default : String) : isAbsolute (toAbsolute id default) := by
  rw [toAbsolute]
  split
  · assumption
  · apply isAbsolute_qualify

theorem toAbsolute_toAbsolute (id default other : String) :
    toAbsolute (toAbsolute id default) other = toAbsolute id default :=
  toAbsolute_of_isAbsolute (isAbsolute_toAbsolute id default) other

theorem isAbsolute_text (id : ShapeId) : isAbsolute id.text = id.isAbsolute := by
  rw [Bool.eq_iff_iff, isAbsolute_iff, ← not_iff_not, ← Text.cut_eq_none_iff,
    ShapeId.cut_hash_text, Option.map_eq_none_iff, ShapeId.isAbsolute,
    Option.not_isSome_iff_eq_none]

theorem isRelative_text (id : ShapeId) : isRelative id.text = id.isRelative := by
  rw [isRelative, isAbsolute_text, ShapeId.isAbsolute, ShapeId.isRelative, Option.not_isSome]

theorem split_text (id : ShapeId) :
    split id.text = (id.ns, ShapeId.join none id.name id.member) := by
  have hne : id.ns ≠ some "" := ShapeId.ne_some_empty id.ns_valid rfl
  rw [split, ShapeId.cut_hash_text]
  cases hns : id.ns with
  | none => rw [Option.map_none, ShapeId.text, hns]
  | some s =>
    have hs : s ≠ "" := fun h => hne (hns.trans (congrArg some h))
    simp [hs]

theorem ns?_text (id : ShapeId) : ns? id.text = id.ns := by rw [ns?, split_text]

theorem name_text (id : ShapeId) : name id.text = ShapeId.join none id.name id.member := by
  rw [name, split_text]

end Spelling

namespace ShapeId

theorem join_some (ns name : String) (member : Option String) :
    join (some ns) name member = Spelling.qualify ns (join none name member) := by
  simp [join, Spelling.qualify, String.append_assoc]

theorem exists_toAbsolute {ns : String} (hns : Text.isNamespace ns) (id : ShapeId) :
    ∃ full, id.toAbsolute ns = .ok full ∧ full.text = Spelling.toAbsolute id.text ns := by
  rw [toAbsolute]
  cases h : id.ns with
  | some s =>
    have habsolute : Spelling.isAbsolute id.text := by
      rw [Spelling.isAbsolute_text, isAbsolute, h, Option.isSome_some]
    exact ⟨id, rfl, (Spelling.toAbsolute_of_isAbsolute habsolute ns).symm⟩
  | none =>
    have hrelative : Spelling.isRelative id.text := by
      rw [Spelling.isRelative_text, isRelative, h, Option.isNone_none]
    refine ⟨⟨some ns, id.name, id.member, hns, id.name_valid, id.member_valid⟩,
      ofParts_eq_ok_iff.2 ⟨rfl, rfl, rfl⟩, ?_⟩
    rw [Spelling.toAbsolute_of_isRelative hrelative, text, text, h, join_some]

/-- What is asked of the text of an id is answered as by the id. Made absolute, it is the text of
the absolute id, and so a valid one, which stays as it is; and two texts are made equal just where
their ids are. -/
theorem text_answers_as_id {s t ns : String} {a b : ShapeId} (hs : parse s = .ok a)
    (ht : parse t = .ok b) (hns : Text.isNamespace ns) :
    Spelling.isAbsolute s = a.isAbsolute ∧ Spelling.isRelative s = a.isRelative
      ∧ Spelling.ns? s = a.ns ∧ Spelling.name s = a.name ++ a.member.elim "" ("$" ++ ·)
      ∧ (Spelling.isIn s ns ↔ a.ns = some ns)
      ∧ ∃ full full', a.toAbsolute ns = .ok full ∧ b.toAbsolute ns = .ok full'
        ∧ Spelling.toAbsolute s ns = full.text ∧ isValid (Spelling.toAbsolute s ns)
        ∧ (∀ other, Spelling.toAbsolute (Spelling.toAbsolute s ns) other = Spelling.toAbsolute s ns)
        ∧ (Spelling.equalIn s t ns ↔ full = full') := by
  obtain rfl := parse_eq_ok_iff.1 hs
  obtain rfl := parse_eq_ok_iff.1 ht
  obtain ⟨full, hfull, htext⟩ := exists_toAbsolute hns a
  obtain ⟨full', hfull', htext'⟩ := exists_toAbsolute hns b
  refine ⟨Spelling.isAbsolute_text a, Spelling.isRelative_text a, Spelling.ns?_text a, ?_, ?_,
    full, full', hfull, hfull', htext.symm, ?_, ?_, ?_⟩
  · rw [Spelling.name_text]
    cases a.member <;> rfl
  · rw [Spelling.isIn, Spelling.ns?_text, decide_eq_true_eq]
  · rw [isValid, ← htext, parse_eq_ok_iff.2 rfl, Except.toBool]
  · intro other
    exact Spelling.toAbsolute_toAbsolute a.text ns other
  · rw [Spelling.equalIn, decide_eq_true_eq, ← htext, ← htext', text_inj]

def cityName : ShapeId := ⟨none, "City", some "name", Option.all_none, by decide, by decide⟩

def cityNameInFull : ShapeId :=
  ⟨some "example.weather", "City", some "name", by decide, by decide, by decide⟩

theorem text_answers_as_id_city :
    parse "City$name" = .ok cityName
      ∧ parse "example.weather#City$name" = .ok cityNameInFull
      ∧ Text.isNamespace "example.weather"
      ∧ Spelling.name "City$name" = "City$name"
      ∧ Spelling.equalIn "City$name" "example.weather#City$name" "example.weather" := by
  have hs : parse "City$name" = .ok cityName := parse_eq_ok_iff.2 (by decide)
  have ht : parse "example.weather#City$name" = .ok cityNameInFull := parse_eq_ok_iff.2 (by decide)
  have hns : Text.isNamespace "example.weather" := by decide
  obtain ⟨-, -, -, hname, -, full, full', hfull, hfull', -, -, -, hequal⟩ :=
    text_answers_as_id hs ht hns
  have hfirst : full = cityNameInFull := Except.ok.inj (hfull.symm.trans rfl)
  have hsecond : full' = cityNameInFull := Except.ok.inj (hfull'.symm.trans rfl)
  exact ⟨hs, ht, hns, hname, hequal.2 (hfirst.trans hsecond.symm)⟩

end ShapeId

end ShapeGraph
