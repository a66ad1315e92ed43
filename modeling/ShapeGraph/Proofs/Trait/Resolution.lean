import ShapeGraph.Proofs.Selector.Traits
import ShapeGraph.Proofs.Trait.Spelling

/-!
Which traits are found under an id: those whose names resolve to what it resolves to. An id that
puts the prelude before an id in full finds a trait of that other id besides.
-/

namespace ShapeGraph

namespace TraitId

variable {id inner n : String}

theorem qualify_prelude_inj {a b : String} :
    Spelling.qualify prelude a = Spelling.qualify prelude b ↔ a = b := by
  simp [Spelling.qualify, String.append_assoc]

theorem short?_qualify_of_isAbsolute (h : Spelling.isAbsolute inner) :
    short? (Spelling.qualify prelude inner) = none := by
  rw [Option.eq_none_iff_forall_ne_some]
  intro n hn
  obtain ⟨hrelative, heq⟩ := short?_eq_some_iff.1 hn
  rw [← qualify_prelude_inj.1 heq, Spelling.isRelative, h] at hrelative
  cases hrelative

theorem resolve_of_shortName? (h : shortName? (resolve id) = some n) :
    resolve n = resolve id
      ∨ Spelling.isAbsolute n ∧ id = Spelling.qualify prelude n := by
  have hfull := shortName?_eq_some_iff.1 h
  rcases Spelling.isAbsolute_or_isRelative n with hn | hn
  · right
    refine ⟨hn, ?_⟩
    rcases Spelling.isAbsolute_or_isRelative id with hid | hid
    · rw [← hfull, resolve_of_isAbsolute hid]
    · -- a name without a namespace would be the very name behind the prelude
      rw [resolve_of_isRelative hid, qualify_prelude_inj] at hfull
      rw [hfull, Spelling.isRelative, hn] at hid
      cases hid
  · left
    rw [resolve_of_isRelative hn, hfull]

end TraitId

namespace Applied

/-- The id is none of the names, but puts the prelude before a name that is an id in full. -/
def Misleads (names : List String) (id : String) : Prop :=
  id ∉ names
    ∧ ∃ inner ∈ names, Spelling.isAbsolute inner ∧ id = Spelling.qualify TraitId.prelude inner

variable {fs : Fields Json} {id key : String} {v : Json}

theorem exists_key_of_get? (h : ¬ Misleads fs.keys id) (hv : get? fs id = some v) :
    ∃ key, fs.get? key = some v ∧ TraitId.resolve key = TraitId.resolve id
      ∧ (id ∈ fs.keys → key = id) := by
  rw [get?_eq_or, Option.or_eq_some_iff] at hv
  rcases hv with hv | ⟨hself, hv⟩
  · exact ⟨id, hv, rfl, fun _ => rfl⟩
  · have hnot : id ∉ fs.keys := Fields.get?_eq_none_iff.1 hself
    rcases Option.or_eq_some_iff.1 hv with hfull | ⟨-, hshort⟩
    · exact ⟨_, hfull, TraitId.resolve_resolve id, fun hmem => absurd hmem hnot⟩
    · obtain ⟨n, hn, hv⟩ := Option.bind_eq_some_iff.1 hshort
      refine ⟨n, hv, ?_, fun hmem => absurd hmem hnot⟩
      apply (TraitId.resolve_of_shortName? hn).resolve_right
      rintro ⟨habsolute, heq⟩
      exact h ⟨hnot, n, Fields.mem_keys_iff.2 ⟨v, Fields.mem_of_get? hv⟩, habsolute, heq⟩

theorem isSome_get?_of_mem_keys (hmem : key ∈ fs.keys)
    (h : TraitId.resolve key = TraitId.resolve id) : (get? fs id).isSome := by
  have hkey : (fs.get? key).isSome := Fields.has_iff_mem_keys.2 hmem
  rw [get?_eq_or, Option.isSome_or, Option.isSome_or, Bool.or_eq_true, Bool.or_eq_true]
  rcases (TraitId.resolve_eq_iff (TraitId.isAbsolute_resolve id)).1 h with rfl | hshort
  · exact .inr (.inl hkey)
  · obtain ⟨-, hfull⟩ := TraitId.short?_eq_some_iff.1 hshort
    rw [TraitId.shortName?_eq_some_iff.2 hfull, Option.bind_some]
    exact .inr (.inr hkey)

theorem Misleads.found (h : Misleads fs.keys id) :
    (get? fs id).isSome
      ∧ ¬ ∃ key ∈ fs.keys, TraitId.resolve key = TraitId.resolve id := by
  obtain ⟨hnot, inner, hmem, habsolute, rfl⟩ := h
  have hfull := Spelling.isAbsolute_qualify TraitId.prelude inner
  constructor
  · rw [get?_of_isAbsolute hfull, TraitId.shortName?_eq_some_iff.2 rfl, Option.bind_some,
      Option.isSome_or, Bool.or_eq_true]
    exact .inr (Fields.has_iff_mem_keys.2 hmem)
  · -- the prelude before an id in full is no short name, so only the id itself resolves to it
    rintro ⟨key, hkey, heq⟩
    rw [TraitId.resolve_of_isAbsolute hfull, TraitId.resolve_eq_iff hfull,
      TraitId.short?_qualify_of_isAbsolute habsolute] at heq
    rcases heq with rfl | hnone
    · exact hnot hkey
    · cases hnone

/-- A trait is found under an id if and only if it is applied under a name that resolves as the id
does, just where the id does not mislead. There, what is found is what such a name applies, the id
itself before all others; and where nothing is found, the default is. -/
theorem found_by_resolved_id (traits : Json) (id : String) :
    ((has traits id ↔ ∃ key ∈ traits.fieldsD.keys, TraitId.resolve key = TraitId.resolve id)
        ↔ ¬ Misleads traits.fieldsD.keys id)
      ∧ (¬ Misleads traits.fieldsD.keys id → ∀ v, value? traits id = some v →
        ∃ key, traits.fieldsD.get? key = some v ∧ TraitId.resolve key = TraitId.resolve id
          ∧ (id ∈ traits.fieldsD.keys → key = id))
      ∧ (¬ has traits id → ∀ default, (value? traits id).getD default = default) := by
  rw [has_eq, value?_eq]
  refine ⟨⟨?_, ?_⟩, ?_, ?_⟩
  · intro hiff hmisleads
    exact hmisleads.found.2 (hiff.1 hmisleads.found.1)
  · intro h
    constructor
    · intro hfound
      obtain ⟨v, hv⟩ := Option.isSome_iff_exists.1 hfound
      obtain ⟨key, hget, hresolve, -⟩ := exists_key_of_get? h hv
      exact ⟨key, Fields.mem_keys_iff.2 ⟨v, Fields.mem_of_get? hget⟩, hresolve⟩
    · rintro ⟨key, hkey, hresolve⟩
      exact isSome_get?_of_mem_keys hkey hresolve
  · intro h v hv
    exact exists_key_of_get? h hv
  · intro hnone default
    rw [Option.not_isSome_iff_eq_none.1 hnone, Option.getD_none]

def tags : Json :=
  .obj [("required", .obj []), ("smithy.api#since", .null), ("example#tag", .str "new")]

theorem tags_found_by_resolved_id :
    ¬ Misleads tags.fieldsD.keys "since" ∧ has tags "since"
      ∧ (∀ v, value? tags "since" = some v → ∃ key ∈ tags.fieldsD.keys,
        TraitId.resolve key = "smithy.api#since")
      ∧ ¬ has tags "example#required"
      ∧ (value? tags "example#required").getD (.str "none") = .str "none" := by
  have h : ¬ Misleads tags.fieldsD.keys "since" := by
    rintro ⟨-, inner, hmem, -, heq⟩
    have hhash : '#' ∈ "since".toList := by
      rw [heq]
      simp [Spelling.qualify]
    exact absurd hhash (by decide)
  have hnone : ¬ has tags "example#required" := by decide
  obtain ⟨hiff, hvalue, -⟩ := found_by_resolved_id tags "since"
  refine ⟨h, (hiff.2 h).2 ⟨"smithy.api#since", by decide, by decide⟩, ?_, hnone,
    (found_by_resolved_id tags "example#required").2.2 hnone _⟩
  intro v hv
  obtain ⟨key, hget, hresolve, -⟩ := hvalue h v hv
  exact ⟨key, Fields.mem_keys_iff.2 ⟨v, Fields.mem_of_get? hget⟩, hresolve⟩

theorem tags_found_behind_prelude :
    has tags "smithy.api#example#tag"
      ∧ ¬ ∃ key ∈ tags.fieldsD.keys,
        TraitId.resolve key = TraitId.resolve "smithy.api#example#tag" := by
  decide

end Applied

end ShapeGraph
