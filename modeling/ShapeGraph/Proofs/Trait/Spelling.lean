import ShapeGraph.Proofs.Acceptance.Trait
import ShapeGraph.Proofs.ShapeId.Spelling
import ShapeGraph.Trait.Applied

namespace ShapeGraph

namespace TraitId

variable {id n : String}

theorem resolve_of_isAbsolute (h : Spelling.isAbsolute id) : resolve id = id :=
  Spelling.toAbsolute_of_isAbsolute h prelude

theorem resolve_of_isRelative (h : Spelling.isRelative id) :
    resolve id = Spelling.qualify prelude id :=
  Spelling.toAbsolute_of_isRelative h prelude

theorem isAbsolute_resolve (id : String) : Spelling.isAbsolute (resolve id) :=
  Spelling.isAbsolute_toAbsolute id prelude

theorem resolve_resolve (id : String) : resolve (resolve id) = resolve id :=
  Spelling.toAbsolute_toAbsolute id prelude prelude

theorem shortName?_eq_some_iff : shortName? id = some n ↔ id = Spelling.qualify prelude n := by
  constructor
  · intro h
    rw [shortName?] at h
    split at h
    · next ns name hcut =>
      obtain ⟨hid, -⟩ := Text.cut_eq_some_iff.1 hcut
      obtain ⟨rfl, rfl⟩ := by simpa using h
      rw [← String.toList_inj, hid]
      simp [Spelling.qualify]
    · cases h
  · rintro rfl
    have hcut : Text.cut '#' (Spelling.qualify prelude n) = some (prelude, n) :=
      Text.cut_eq_some_iff.2 ⟨by simp [Spelling.qualify], by decide⟩
    simp [shortName?, hcut]

theorem shortName?_of_isRelative (h : Spelling.isRelative id) : shortName? id = none := by
  rw [Option.eq_none_iff_forall_ne_some]
  intro n hn
  rw [shortName?_eq_some_iff.1 hn, Spelling.isRelative, Spelling.isAbsolute_qualify] at h
  cases h

def short? (id : String) : Option String := (shortName? id).filter Spelling.isRelative

def nested? (id : String) : Option String := (shortName? id).bind short?

def NamesPreludeTwice (id : String) : Prop :=
  ∃ n, Spelling.isRelative n ∧ id = Spelling.qualify prelude (Spelling.qualify prelude n)

theorem short?_eq_some_iff :
    short? id = some n ↔ Spelling.isRelative n ∧ id = Spelling.qualify prelude n := by
  rw [short?, Option.filter_eq_some_iff, shortName?_eq_some_iff, and_comm]

theorem nested?_eq_some_iff : nested? id = some n ↔
    Spelling.isRelative n ∧ id = Spelling.qualify prelude (Spelling.qualify prelude n) := by
  simp only [nested?, Option.bind_eq_some_iff, shortName?_eq_some_iff, short?_eq_some_iff]
  constructor
  · rintro ⟨s, rfl, hn, rfl⟩
    exact ⟨hn, rfl⟩
  · rintro ⟨hn, rfl⟩
    exact ⟨_, rfl, hn, rfl⟩

theorem nested?_eq_none_iff : nested? id = none ↔ ¬ NamesPreludeTwice id := by
  simp only [Option.eq_none_iff_forall_ne_some, ne_eq, nested?_eq_some_iff, NamesPreludeTwice,
    not_exists]

theorem resolve_eq_iff (h : Spelling.isAbsolute id) :
    resolve n = id ↔ n = id ∨ short? id = some n := by
  rw [short?_eq_some_iff]
  rcases Spelling.isAbsolute_or_isRelative n with hn | hn
  · simp [resolve_of_isAbsolute hn, Spelling.isRelative, hn]
  · have hne : n ≠ id := by
      rintro rfl
      simp [Spelling.isRelative, h] at hn
    simp [resolve_of_isRelative hn, hn, hne, eq_comm]

end TraitId

theorem PreludeTrait.nested?_id (t : PreludeTrait) : TraitId.nested? t.id = none := by
  cases t <;> decide

namespace Applied

def inFull (fs : Fields Json) : Fields Json := fs.map fun (id, v) => (TraitId.resolve id, v)

structure SpelledOnce (fs : Fields Json) : Prop where
  named : "" ∉ fs.keys
  once : ∀ n ∈ fs.keys, Spelling.isRelative n → TraitId.resolve n ∉ fs.keys

instance (fs : Fields Json) : Decidable (SpelledOnce fs) :=
  decidable_of_iff
    ("" ∉ fs.keys ∧ ∀ n ∈ fs.keys, Spelling.isRelative n → TraitId.resolve n ∉ fs.keys)
    ⟨fun h => ⟨h.1, h.2⟩, fun h => ⟨h.named, h.once⟩⟩

variable {fs : Fields Json} {key t : String}

theorem SpelledOnce.of_cons {e : String × Json} (h : SpelledOnce (e :: fs)) : SpelledOnce fs where
  named hmem := h.named (List.mem_cons_of_mem _ hmem)
  once n hn hrelative hmem :=
    h.once n (List.mem_cons_of_mem _ hn) hrelative (List.mem_cons_of_mem _ hmem)

theorem SpelledOnce.get?_resolve {v : Json} (h : SpelledOnce fs) (ht : Spelling.isRelative t)
    (hv : fs.get? t = some v) : fs.get? (TraitId.resolve t) = none := by
  rw [Fields.get?_eq_none_iff]
  exact h.once t (Fields.mem_keys_iff.2 ⟨v, Fields.mem_of_get? hv⟩) ht

theorem get?_eq_or (fs : Fields Json) (t : String) :
    get? fs t = (fs.get? t).or ((fs.get? (TraitId.resolve t)).or
      ((TraitId.shortName? (TraitId.resolve t)).bind fs.get?)) := by
  rw [get?, key?]
  cases hself : fs.get? t with
  | some v => simp [Fields.has, hself]
  | none =>
    cases hfull : fs.get? (TraitId.resolve t) with
    | some v => simp [Fields.has, hself, hfull]
    | none =>
      cases TraitId.shortName? (TraitId.resolve t) with
      | none => simp [Fields.has, hself, hfull]
      | some n =>
        cases hshort : fs.get? n <;>
          simp [Fields.has, hself, hfull, hshort, Option.filter]

theorem get?_of_isAbsolute (h : Spelling.isAbsolute t) :
    get? fs t = (fs.get? t).or ((TraitId.shortName? t).bind fs.get?) := by
  rw [get?_eq_or, TraitId.resolve_of_isAbsolute h, ← Option.or_assoc, Option.or_self]

theorem get?_of_isRelative (h : Spelling.isRelative t) :
    get? fs t = (fs.get? t).or (fs.get? (TraitId.resolve t)) := by
  have hshort : TraitId.shortName? (TraitId.resolve t) = some t :=
    TraitId.shortName?_eq_some_iff.2 (TraitId.resolve_of_isRelative h)
  rw [get?_eq_or, hshort, Option.bind_some]
  cases fs.get? t <;> simp

theorem get?_id (fs : Fields Json) (t : PreludeTrait) :
    get? fs t.id = (fs.get? t.id).or (fs.get? t.name) := by
  have hshort : TraitId.shortName? t.id = some t.name := TraitId.shortName?_eq_some_iff.2 rfl
  rw [get?_of_isAbsolute t.isAbsolute_id, hshort, Option.bind_some]

theorem get?_inFull_of_isRelative (h : Spelling.isRelative key) :
    Fields.get? (inFull fs) key = none := by
  rw [Fields.get?_eq_none_iff, Fields.mem_keys_iff]
  rintro ⟨v, hmem⟩
  obtain ⟨⟨id, x⟩, -, heq⟩ := List.mem_map.1 hmem
  have habsolute := TraitId.isAbsolute_resolve id
  rw [(Prod.mk.inj heq).1] at habsolute
  rw [Spelling.isRelative, habsolute] at h
  cases h

theorem get?_inFull_of_isAbsolute (hfs : SpelledOnce fs) (h : Spelling.isAbsolute key) :
    Fields.get? (inFull fs) key = (fs.get? key).or ((TraitId.short? key).bind fs.get?) := by
  induction fs with
  | nil => cases TraitId.short? key <;> rfl
  | cons e fs ih =>
    obtain ⟨id, v⟩ := e
    have hcons : Fields.get? (inFull ((id, v) :: fs)) key
        = if TraitId.resolve id = key then some v else Fields.get? (inFull fs) key := rfl
    rw [hcons, ih hfs.of_cons]
    split
    · next hid =>
      rcases (TraitId.resolve_eq_iff h).1 hid with rfl | hshort
      · simp [Fields.get?_cons]
      · -- The short name at the head leaves no entry under the full one.
        obtain ⟨hrelative, -⟩ := TraitId.short?_eq_some_iff.1 hshort
        have hnone : Fields.get? ((id, v) :: fs) key = none := by
          rw [Fields.get?_eq_none_iff, ← hid]
          exact hfs.once id List.mem_cons_self hrelative
        simp [hnone, hshort, Fields.get?_cons]
    · next hid =>
      rw [TraitId.resolve_eq_iff h, not_or] at hid
      cases hshort : TraitId.short? key with
      | none => simp [Fields.get?_cons, hid.1]
      | some n =>
        have hn : id ≠ n := by
          rintro rfl
          exact hid.2 hshort
        simp [Fields.get?_cons, hid.1, hn]

theorem get?_inFull (h : SpelledOnce fs) (t : String) :
    get? (inFull fs) t = (get? fs t).or ((TraitId.nested? t).bind fs.get?) := by
  rcases Spelling.isAbsolute_or_isRelative t with ht | ht
  · rw [get?_of_isAbsolute ht, get?_of_isAbsolute ht, get?_inFull_of_isAbsolute h ht]
    cases hs : TraitId.shortName? t with
    | none => simp [TraitId.short?, TraitId.nested?, hs]
    | some s =>
      rcases Spelling.isAbsolute_or_isRelative s with hs' | hs'
      · -- Such a name is looked up as it is, and now stands for what was applied in short.
        have hshort : TraitId.short? t = none := by
          simp [TraitId.short?, hs, Option.filter, Spelling.isRelative, hs']
        simp [hshort, TraitId.nested?, hs, get?_inFull_of_isAbsolute h hs', Option.or_assoc]
      · have hshort : TraitId.short? t = some s := by
          simp [TraitId.short?, hs, Option.filter, hs']
        have hnested : TraitId.nested? t = none := by
          simp [TraitId.nested?, hs, TraitId.short?, TraitId.shortName?_of_isRelative hs']
        simp [hshort, hnested, get?_inFull_of_isRelative hs']
  · have hshort : TraitId.short? (TraitId.resolve t) = some t :=
      TraitId.short?_eq_some_iff.2 ⟨ht, TraitId.resolve_of_isRelative ht⟩
    have hnested : TraitId.nested? t = none := by
      rw [TraitId.nested?, TraitId.shortName?_of_isRelative ht, Option.bind_none]
    rw [get?_of_isRelative ht, get?_of_isRelative ht, get?_inFull_of_isRelative ht,
      get?_inFull_of_isAbsolute h (TraitId.isAbsolute_resolve t), hshort, hnested]
    cases hself : fs.get? t with
    | none => simp [hself]
    | some v => simp [hself, h.get?_resolve ht hself]

theorem get?_inFull_of_nested? (h : SpelledOnce fs) (ht : TraitId.nested? t = none) :
    get? (inFull fs) t = get? fs t := by
  rw [get?_inFull h, ht, Option.bind_none, Option.or_none]

end Applied

namespace Member

def inFull (m : Member) : Member := { m with traits := Applied.inFull m.traits }

theorem isRequired_eq_isSome (m : Member) :
    m.isRequired = (Applied.get? m.traits PreludeTrait.required.id).isSome := by
  rw [Applied.get?_id, Option.isSome_or]
  rfl

theorem isRequired_inFull {m : Member} (h : Applied.SpelledOnce m.traits) :
    m.inFull.isRequired = m.isRequired := by
  rw [isRequired_eq_isSome, isRequired_eq_isSome, inFull,
    Applied.get?_inFull_of_nested? h PreludeTrait.required.nested?_id]

end Member

namespace TraitCheck

theorem checkJson_resolve {id : String} (h : id ≠ "") (v : Json) :
    checkJson (TraitId.resolve id) v = checkJson id v := by
  have hresolve : TraitId.resolve id ≠ "" := by
    intro heq
    have habsolute := TraitId.isAbsolute_resolve id
    rw [heq] at habsolute
    exact absurd habsolute (by decide)
  simp only [checkJson, check, PreludeTrait.ofId?, TraitId.resolve_resolve]

end TraitCheck

end ShapeGraph
