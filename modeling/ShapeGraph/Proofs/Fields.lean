import Mathlib.Data.List.Basic
import Mathlib.Data.List.Forall2
import ShapeGraph.Fields

namespace ShapeGraph.Fields

variable {α : Type} {fs gs hs : Fields α} {key key' : String} {value value' : α}

@[simp] theorem merge_nil (fs : Fields α) : fs.merge [] = fs := rfl

@[simp] theorem merge_cons (fs : Fields α) (key : String) (value : α) (gs : Fields α) :
    fs.merge ((key, value) :: gs) = (fs.set key value).merge gs := rfl

theorem merge_append (fs gs hs : Fields α) : fs.merge (gs ++ hs) = (fs.merge gs).merge hs :=
  List.foldl_append

theorem distinct_nil : Distinct ([] : Fields α) := List.nodup_nil

theorem Distinct.merge (h : fs.Distinct) (gs : Fields α) : (fs.merge gs).Distinct := by
  induction gs generalizing fs with
  | nil => exact h
  | cons g gs ih => exact ih (h.set g.1 g.2)

theorem distinct_ofList (entries : List (String × α)) : (ofList entries).Distinct :=
  distinct_nil.merge entries

theorem Distinct.nodup (h : fs.Distinct) : fs.Nodup :=
  List.Pairwise.of_map Prod.fst (fun _ _ hne heq => hne (congrArg Prod.fst heq)) h

theorem Distinct.perm (h : fs.Distinct) (hperm : fs.Perm gs) : gs.Distinct :=
  (hperm.map Prod.fst).nodup_iff.1 h

theorem Distinct.get?_perm (h : fs.Distinct) (hperm : fs.Perm gs) (key : String) :
    fs.get? key = gs.get? key := by
  refine Option.ext fun value => ⟨fun hget => ?_, fun hget => ?_⟩
  · exact (h.perm hperm).get?_of_mem (hperm.mem_iff.1 (mem_of_get? hget))
  · exact h.get?_of_mem (hperm.mem_iff.2 (mem_of_get? hget))

theorem eraseDups_of_nodup {l : List String} (h : l.Nodup) : l.eraseDups = l := by
  induction l with
  | nil => rfl
  | cons a l ih =>
    obtain ⟨ha, hl⟩ := List.nodup_cons.1 h
    have hfilter : l.filter (fun b => !b == a) = l := by
      refine List.filter_eq_self.2 fun b hb => ?_
      simp only [Bool.not_eq_true', beq_eq_false_iff_ne]
      rintro rfl
      exact ha hb
    rw [List.eraseDups_cons, hfilter, ih hl]

theorem eraseDups_append_cons {l : List String} (h : key ∈ l) (l' : List String) :
    (l ++ key :: l').eraseDups = (l ++ l').eraseDups := by
  simp [List.eraseDups_append, List.removeAll, h]

theorem keys_merge (h : fs.Distinct) (gs : Fields α) :
    (fs.merge gs).keys = (fs.keys ++ gs.keys).eraseDups := by
  induction gs generalizing fs with
  | nil => rw [merge_nil, keys_nil, List.append_nil, eraseDups_of_nodup h]
  | cons g gs ih =>
    obtain ⟨key, value⟩ := g
    rw [merge_cons, ih (h.set key value), keys_set, keys_cons]
    split
    · rename_i hmem
      rw [eraseDups_append_cons hmem]
    · rw [List.append_assoc, List.singleton_append]

theorem ofList_eq_nil_iff {entries : List (String × α)} : ofList entries = [] ↔ entries = [] := by
  constructor
  · intro h
    have hkeys : (keys entries).eraseDups = [] := by
      rw [← List.nil_append (keys entries), ← keys_nil, ← keys_merge distinct_nil entries]
      exact congrArg keys h
    cases entries with
    | nil => rfl
    | cons e entries =>
      rw [keys, List.map_cons, List.eraseDups_cons] at hkeys
      cases hkeys
  · rintro rfl
    rfl

theorem get?_append (fs gs : Fields α) (key : String) :
    get? (fs ++ gs) key = (fs.get? key).or (get? gs key) := by
  induction fs with
  | nil => rfl
  | cons f fs ih =>
    obtain ⟨k, v⟩ := f
    rw [List.cons_append, get?_cons, get?_cons, ih]
    split <;> rfl

theorem get?_merge (fs gs : Fields α) (key : String) :
    (fs.merge gs).get? key = (get? gs.reverse key).or (fs.get? key) := by
  induction gs generalizing fs with
  | nil => rfl
  | cons g gs ih =>
    obtain ⟨k, v⟩ := g
    rw [merge_cons, ih, List.reverse_cons, get?_append, Option.or_assoc]
    by_cases hk : k = key
    · simp [hk, get?_cons]
    · simp [get?_set_of_ne hk, get?_cons, hk]

theorem mem_of_mem_set {f : String × α} (h : f ∈ fs.set key value) : f ∈ fs ∨ f = (key, value) := by
  induction fs with
  | nil => exact .inr (List.mem_singleton.1 h)
  | cons g fs ih =>
    obtain ⟨k, v⟩ := g
    rw [set] at h
    split at h
    · rename_i hk
      rw [hk] at h
      exact (List.mem_cons.1 h).symm.imp_left (List.mem_cons_of_mem _)
    · obtain h | h := List.mem_cons.1 h
      · rw [h]
        exact .inl List.mem_cons_self
      · exact (ih h).imp_left (List.mem_cons_of_mem _)

theorem forall₂_set {R : String × α → String × α → Prop} (hrefl : ∀ e, R e e)
    (hget : fs.get? key = some value) (h : R (key, value) (key, value')) :
    List.Forall₂ R fs (fs.set key value') := by
  induction fs with
  | nil => cases hget
  | cons e fs ih =>
    obtain ⟨k, z⟩ := e
    rw [get?_cons] at hget
    rw [set]
    split at hget
    · next hk =>
      cases hget
      rw [if_pos hk, hk]
      -- later entries of the name stay as they are
      exact .cons h (List.forall₂_same.2 fun e _ => hrefl e)
    · next hk =>
      rw [if_neg hk]
      exact .cons (hrefl _) (ih hget)

theorem map_at_eq_self {f : α → α} (h : key ∉ fs.keys) :
    (fs.map fun (k, x) => if k = key then (k, f x) else (k, x)) = fs := by
  refine (List.map_congr_left fun e he => ?_).trans (List.map_id fs)
  have hne : e.1 ≠ key := by
    rintro rfl
    exact h (List.mem_map_of_mem he)
  exact if_neg hne

theorem Distinct.map_at_eq_set {f : α → α} (hd : fs.Distinct) (h : fs.get? key = some value) :
    (fs.map fun (k, x) => if k = key then (k, f x) else (k, x)) = fs.set key (f value) := by
  induction fs with
  | nil => cases h
  | cons e fs ih =>
    obtain ⟨k, x⟩ := e
    obtain ⟨hk, hd⟩ := List.nodup_cons.1 hd
    rw [get?_cons] at h
    simp only [List.map_cons, Fields.set]
    split at h
    · next heq =>
      cases h
      rw [heq] at hk
      rw [if_pos heq, if_pos heq, map_at_eq_self hk]
    · next hne =>
      rw [if_neg hne, if_neg hne, ih hd h]

theorem mem_of_mem_merge {f : String × α} (h : f ∈ fs.merge gs) : f ∈ fs ∨ f ∈ gs := by
  induction gs generalizing fs with
  | nil => exact .inl h
  | cons g gs ih =>
    obtain h | h := ih h
    · obtain h | h := mem_of_mem_set h
      · exact .inl h
      · rw [h]
        exact .inr List.mem_cons_self
    · exact .inr (List.mem_cons_of_mem g h)

theorem mem_of_mem_ofList {entries : List (String × α)} {f : String × α} (h : f ∈ ofList entries) :
    f ∈ entries :=
  (mem_of_mem_merge h).resolve_left List.not_mem_nil

theorem set_set (fs : Fields α) (key : String) (value value' : α) :
    (fs.set key value).set key value' = fs.set key value' := by
  induction fs with
  | nil => simp [set]
  | cons f fs ih =>
    obtain ⟨k, v⟩ := f
    by_cases hk : k = key <;> simp [set, hk, ih]

theorem set_comm (hne : key ≠ key') (hmem : key ∈ fs.keys) (value value' : α) :
    (fs.set key' value').set key value = (fs.set key value).set key' value' := by
  induction fs with
  | nil => cases hmem
  | cons f fs ih =>
    obtain ⟨k, v⟩ := f
    by_cases hk : k = key
    · simp [set, hk, hne]
    · by_cases hk' : k = key'
      · simp [set, hk', hne.symm]
      · have hmem' : key ∈ keys fs := (List.mem_cons.1 hmem).resolve_left (Ne.symm hk)
        simp [set, hk, hk', ih hmem']

theorem set_merge (hmem : key ∈ fs.keys) (hnot : key ∉ gs.keys) (value : α) :
    (fs.merge gs).set key value = (fs.set key value).merge gs := by
  induction gs generalizing fs with
  | nil => rfl
  | cons g gs ih =>
    obtain ⟨k, v⟩ := g
    rw [keys_cons, List.mem_cons, not_or] at hnot
    have hmem' : key ∈ (fs.set k v).keys := by
      rw [keys_set]
      split
      · exact hmem
      · exact List.mem_append_left _ hmem
    rw [merge_cons, merge_cons, ih hmem' hnot.2, set_comm hnot.1 hmem]

theorem merge_set (hgs : gs.Distinct) (fs : Fields α) (key : String) (value : α) :
    fs.merge (gs.set key value) = (fs.merge gs).set key value := by
  induction gs generalizing fs with
  | nil => rfl
  | cons g gs ih =>
    obtain ⟨k, v⟩ := g
    obtain ⟨hnot, hgs⟩ := List.nodup_cons.1 hgs
    by_cases hk : k = key
    · have hmem : key ∈ (fs.set k v).keys := by
        rw [hk, ← has_iff_mem_keys]
        simp [has]
      rw [hk] at hmem hnot
      simp only [set, hk, if_true, merge_cons]
      rw [set_merge hmem hnot, set_set]
    · simp only [set, hk, if_false, merge_cons]
      exact ih hgs _

theorem merge_ofList (fs : Fields α) (entries : List (String × α)) :
    fs.merge (ofList entries) = fs.merge entries := by
  suffices h : ∀ gs : Fields α, gs.Distinct →
      fs.merge (gs.merge entries) = (fs.merge gs).merge entries from h [] distinct_nil
  intro gs hgs
  induction entries generalizing gs with
  | nil => rfl
  | cons e entries ih =>
    rw [merge_cons, merge_cons, ih _ (hgs.set e.1 e.2), merge_set hgs]

theorem ofList_append_ofList (entries entries' : List (String × α)) :
    ofList (ofList entries ++ ofList entries') = ofList (entries ++ entries') := by
  calc
    ofList (ofList entries ++ ofList entries')
      = merge (merge [] (ofList entries)) (ofList entries') := merge_append _ _ _
    _ = merge (merge [] entries) entries' := by rw [merge_ofList, merge_ofList]
    _ = ofList (entries ++ entries') := (merge_append _ _ _).symm

theorem set_of_not_mem (h : key ∉ fs.keys) (value : α) :
    fs.set key value = fs ++ [(key, value)] := by
  induction fs with
  | nil => rfl
  | cons f fs ih =>
    obtain ⟨k, v⟩ := f
    rw [keys_cons, List.mem_cons, not_or] at h
    simp [set, Ne.symm h.1, ih h.2]

theorem merge_eq_append (h : Distinct (fs ++ gs)) : fs.merge gs = fs ++ gs := by
  induction gs generalizing fs with
  | nil => simp
  | cons g gs ih =>
    obtain ⟨k, v⟩ := g
    have hk : k ∉ fs.keys := by
      rw [Distinct, keys, List.map_append] at h
      intro hmem
      exact (List.nodup_append.1 h).2.2 k hmem k List.mem_cons_self rfl
    rw [merge_cons, set_of_not_mem hk, ih (by simpa using h), List.append_assoc,
      List.singleton_append]

theorem ofList_eq_self (h : fs.Distinct) : ofList fs = fs := merge_eq_append h

section

variable {β : Type}

def mapValues (f : String → α → β) (fs : Fields α) : Fields β := fs.map fun (k, v) => (k, f k v)

@[simp] theorem keys_mapValues (f : String → α → β) (fs : Fields α) :
    (mapValues f fs).keys = fs.keys := by
  simp [mapValues, keys]

@[simp] theorem get?_mapValues (f : String → α → β) (fs : Fields α) (key : String) :
    (mapValues f fs).get? key = (fs.get? key).map (f key) := by
  induction fs with
  | nil => rfl
  | cons g fs ih =>
    obtain ⟨k, v⟩ := g
    by_cases hk : k = key
    · subst hk
      simp [mapValues, get?_cons]
    · simpa [mapValues, get?_cons, hk] using ih

theorem mapValues_id (fs : Fields α) : mapValues (fun _ => id) fs = fs := List.map_id fs

theorem mapValues_append (f : String → α → β) (fs gs : Fields α) :
    mapValues f (fs ++ gs) = mapValues f fs ++ mapValues f gs := List.map_append

theorem filter_mapValues {f : String → α → β} {fs : Fields α} {p : String × β → Bool}
    {q : String × α → Bool} (h : ∀ e ∈ fs, p (e.1, f e.1 e.2) = q e) :
    (mapValues f fs).filter p = mapValues f (fs.filter q) := by
  rw [mapValues, List.filter_map]
  apply congrArg
  apply List.filter_congr
  exact h

theorem flatMap_mapValues {γ : Type} {f : String → α → β} {fs : Fields α}
    {g : String × β → List γ} {g' : String × α → List γ}
    (h : ∀ e ∈ fs, g (e.1, f e.1 e.2) = g' e) : (mapValues f fs).flatMap g = fs.flatMap g' := by
  rw [mapValues, List.flatMap_map]
  apply List.flatMap_congr
  exact h

theorem filterMap_mapValues {γ : Type} {f : String → α → β} {fs : Fields α}
    {g : String × β → Option γ} {g' : String × α → Option γ}
    (h : ∀ e ∈ fs, g (e.1, f e.1 e.2) = g' e) :
    (mapValues f fs).filterMap g = fs.filterMap g' := by
  rw [mapValues, List.filterMap_map]
  apply List.filterMap_congr
  exact h

theorem keys_filter_isSome (fs : Fields α) (g : α → Option β) :
    keys (fs.filter fun e => (g e.2).isSome)
      = keys (fs.filterMap fun e => (g e.2).map (e.1, ·)) := by
  induction fs with
  | nil => rfl
  | cons e fs ih =>
    obtain ⟨name, a⟩ := e
    cases hg : g a with
    | none => simpa [hg] using ih
    | some b => simpa [hg] using ih

end

section

variable {parts : List (Fields α)} {part : Fields α}

def LastGives (parts : List (Fields α)) (key : String) (value : α) : Prop :=
  ∃ before part after, parts = before ++ part :: after ∧ get? part key = some value
    ∧ ∀ later ∈ after, key ∉ keys later

/-- Each name that a part gives, in the order in which they first give it, with the value that they
last give it. -/
structure Unites (fs : Fields α) (parts : List (Fields α)) : Prop where
  keys : fs.keys = (parts.flatMap Fields.keys).eraseDups
  get? (key : String) (value : α) : fs.get? key = some value ↔ LastGives parts key value

theorem lastGives_cons : LastGives (part :: parts) key value ↔
    LastGives parts key value
      ∨ (∀ later ∈ parts, key ∉ keys later) ∧ part.get? key = some value := by
  constructor
  · rintro ⟨before, given, after, hparts, hgiven, hafter⟩
    cases before with
    | nil =>
      obtain ⟨rfl, rfl⟩ := List.cons.inj hparts
      exact .inr ⟨hafter, hgiven⟩
    | cons first before =>
      exact .inl ⟨before, given, after, (List.cons.inj hparts).2, hgiven, hafter⟩
  · rintro (⟨before, given, after, rfl, hgiven, hafter⟩ | ⟨hparts, hpart⟩)
    · exact ⟨part :: before, given, after, rfl, hgiven, hafter⟩
    · exact ⟨[], part, parts, rfl, hpart, hparts⟩

theorem get?_reverse_flatten_eq_none_iff :
    get? parts.flatten.reverse key = none ↔ ∀ part ∈ parts, key ∉ keys part := by
  rw [get?_eq_none_iff, Fields.keys, List.map_reverse, List.mem_reverse, List.map_flatten]
  simp [Fields.keys]

theorem get?_reverse_flatten (h : ∀ part ∈ parts, Distinct part) :
    get? parts.flatten.reverse key = some value ↔ LastGives parts key value := by
  induction parts with
  | nil => simp [LastGives]
  | cons part parts ih =>
    obtain ⟨hpart, hparts⟩ := List.forall_mem_cons.1 h
    rw [List.flatten_cons, List.reverse_append, get?_append, Option.or_eq_some_iff, ih hparts,
      get?_reverse_flatten_eq_none_iff, ← hpart.get?_perm (List.reverse_perm part).symm,
      lastGives_cons]

theorem unites_ofList (h : ∀ part ∈ parts, Distinct part) :
    Unites (ofList parts.flatten) parts where
  keys := by
    rw [ofList, keys_merge distinct_nil, keys_nil, List.nil_append, Fields.keys, List.map_flatten,
      List.flatMap_def]
    rfl
  get? key value := by
    rw [ofList, get?_merge, ← get?_reverse_flatten h, get?_nil, Option.or_none]

end

end ShapeGraph.Fields
