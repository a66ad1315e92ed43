namespace ShapeGraph

abbrev Fields (α : Type) := List (String × α)

namespace Fields

variable {α β : Type}

def keys (fs : Fields α) : List String := fs.map Prod.fst

def get? : Fields α → String → Option α
  | [], _ => none
  | (k, v) :: rest, key => if k = key then some v else get? rest key

def has (fs : Fields α) (key : String) : Bool := (fs.get? key).isSome

/-- A known name keeps its place; a new one comes last. -/
def set : Fields α → String → α → Fields α
  | [], key, value => [(key, value)]
  | (k, v) :: rest, key, value =>
    if k = key then (k, value) :: rest else (k, v) :: set rest key value

def erase : Fields α → String → Fields α
  | [], _ => []
  | (k, v) :: rest, key => if k = key then rest else (k, v) :: erase rest key

def merge (fs gs : Fields α) : Fields α := gs.foldl (fun acc (k, v) => set acc k v) fs

def ofList (entries : List (String × α)) : Fields α := merge [] entries

def Distinct (fs : Fields α) : Prop := fs.keys.Nodup

@[simp] theorem get?_nil (key : String) : get? ([] : Fields α) key = none := rfl

theorem get?_cons (k : String) (v : α) (fs : Fields α) (key : String) :
    get? ((k, v) :: fs) key = if k = key then some v else get? fs key := rfl

@[simp] theorem keys_nil : keys ([] : Fields α) = [] := rfl

@[simp] theorem keys_cons (k : String) (v : α) (fs : Fields α) :
    keys ((k, v) :: fs) = k :: keys fs := rfl

@[simp] theorem get?_set_self (fs : Fields α) (key : String) (value : α) :
    (fs.set key value).get? key = some value := by
  induction fs with
  | nil => simp [set, get?_cons]
  | cons f fs ih =>
    obtain ⟨k, v⟩ := f
    by_cases h : k = key <;> simp [set, h, get?_cons, ih]

theorem get?_set_of_ne {key key' : String} (h : key ≠ key') (fs : Fields α) (value : α) :
    (fs.set key value).get? key' = fs.get? key' := by
  induction fs with
  | nil => simp [set, get?_cons, h]
  | cons f fs ih =>
    obtain ⟨k, v⟩ := f
    by_cases hk : k = key
    · simp [set, hk, get?_cons, h]
    · simp [set, hk, get?_cons, ih]

theorem has_iff_mem_keys {fs : Fields α} {key : String} : fs.has key ↔ key ∈ fs.keys := by
  induction fs with
  | nil => simp [has]
  | cons f fs ih =>
    obtain ⟨k, v⟩ := f
    by_cases hk : k = key
    · simp [has, get?_cons, hk]
    · simp only [has] at ih
      simp [has, get?_cons, hk, ih, Ne.symm hk]

theorem mem_keys_iff {fs : Fields α} {key : String} :
    key ∈ fs.keys ↔ ∃ value, (key, value) ∈ fs := by
  simp [keys]

theorem keys_set (fs : Fields α) (key : String) (value : α) :
    (fs.set key value).keys = if key ∈ fs.keys then fs.keys else fs.keys ++ [key] := by
  induction fs with
  | nil => simp [set]
  | cons f fs ih =>
    obtain ⟨k, v⟩ := f
    by_cases hk : k = key
    · simp [set, hk]
    · by_cases hm : key ∈ keys fs <;> simp [set, hk, Ne.symm hk, ih, hm]

theorem get?_eq_none_iff {fs : Fields α} {key : String} : fs.get? key = none ↔ key ∉ fs.keys := by
  rw [← has_iff_mem_keys]
  simp [has]

theorem mem_of_get? {fs : Fields α} {key : String} {value : α} (h : fs.get? key = some value) :
    (key, value) ∈ fs := by
  induction fs with
  | nil => simp at h
  | cons f fs ih =>
    obtain ⟨k, v⟩ := f
    by_cases hk : k = key
    · simp_all [get?_cons]
    · simp_all [get?_cons]

theorem keys_erase (fs : Fields α) (key : String) : (fs.erase key).keys = fs.keys.erase key := by
  induction fs with
  | nil => rfl
  | cons f fs ih =>
    obtain ⟨k, v⟩ := f
    by_cases hk : k = key
    · simp [erase, hk]
    · simp [erase, hk, ih]

theorem get?_erase_of_ne {key key' : String} (h : key ≠ key') (fs : Fields α) :
    (fs.erase key).get? key' = fs.get? key' := by
  induction fs with
  | nil => rfl
  | cons f fs ih =>
    obtain ⟨k, v⟩ := f
    by_cases hk : k = key
    · simp [erase, hk, get?_cons, h]
    · simp [erase, hk, get?_cons, ih]

theorem Distinct.get?_of_mem {fs : Fields α} (hd : fs.Distinct) {key : String} {value : α}
    (h : (key, value) ∈ fs) : fs.get? key = some value := by
  induction fs with
  | nil => simp at h
  | cons f fs ih =>
    obtain ⟨k, v⟩ := f
    obtain ⟨hk, hd⟩ := List.nodup_cons.1 hd
    rcases List.mem_cons.1 h with h | h
    · cases h
      simp [get?_cons]
    · have hne : k ≠ key := by
        rintro rfl
        exact hk (List.mem_map.2 ⟨_, h, rfl⟩)
      simpa [get?_cons, hne] using ih hd h

theorem Distinct.set {fs : Fields α} (hd : fs.Distinct) (key : String) (value : α) :
    (fs.set key value).Distinct := by
  unfold Distinct
  rw [keys_set]
  split
  · exact hd
  · next h =>
    refine List.nodup_append.2 ⟨hd, by simp, ?_⟩
    rintro a ha b hb rfl
    exact h (List.mem_singleton.1 hb ▸ ha)

theorem Distinct.erase {fs : Fields α} (hd : fs.Distinct) (key : String) :
    (fs.erase key).Distinct := by
  unfold Distinct
  rw [keys_erase]
  exact List.Nodup.erase key hd

end Fields

end ShapeGraph
