import Mathlib.Data.List.Perm.Basic
import ShapeGraph.Proofs.ShapeId.Spelling
import ShapeGraph.Proofs.Sorting

namespace ShapeGraph

theorem append_cons_lt_append_cons_iff {sep : Char} {xs ys as bs : List Char}
    (hxs : ∀ c ∈ xs, sep < c) (hys : ∀ c ∈ ys, sep < c) :
    xs ++ sep :: as < ys ++ sep :: bs ↔ xs < ys ∨ xs = ys ∧ as < bs := by
  induction xs generalizing ys with
  | nil =>
    cases ys with
    | nil => simp
    | cons y ys =>
      have hy : sep < y := hys y List.mem_cons_self
      simp [List.cons_lt_cons_iff, hy]
  | cons x xs ih =>
    obtain ⟨hx, hxs⟩ := List.forall_mem_cons.1 hxs
    cases ys with
    | nil =>
      have hne : x ≠ sep := fun h => Char.lt_irrefl sep (h ▸ hx)
      simp [List.cons_lt_cons_iff, Char.lt_asymm hx, hne]
    | cons y ys =>
      obtain ⟨hy, hys⟩ := List.forall_mem_cons.1 hys
      rw [List.cons_append, List.cons_append, List.cons_lt_cons_iff, List.cons_lt_cons_iff,
        ih hxs hys, List.cons.injEq, and_or_left, or_assoc, and_assoc]

theorem NamespaceText.hash_lt {cs : List Char} (h : NamespaceText cs) : ∀ c ∈ cs, '#' < c := by
  intro c hc
  rw [Char.lt_def, UInt32.lt_iff_toNat_lt]
  rcases h.isPart hc with hpart | rfl
  · exact Nat.lt_of_lt_of_le (by decide) (Text.toNat_of_isIdentifierPart hpart).1
  · decide

namespace ShapeId

variable {a b c : ShapeId} {m n : String}

theorem lt_iff_text_lt : a < b ↔ a.text < b.text := Iff.rfl

theorem le_iff_text_le : a ≤ b ↔ a.text ≤ b.text := by
  have hle : a ≤ b ↔ a < b ∨ a = b := Iff.rfl
  rw [hle, lt_iff_text_lt, ← text_inj, Std.le_iff_lt_or_eq]

theorem lt_trichotomy (a b : ShapeId) :
    a < b ∧ a ≠ b ∧ ¬ b < a ∨ ¬ a < b ∧ a = b ∧ ¬ b < a ∨ ¬ a < b ∧ a ≠ b ∧ b < a := by
  simp only [ne_eq, lt_iff_text_lt, ← text_inj]
  rcases Std.lt_trichotomy a.text b.text with h | h | h
  · exact .inl ⟨h, String.ne_of_lt h, String.lt_asymm h⟩
  · rw [h]
    exact .inr (.inl ⟨String.lt_irrefl b.text, rfl, String.lt_irrefl b.text⟩)
  · exact .inr (.inr ⟨String.lt_asymm h, (String.ne_of_lt h).symm, h⟩)

theorem sortOrder_le : SortOrder fun a b : ShapeId => decide (a ≤ b) where
  trans a b c hab hbc := by
    simp only [decide_eq_true_eq, le_iff_text_le] at hab hbc ⊢
    exact String.le_trans hab hbc
  total a b := by
    simp only [Bool.or_eq_true, decide_eq_true_eq, le_iff_text_le]
    exact String.le_total a.text b.text
  antisymm a b hab hba := by
    simp only [decide_eq_true_eq, le_iff_text_le] at hab hba
    exact text_inj.1 (String.le_antisymm hab hba)

theorem text_lt_text_iff (ha : a.ns = some m) (hb : b.ns = some n) : a.text < b.text
    ↔ m < n ∨ m = n ∧ join none a.name a.member < join none b.name b.member := by
  have hsplit {id : ShapeId} {s : String} (h : id.ns = some s) :
      id.text.toList = s.toList ++ '#' :: (join none id.name id.member).toList := by
    rw [text, h, join_some, Spelling.qualify]
    simp
  rw [String.lt_iff, hsplit ha, hsplit hb, append_cons_lt_append_cons_iff
    (namespaceText_of_ns ha).hash_lt (namespaceText_of_ns hb).hash_lt, ← String.lt_iff,
    ← String.lt_iff, String.toList_inj]

theorem text_le_text_iff (ha : a.ns = some m) (hb : b.ns = some n) : a.text ≤ b.text
    ↔ m < n ∨ m = n ∧ join none a.name a.member ≤ join none b.name b.member := by
  rw [← String.not_lt, text_lt_text_iff hb ha]
  rcases Std.lt_trichotomy m n with h | rfl | h
  · simp only [h, String.lt_asymm h, (String.ne_of_lt h).symm, false_and, or_self,
      not_false_eq_true, true_or]
  · simp only [String.lt_irrefl, true_and, false_or, String.not_lt]
  · simp only [h, String.lt_asymm h, (String.ne_of_lt h).symm, false_and, or_self, true_or,
      not_true_eq_false]

theorem precedes_text (a b : ShapeId) :
    Spelling.precedes a.text b.text = firstBy isRelative (fun a b => decide (a ≤ b)) a b := by
  rw [Spelling.precedes, Spelling.ns?_text, Spelling.ns?_text, Spelling.name_text,
    Spelling.name_text, firstBy, isRelative, isRelative, Bool.eq_iff_iff]
  cases ha : a.ns with
  | none =>
    cases hb : b.ns with
    | none => simp [le_iff_text_le, text, ha, hb]
    | some n => simp
  | some m =>
    cases hb : b.ns with
    | none => simp
    | some n => simp [le_iff_text_le, text_le_text_iff ha hb]

theorem sort_texts (ids : List ShapeId) : Spelling.sort (ids.map text)
    = (sort (ids.filter isRelative)).map text ++ (sort (ids.filter isAbsolute)).map text := by
  have hrest : isAbsolute = fun id => !isRelative id := by
    funext id
    rw [isAbsolute, isRelative, Option.not_isNone]
  rw [Spelling.sort, ← List.map_mergeSort fun a _ b _ => (precedes_text a b).symm,
    sortOrder_le.mergeSort_firstBy, List.map_append, hrest]
  rfl

theorem sort_texts_of_perm {ids ids' : List ShapeId} (h : (ids'.map text).Perm (ids.map text)) :
    Spelling.sort (ids'.map text) = Spelling.sort (ids.map text) := by
  have hinj : Function.Injective text := fun a b => text_inj.1
  rw [Spelling.sort, Spelling.sort, ← List.map_mergeSort fun a _ b _ => (precedes_text a b).symm,
    ← List.map_mergeSort fun a _ b _ => (precedes_text a b).symm,
    (sortOrder_le.firstBy isRelative).mergeSort_eq_of_perm ((List.map_perm_map_iff hinj).1 h)]

theorem exists_ids {texts : List String} (h : ∀ s ∈ texts, isValid s) :
    ∃ ids, texts.mapM parse = .ok ids ∧ texts = ids.map text := by
  induction texts with
  | nil => exact ⟨[], rfl, rfl⟩
  | cons s texts ih =>
    obtain ⟨hs, htexts⟩ := List.forall_mem_cons.1 h
    obtain ⟨ids, hids, heq⟩ := ih htexts
    rw [isValid] at hs
    cases hparse : parse s with
    | error r =>
      rw [hparse] at hs
      cases hs
    | ok id =>
      refine ⟨id :: ids, ?_, ?_⟩
      · rw [List.mapM_cons, hparse, hids]
        rfl
      · rw [List.map_cons, parse_eq_ok_iff.1 hparse, ← heq]

/-- Ids are in a total order, that of their texts, in which only the same ids are equal. Of valid
texts, sorting puts the relative ones before the others and both in the order of their ids, so that
it does not matter in which order they were given. -/
theorem ordered_as_texts :
    (∀ a b c : ShapeId,
      (a < b ∧ a ≠ b ∧ ¬ b < a ∨ ¬ a < b ∧ a = b ∧ ¬ b < a ∨ ¬ a < b ∧ a ≠ b ∧ b < a)
      ∧ (a < b → b < c → a < c)
      ∧ (a ≤ b ↔ a < b ∨ a = b) ∧ (a ≥ b ↔ a > b ∨ a = b) ∧ (a ≥ b ↔ ¬ a < b)
      ∧ (a = b ↔ a.text = b.text))
    ∧ ∀ texts, (∀ s ∈ texts, isValid s) →
      (∃ ids, texts.mapM parse = .ok ids ∧ Spelling.sort texts
        = (sort (ids.filter isRelative)).map text ++ (sort (ids.filter isAbsolute)).map text)
      ∧ ∀ texts', texts'.Perm texts → Spelling.sort texts' = Spelling.sort texts := by
  refine ⟨fun a b c => ⟨lt_trichotomy a b, String.lt_trans, Iff.rfl, or_congr_right eq_comm,
    le_iff_text_le.trans String.not_lt.symm, text_inj.symm⟩, fun texts h => ?_⟩
  obtain ⟨ids, hids, rfl⟩ := exists_ids h
  refine ⟨⟨ids, hids, sort_texts ids⟩, fun texts' hperm => ?_⟩
  obtain ⟨ids', -, rfl⟩ := exists_ids fun s hs => h s (hperm.mem_iff.1 hs)
  exact sort_texts_of_perm hperm

def fig : ShapeId := ⟨none, "Fig", none, Option.all_none, by decide, Option.all_none⟩

def pear : ShapeId := ⟨some "a", "Pear", none, by decide, by decide, Option.all_none⟩

def apple : ShapeId := ⟨some "a.b", "Apple", none, by decide, by decide, Option.all_none⟩

theorem ordered_as_texts_fruit : fig < pear ∧ pear < apple ∧ fig < apple
    ∧ (∀ s ∈ ["Fig", "Plum$stone", "a#Pear", "a.b#Apple", "b#Fig"], isValid s)
    ∧ Spelling.sort ["b#Fig", "a.b#Apple", "Plum$stone", "a#Pear", "Fig"]
      = ["Fig", "Plum$stone", "a#Pear", "a.b#Apple", "b#Fig"] := by
  have hfig : fig < pear := by decide
  have hpear : pear < apple := by decide
  have hvalid : ∀ s ∈ ["Fig", "Plum$stone", "a#Pear", "a.b#Apple", "b#Fig"], isValid s := by decide
  obtain ⟨horder, hsort⟩ := ordered_as_texts
  refine ⟨hfig, hpear, (horder fig pear apple).2.1 hfig hpear, hvalid, ?_⟩
  rw [(hsort _ hvalid).2 _ (by decide)]
  exact List.mergeSort_of_pairwise (by decide)

end ShapeId

end ShapeGraph
