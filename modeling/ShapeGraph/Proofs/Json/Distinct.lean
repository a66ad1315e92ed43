import ShapeGraph.Proofs.Fields
import ShapeGraph.Proofs.Json.Grammar

namespace ShapeGraph.Json

theorem distinctItems_iff {xs : List Json} : DistinctItems xs ↔ ∀ x ∈ xs, x.Distinct := by
  induction xs with
  | nil => simp [DistinctItems]
  | cons x xs ih => simp [DistinctItems, ih]

theorem distinctFields_iff {fs : Fields Json} : DistinctFields fs ↔ ∀ f ∈ fs, f.2.Distinct := by
  induction fs with
  | nil => simp [DistinctFields]
  | cons f fs ih => simp [DistinctFields, ih]

theorem Distinct.of_get? {v w : Json} {key : String} (h : v.Distinct) (hw : v.get? key = some w) :
    w.Distinct := by
  cases v with
  | obj fs =>
    rw [Distinct, distinctFields_iff] at h
    exact h.2 (key, w) (Fields.mem_of_get? hw)
  | _ => cases hw

section

variable {α : Type} {close : Char} {T : List Char → α → Prop} {p : α → Prop} {cs : List Char}
  {xs : List α}

theorem SeriesText.forall_mem (hT : ∀ cs x, T cs x → p x) (h : SeriesText close T cs xs) :
    ∀ x ∈ xs, p x := by
  induction h with
  | last _ hx => exact List.forall_mem_singleton.2 (hT _ _ hx)
  | more _ hx _ _ ih => exact List.forall_mem_cons.2 ⟨hT _ _ hx, ih⟩

theorem EnclosedText.forall_mem (hT : ∀ cs x, T cs x → p x) (h : EnclosedText close T cs xs) :
    ∀ x ∈ xs, p x := by
  cases h with
  | empty => exact List.forall_mem_nil p
  | series h => exact h.forall_mem hT

end

variable {cs : List Char} {v : Json}

theorem ScalarText.distinct (h : ScalarText cs v) : v.Distinct := by
  cases h with
  | literal hmem =>
    simp only [literals, List.mem_cons, Prod.mk.injEq, List.not_mem_nil, or_false] at hmem
    obtain ⟨-, rfl⟩ | ⟨-, rfl⟩ | ⟨-, rfl⟩ := hmem <;> trivial
  | number h => cases h <;> trivial

section

variable {T : List Char → Json → Prop}

theorem ArrayText.distinct (hT : ∀ cs v, T cs v → v.Distinct) (h : ArrayText T cs v) :
    v.Distinct := by
  cases h with
  | intro h => exact distinctItems_iff.2 (h.forall_mem hT)

theorem ObjectText.distinct (hT : ∀ cs v, T cs v → v.Distinct) (h : ObjectText T cs v) :
    v.Distinct := by
  cases h with
  | @intro fs h =>
    refine ⟨Fields.distinct_ofList fs, distinctFields_iff.2 fun f hf => ?_⟩
    have hentry : ∀ cs f, EntryText T cs f → f.2.Distinct := by
      rintro _ _ ⟨_, _, _, hv⟩
      exact hT _ _ hv
    exact h.forall_mem hentry f (Fields.mem_of_mem_ofList hf)

end

theorem distinct_of_valueText {depth : Nat} (h : ValueText depth cs v) : v.Distinct := by
  induction depth generalizing cs v with
  | zero =>
    cases h with
    | scalar h => exact h.distinct
    | string => trivial
    | array h => cases h
    | object h => cases h
  | succ depth ih =>
    cases h with
    | scalar h => exact h.distinct
    | string => trivial
    | array h => exact h.distinct fun _ _ => ih
    | object h => exact h.distinct fun _ _ => ih

theorem DocumentText.distinct (h : DocumentText cs v) : v.Distinct := by
  cases h with
  | intro _ h => exact distinct_of_valueText h

end ShapeGraph.Json
