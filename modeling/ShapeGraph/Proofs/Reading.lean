import ShapeGraph.Proofs.Text.Trim

namespace ShapeGraph

inductive Perhaps {α : Type} (part : List Char → α → Prop) : List Char → Option α → Prop
  | without : Perhaps part [] none
  | given {cs : List Char} {x : α} : part cs x → Perhaps part cs (some x)

theorem bind_eq_ok_iff {ε α β : Type} {x : Except ε α} {f : α → Except ε β} {b : β} :
    x.bind f = .ok b ↔ ∃ a, x = .ok a ∧ f a = .ok b := by
  cases x <;> simp [Except.bind]

theorem map_eq_ok_iff {ε α β : Type} {x : Except ε α} {f : α → β} {b : β} :
    x.map f = .ok b ↔ ∃ a, x = .ok a ∧ f a = b := by
  cases x <;> simp [Except.map]

theorem bind_eq_error_iff {ε α β : Type} {x : Except ε α} {f : α → Except ε β} {e : ε} :
    x.bind f = .error e ↔ x = .error e ∨ ∃ a, x = .ok a ∧ f a = .error e := by
  cases x <;> simp [Except.bind]

theorem map_eq_error_iff {ε α β : Type} {x : Except ε α} {f : α → β} {e : ε} :
    x.map f = .error e ↔ x = .error e := by
  cases x <;> simp [Except.map]

theorem map_of_mapM_eq_ok {ε α β γ : Type} {f : α → Except ε β} {p : α → γ} {q : β → γ}
    (hf : ∀ x y, f x = .ok y → q y = p x) {xs : List α} {ys : List β} (h : xs.mapM f = .ok ys) :
    ys.map q = xs.map p := by
  induction xs generalizing ys with
  | nil =>
    cases h
    rfl
  | cons x xs ih =>
    rw [List.mapM_cons] at h
    obtain ⟨y, hy, h⟩ := bind_eq_ok_iff.1 h
    obtain ⟨ys, hys, h⟩ := bind_eq_ok_iff.1 h
    cases h
    rw [List.map_cons, List.map_cons, hf x y hy, ih hys]

/-- What a reader takes is a text of `T`, and it takes any text of `T` in front of what may follow
one. -/
structure Takes {ε α : Type} (read : List Char → Except ε (α × List Char))
    (T : List Char → α → Prop) (follows : List Char → Prop) : Prop where
  sound {cs rest : List Char} {x : α} :
    read cs = .ok (x, rest) → ∃ taken, cs = taken ++ rest ∧ T taken x
  complete {taken rest : List Char} {x : α} :
    T taken x → follows rest → read (taken ++ rest) = .ok (x, rest)

end ShapeGraph
