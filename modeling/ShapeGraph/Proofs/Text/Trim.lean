import Mathlib.Data.List.TakeWhile
import ShapeGraph.Text.Blank

namespace ShapeGraph.Text

def Stops (p : Char → Bool) (cs : List Char) : Prop := ∀ c ∈ cs.head?, p c = false

@[simp] theorem stops_nil (p : Char → Bool) : Stops p [] := by
  intro c h
  cases h

@[simp] theorem stops_cons {p : Char → Bool} {c : Char} {cs : List Char} :
    Stops p (c :: cs) ↔ p c = false := by
  simp [Stops]

def IsBlank (cs : List Char) : Prop := ∀ c ∈ cs, isBlank c

structure Trims (p : Char → Bool) (cs core : List Char) : Prop where
  parts : ∃ left right, cs = left ++ core ++ right ∧ (∀ c ∈ left, p c) ∧ ∀ c ∈ right, p c
  head : Stops p core
  last : Stops p core.reverse

variable {p : Char → Bool} {cs run rest core : List Char}

theorem Stops.imp {q : Char → Bool} (h : Stops p cs) (hpq : ∀ c, q c → p c) : Stops q cs := by
  cases cs with
  | nil => exact stops_nil q
  | cons c cs =>
    rw [stops_cons, Bool.eq_false_iff]
    intro hq
    rw [stops_cons, hpq c hq] at h
    cases h

theorem Stops.append (h : Stops p cs) (hrest : Stops p rest) : Stops p (cs ++ rest) := by
  cases cs with
  | nil => exact hrest
  | cons c cs => exact stops_cons.2 (stops_cons.1 h)

theorem Stops.append_of_ne_nil (h : Stops p cs) (hne : cs ≠ []) : Stops p (cs ++ rest) := by
  cases cs with
  | nil => exact absurd rfl hne
  | cons c cs => exact stops_cons.2 (stops_cons.1 h)

theorem Stops.of_append (h : Stops p (cs ++ rest)) : Stops p cs := by
  cases cs with
  | nil => exact stops_nil p
  | cons c cs => exact stops_cons.2 (stops_cons.1 h)

theorem stops_dropWhile : Stops p (cs.dropWhile p) := by
  induction cs with
  | nil => exact stops_nil p
  | cons c cs ih =>
    rw [List.dropWhile_cons]
    split
    · exact ih
    · rename_i h
      exact stops_cons.2 (Bool.eq_false_iff.2 h)

theorem dropWhile_eq_self (h : Stops p cs) : cs.dropWhile p = cs := by
  cases cs with
  | nil => rfl
  | cons c cs => rw [List.dropWhile_cons, stops_cons.1 h, if_neg Bool.false_ne_true]

theorem takeWhile_eq_nil (h : Stops p cs) : cs.takeWhile p = [] := by
  cases cs with
  | nil => rfl
  | cons c cs => rw [List.takeWhile_cons, stops_cons.1 h, if_neg Bool.false_ne_true]

theorem span_eq_iff : cs.takeWhile p = run ∧ cs.dropWhile p = rest
    ↔ cs = run ++ rest ∧ (∀ c ∈ run, p c) ∧ Stops p rest := by
  constructor
  · intro h
    rw [← h.1, ← h.2]
    exact ⟨List.takeWhile_append_dropWhile.symm, fun c hc => List.mem_takeWhile_imp hc,
      stops_dropWhile⟩
  · intro h
    rw [h.1, List.takeWhile_append_of_pos h.2.1, List.dropWhile_append_of_pos h.2.1,
      takeWhile_eq_nil h.2.2, dropWhile_eq_self h.2.2, List.append_nil]
    exact ⟨rfl, rfl⟩

theorem dropWhile_eq_iff :
    cs.dropWhile p = rest ↔ ∃ run, cs = run ++ rest ∧ (∀ c ∈ run, p c) ∧ Stops p rest := by
  simp only [← span_eq_iff]
  constructor
  · intro h
    exact ⟨_, rfl, h⟩
  · intro h
    obtain ⟨-, -, h⟩ := h
    exact h

theorem skipBlank_eq_iff :
    skipBlank cs = rest ↔ ∃ run, cs = run ++ rest ∧ IsBlank run ∧ Stops isBlank rest :=
  dropWhile_eq_iff

theorem stripBy_eq_iff : stripBy p cs = core ↔ Trims p cs core := by
  constructor
  · intro h
    obtain ⟨left, hleft, hp, hstop⟩ := dropWhile_eq_iff.1 (rfl : cs.dropWhile p = _)
    obtain ⟨right, hright, hp', hstop'⟩ :=
      dropWhile_eq_iff.1 (rfl : (cs.dropWhile p).reverse.dropWhile p = _)
    have hcore : (cs.dropWhile p).reverse.dropWhile p = core.reverse := by
      rw [← h, stripBy, List.reverse_reverse]
    rw [hcore] at hright hstop'
    have hsplit : cs.dropWhile p = core ++ right.reverse := by
      rw [← List.reverse_reverse (cs.dropWhile p), hright, List.reverse_append,
        List.reverse_reverse]
    rw [hsplit] at hleft hstop
    refine ⟨⟨left, right.reverse, ?_, hp, ?_⟩, ?_, hstop'⟩
    · rw [hleft, List.append_assoc]
    · intro c hc
      exact hp' c (List.mem_reverse.1 hc)
    · exact hstop.of_append
  · intro h
    obtain ⟨left, right, rfl, hleft, hright⟩ := h.parts
    rw [stripBy, List.append_assoc, List.dropWhile_append_of_pos hleft]
    cases core with
    | nil =>
      rw [List.nil_append, List.dropWhile_eq_nil_iff.2 hright]
      rfl
    | cons c core =>
      have hright' : ∀ c ∈ right.reverse, p c := fun c hc => hright c (List.mem_reverse.1 hc)
      have hhead : Stops p (c :: core ++ right) :=
        h.head.append_of_ne_nil (List.cons_ne_nil c core)
      rw [dropWhile_eq_self hhead, List.reverse_append, List.dropWhile_append_of_pos hright',
        dropWhile_eq_self h.last, List.reverse_reverse]

end ShapeGraph.Text
