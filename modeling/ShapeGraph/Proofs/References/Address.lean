import Mathlib.Data.List.Nodup
import ShapeGraph.Proofs.Text.Trim
import ShapeGraph.Shape.Edge

namespace ShapeGraph

namespace Address

def name : Address → String
  | .field name | .item name _ | .entry name _ => name

def rest : Address → List Char
  | .field _ => []
  | .item _ i => '[' :: (i.repr.toList ++ [']'])
  | .entry _ key => '.' :: key.toList

def isItem : Address → Bool
  | .item _ _ => true
  | _ => false

theorem toList_text (a : Address) : a.text.toList = a.name.toList ++ a.rest := by
  cases a with
  | field name => exact (List.append_nil _).symm
  | item name i => simp [text, Address.name, rest, toString]
  | entry name key => simp [text, Address.name, rest]

def inName (c : Char) : Bool := c ≠ '.' && c ≠ '['

theorem stops_rest (a : Address) : Text.Stops inName a.rest := by
  cases a with
  | field name => exact Text.stops_nil _
  | _ => exact Text.stops_cons.2 (by decide)

theorem rest_inj {a b : Address} (hname : a.name = b.name) (h : a.rest = b.rest) : a = b := by
  cases a with
  | field name => cases b <;> simp_all [rest, Address.name]
  | entry name key => cases b <;> simp_all [rest, Address.name, String.toList_inj]
  | item name i =>
    cases b with
    | item name' j =>
      have hdigits : Nat.toDigits 10 i = Nat.toDigits 10 j := by simpa [rest] using h
      have hindex : i = j := by
        rw [← Nat.ofDigitChars_ten_toDigits (n := i), hdigits, Nat.ofDigitChars_ten_toDigits]
      rw [hindex, show name = name' from hname]
    | _ => simp [rest] at h

theorem text_inj {a b : Address} (ha : ∀ c ∈ a.name.toList, inName c)
    (hb : ∀ c ∈ b.name.toList, inName c) (h : a.text = b.text) : a = b := by
  -- a name is the part of the text up to the first sign that is in no name
  have hspan := Text.span_eq_iff.2 ⟨a.toList_text, ha, a.stops_rest⟩
  have hspan' := Text.span_eq_iff.2 ⟨b.toList_text, hb, b.stops_rest⟩
  rw [h] at hspan
  have hname : a.name.toList = b.name.toList := hspan.1.symm.trans hspan'.1
  exact rest_inj (String.toList_inj.1 hname) (hspan.2.symm.trans hspan'.2)

theorem item_text_inj {name : String} {i j : Nat} (h : (item name i).text = (item name j).text) :
    i = j := by
  have hchars : name.toList ++ (item name i).rest = name.toList ++ (item name j).rest := by
    rw [← String.toList_inj, toList_text, toList_text] at h
    exact h
  have heq : item name i = item name j := rest_inj rfl (List.append_cancel_left hchars)
  exact (Address.item.inj heq).2

end Address

section

variable {α β : Type} {xs : List α} {f : α → Option β}

theorem getElem?_filterMap_eq_some_iff {i : Nat} {b : β} : (xs.filterMap f)[i]? = some b ↔
    ∃ j, xs[j]?.bind f = some b ∧ (xs.take j).countP (fun x => (f x).isSome) = i := by
  induction xs generalizing i with
  | nil => simp
  | cons x xs ih =>
    -- the place is that of the first item or is behind it
    rw [← Nat.or_exists_add_one]
    cases hx : f x with
    | none =>
      rw [List.filterMap_cons_none hx, ih]
      simp [hx]
    | some a =>
      rw [List.filterMap_cons_some hx]
      cases i with
      | zero => simp [hx]
      | succ i =>
        rw [List.getElem?_cons_succ, ih]
        simp [hx]

/-- Whatever is kept stands where it stood exactly if nothing that is kept stands behind something
that is not. -/
theorem filterMap_in_place_iff :
    (∀ (i : Nat) (b : β), (xs.filterMap f)[i]? = some b → xs[i]?.bind f = some b)
      ↔ xs.Pairwise fun x y => (f y).isSome → (f x).isSome := by
  induction xs with
  | nil => simp
  | cons x xs ih =>
    rw [List.pairwise_cons, ← ih]
    cases hx : f x with
    | none =>
      rw [List.filterMap_cons_none hx]
      constructor
      · intro h
        have hnone : ∀ y ∈ xs, f y = none := by
          rw [← List.filterMap_eq_nil_iff]
          cases hvalues : xs.filterMap f with
          | nil => rfl
          | cons b bs =>
            have hfirst := h 0 b (by simp [hvalues])
            simp [hx] at hfirst
        refine ⟨fun y hy => by simp [hnone y hy], ?_⟩
        simp [List.filterMap_eq_nil_iff.2 hnone]
      · rintro ⟨hgaps, -⟩ i b hb
        obtain ⟨y, hy, hyb⟩ := List.mem_filterMap.1 (List.mem_of_getElem? hb)
        exact absurd (hgaps y hy (Option.isSome_iff_exists.2 ⟨b, hyb⟩)) Bool.false_ne_true
    | some a =>
      rw [List.filterMap_cons_some hx]
      constructor
      · intro h
        exact ⟨fun _ _ _ => rfl, fun i b hb => by simpa using h (i + 1) b (by simpa using hb)⟩
      · rintro ⟨-, h⟩ i b hb
        cases i with
        | zero => exact hx.trans hb
        | succ i => simpa using h i b (by simpa using hb)

end

end ShapeGraph
