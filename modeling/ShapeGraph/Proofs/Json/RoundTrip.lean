import ShapeGraph.Proofs.Fields
import ShapeGraph.Proofs.Json.Number
import ShapeGraph.Proofs.Json.Recognition

namespace ShapeGraph.Json

open Text

variable {c : Char} {cs : List Char} {us : List Nat}

def charUnits (c : Char) : List Nat :=
  if c.toNat < 0x10000 then [c.toNat]
  else [0xd800 + (c.toNat - 0x10000) / 0x400, 0xdc00 + (c.toNat - 0x10000) % 0x400]

theorem toNat_cases (c : Char) : c.toNat < 0xd800 ∨ 0xdfff < c.toNat ∧ c.toNat < 0x110000 :=
  c.valid

theorem unitsText_escapeUnit {n : Nat} (hn : n < 0x10000) (h : UnitsText cs us) :
    UnitsText (escapeUnit n ++ cs) (n :: us) := by
  have hread := readHex_hex 4 0 n []
  rw [List.append_nil, Nat.mul_zero, Nat.zero_add, Nat.pow_eq, Nat.mod_eq_of_lt hn] at hread
  exact .code (congrArg (Option.map Prod.fst) hread) h

theorem unitsText_ite {a b : Char} {rest : List Char} (hb : escapedUnit? b = some a.toNat)
    (ha : a.toNat < 0x10000) (h : UnitsText cs us)
    (hrest : c ≠ a → UnitsText (rest ++ cs) (charUnits c ++ us)) :
    UnitsText ((if c = a then ['\\', b] else rest) ++ cs) (charUnits c ++ us) := by
  by_cases hc : c = a
  · rw [if_pos hc, hc, charUnits, if_pos ha]
    exact .escape hb h
  · rw [if_neg hc]
    exact hrest hc

theorem unitsText_printChar (c : Char) (h : UnitsText cs us) :
    UnitsText (printChar c ++ cs) (charUnits c ++ us) := by
  refine unitsText_ite (by decide) (by decide) h fun hquote => ?_
  refine unitsText_ite (by decide) (by decide) h fun hescape => ?_
  iterate 5 refine unitsText_ite (by decide) (by decide) h fun _ => ?_
  split
  · rename_i hrange
    rw [charUnits, if_pos (by omega)]
    exact .plain hquote hescape hrange.1 h
  · split
    · rename_i hplane
      rw [charUnits, if_pos hplane]
      exact unitsText_escapeUnit hplane h
    · rename_i hplane
      have hvalid := toNat_cases c
      rw [charUnits, if_neg hplane, List.append_assoc]
      exact unitsText_escapeUnit (by omega) (unitsText_escapeUnit (by omega) h)

theorem joinUnits_cons {n : Nat} (hhigh : isHigh n = false) (us : List Nat) :
    joinUnits (n :: us) = unitChar n :: joinUnits us := by
  cases us with
  | nil => rfl
  | cons => simp [joinUnits, hhigh]

theorem joinUnits_charUnits (c : Char) (us : List Nat) :
    joinUnits (charUnits c ++ us) = c :: joinUnits us := by
  have hvalid := toNat_cases c
  unfold charUnits
  split
  · have hhigh : isHigh c.toNat = false := by
      simp only [isHigh, Bool.and_eq_false_iff, decide_eq_false_iff_not]
      omega
    have hlow : isLow c.toNat = false := by
      simp only [isLow, Bool.and_eq_false_iff, decide_eq_false_iff_not]
      omega
    rw [List.singleton_append, joinUnits_cons hhigh, unitChar, hhigh, hlow]
    simp [Char.ofNat_toNat]
  · rename_i hplane
    have hhigh : isHigh (0xd800 + (c.toNat - 0x10000) / 0x400) := by
      simp only [isHigh, Bool.and_eq_true, decide_eq_true_eq]
      omega
    have hlow : isLow (0xdc00 + (c.toNat - 0x10000) % 0x400) := by
      simp only [isLow, Bool.and_eq_true, decide_eq_true_eq]
      omega
    have hjoin : 0x10000 + (0xd800 + (c.toNat - 0x10000) / 0x400 - 0xd800) * 0x400
        + (0xdc00 + (c.toNat - 0x10000) % 0x400 - 0xdc00) = c.toNat := by
      omega
    simp only [List.cons_append, List.nil_append, joinUnits, hhigh, hlow, hjoin, Bool.and_self,
      if_true, Char.ofNat_toNat]

theorem unitsText_flatMap (cs : List Char) :
    UnitsText (cs.flatMap printChar) (cs.flatMap charUnits) := by
  induction cs with
  | nil => exact .nil
  | cons c cs ih => exact unitsText_printChar c ih

theorem joinUnits_flatMap (cs : List Char) : joinUnits (cs.flatMap charUnits) = cs := by
  induction cs with
  | nil => rfl
  | cons c cs ih => rw [List.flatMap_cons, joinUnits_charUnits, ih]

theorem stringText_printString (s : String) : StringText (printString s) s := by
  have h := StringText.intro (unitsText_flatMap s.toList)
  rw [joinUnits_flatMap, String.ofList_toList] at h
  exact h

/-- What the reader can give, with containers nested at most `depth` deep: integers of no more
digits than are read, and objects in which no name recurs. -/
inductive Admitted : (depth : Nat) → Json → Prop
  | null {depth : Nat} : Admitted depth .null
  | bool {depth : Nat} (b : Bool) : Admitted depth (.bool b)
  | int {depth : Nat} {n : Int} : n.natAbs < 10 ^ integerLimit → Admitted depth (.int n)
  | real {depth : Nat} (x : Binary64) : Admitted depth (.real x)
  | str {depth : Nat} (s : String) : Admitted depth (.str s)
  | arr {depth : Nat} {xs : List Json} : (∀ x ∈ xs, Admitted depth x) →
      Admitted (depth + 1) (.arr xs)
  | obj {depth : Nat} {fs : Fields Json} : fs.Distinct → (∀ f ∈ fs, Admitted depth f.2) →
      Admitted (depth + 1) (.obj fs)

mutual

def isFinite : Json → Bool
  | .real (.infinite _) => false
  | .arr xs => areFinite xs
  | .obj fs => haveFinite fs
  | _ => true

def areFinite : List Json → Bool
  | [] => true
  | x :: xs => x.isFinite && areFinite xs

def haveFinite : List (String × Json) → Bool
  | [] => true
  | (_, v) :: fs => v.isFinite && haveFinite fs

end

@[simp] theorem isFinite_str (s : String) : (str s).isFinite = true := rfl

@[simp] theorem isFinite_arr (xs : List Json) : (arr xs).isFinite = xs.all isFinite := by
  rw [isFinite]
  induction xs with
  | nil => rfl
  | cons x xs ih => rw [areFinite, ih, List.all_cons]

@[simp] theorem isFinite_obj (fs : Fields Json) :
    (obj fs).isFinite = fs.all fun f => f.2.isFinite := by
  rw [isFinite]
  induction fs with
  | nil => rfl
  | cons f fs ih => rw [haveFinite, ih, List.all_cons]

/-- What text can keep, with containers nested at most `depth` deep: numbers without fractions, of
no more digits than are read, and objects in which no name recurs. -/
inductive Portable : (depth : Nat) → Json → Prop
  | null {depth : Nat} : Portable depth .null
  | bool {depth : Nat} (b : Bool) : Portable depth (.bool b)
  | int {depth : Nat} {n : Int} : n.natAbs < 10 ^ integerLimit → Portable depth (.int n)
  | str {depth : Nat} (s : String) : Portable depth (.str s)
  | arr {depth : Nat} {xs : List Json} : (∀ x ∈ xs, Portable depth x) →
      Portable (depth + 1) (.arr xs)
  | obj {depth : Nat} {fs : Fields Json} : fs.Distinct → (∀ f ∈ fs, Portable depth f.2) →
      Portable (depth + 1) (.obj fs)

theorem Portable.admitted {depth : Nat} {v : Json} (h : Portable depth v) : Admitted depth v := by
  induction h with
  | null => exact .null
  | bool b => exact .bool b
  | int h => exact .int h
  | str s => exact .str s
  | arr _ ih => exact .arr ih
  | obj hfs _ ih => exact .obj hfs ih

theorem Portable.isFinite {depth : Nat} {v : Json} (h : Portable depth v) : v.isFinite := by
  induction h with
  | null | bool | int | str => rfl
  | arr _ ih =>
    rw [isFinite_arr, List.all_eq_true]
    exact ih
  | obj _ _ ih =>
    rw [isFinite_obj, List.all_eq_true]
    exact ih

theorem valueText_of_scalarText {depth : Nat} {v : Json} (h : ScalarText cs v) :
    ValueText depth cs v := by
  cases depth <;> exact TextWith.scalar h

theorem valueText_of_stringText {depth : Nat} {s : String} (h : StringText cs s) :
    ValueText depth cs (.str s) := by
  cases depth <;> exact TextWith.string h

theorem isSpaces_newline (m : Margin) : IsSpaces m.newline := by
  intro c hc
  cases m with
  | none => cases hc
  | some depth =>
    cases hc with
    | head => rfl
    | tail _ hc =>
      rw [List.eq_of_mem_replicate hc]
      rfl

theorem exists_separator (m : Margin) : ∃ right, m.separator = ',' :: right ∧ IsSpaces right := by
  cases m with
  | none => exact ⟨[' '], rfl, isSpaces_blank⟩
  | some depth => exact ⟨_, rfl, isSpaces_newline _⟩

theorem printItems_eq (m : Margin) (xs : List Json) (close : List Char) :
    printItems m xs close = xs.foldr (fun x rest => m.separator ++ (print m x ++ rest)) close := by
  induction xs with
  | nil => rfl
  | cons x xs ih => rw [printItems, ih, List.foldr_cons]

def printField (m : Margin) (f : String × Json) : List Char :=
  printString f.1 ++ ':' :: ' ' :: print m f.2

theorem printFields_eq (m : Margin) (fs : Fields Json) (close : List Char) :
    printFields m fs close
      = fs.foldr (fun f rest => m.separator ++ (printField m f ++ rest)) close := by
  induction fs with
  | nil => rfl
  | cons f fs ih => simp [printFields, ih, printField]

theorem entryText_printField {T : List Char → Json → Prop} {f : String × Json} {m : Margin}
    (h : T (print m f.2) f.2) : EntryText T (printField m f) f :=
  .intro (stringText_printString f.1) isSpaces_nil isSpaces_blank h

theorem seriesText_foldr {α : Type} {close : Char} {T : List Char → α → Prop} {p : α → List Char}
    (m : Margin) {left right : List Char} {x : α} {xs : List α} (hleft : IsSpaces left)
    (hright : IsSpaces right) (h : ∀ y ∈ x :: xs, T (p y) y) :
    SeriesText close T (left ++ (p x
      ++ xs.foldr (fun y rest => m.separator ++ (p y ++ rest)) (right ++ [close]))) (x :: xs) := by
  obtain ⟨space, hseparator, hspace⟩ := exists_separator m
  rw [hseparator]
  -- what the separator has behind its comma stands to the left of the next item
  induction xs generalizing x left with
  | nil => exact .last hleft (h x List.mem_cons_self) hright
  | cons y xs ih =>
    exact .more hleft (h x List.mem_cons_self) isSpaces_nil
      (ih hspace fun z hz => h z (List.mem_cons_of_mem x hz))

theorem valueText_print {depth : Nat} {v : Json} (h : Admitted depth v) (hfinite : v.isFinite)
    (m : Margin) : ValueText depth (print m v) v := by
  induction h generalizing m with
  | null => exact valueText_of_scalarText (.literal (by simp [literals, print]))
  | bool b =>
    refine valueText_of_scalarText (.literal ?_)
    cases b <;> simp [literals, print]
  | int h => exact valueText_of_scalarText (.number (numberText_printInt h))
  | real x =>
    cases x with
    | finite negative e f =>
      exact valueText_of_scalarText (.number (numberText_real negative e f _))
    | infinite => cases hfinite
  | str s => exact valueText_of_stringText (stringText_printString s)
  | @arr depth xs _ ih =>
    rw [isFinite_arr, List.all_eq_true] at hfinite
    cases xs with
    | nil => exact TextWith.array (.intro (.empty isSpaces_nil))
    | cons x xs =>
      rw [print, printItems_eq]
      refine TextWith.array (.intro (.series ?_))
      exact seriesText_foldr m.inner (isSpaces_newline _) (isSpaces_newline m) fun y hy =>
        ih y hy (hfinite y hy) m.inner
  | @obj depth fs hfs _ ih =>
    rw [isFinite_obj, List.all_eq_true] at hfinite
    have htext :
        ObjectText (ValueText depth) (print m (.obj fs)).tail (.obj (Fields.ofList fs)) := by
      refine .intro ?_
      cases fs with
      | nil => exact .empty isSpaces_nil
      | cons f fs =>
        rw [print, printFields_eq]
        refine .series ?_
        exact seriesText_foldr m.inner (isSpaces_newline _) (isSpaces_newline m) fun f hf =>
          entryText_printField (ih f hf (hfinite f hf) m.inner)
    rw [Fields.ofList_eq_self hfs] at htext
    cases fs <;> exact TextWith.object htext

theorem ofText_toText {v : Json} (h : Admitted nestingLimit v) (hfinite : v.isFinite)
    (pretty : Bool) : ofText (v.toText pretty) = .ok v := by
  rw [ofText_eq_ok_iff, toText, String.toList_ofList, ← List.append_nil (print _ v)]
  exact .intro isSpaces_nil (valueText_print h hfinite _) isSpaces_nil

end ShapeGraph.Json
