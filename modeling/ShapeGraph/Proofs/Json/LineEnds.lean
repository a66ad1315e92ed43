import ShapeGraph.Files.Tree
import ShapeGraph.Proofs.Json.Recognition

namespace ShapeGraph.Json

open Files.Tree (unixLines)
open Text

variable {α : Type} {c close : Char} {cs left right rest : List Char} {x : α} {xs : List α}

theorem unixLines_cons (h : c ≠ '\r') (cs : List Char) :
    unixLines (c :: cs) = c :: unixLines cs := by
  rw [unixLines]
  · rintro tail rfl
    exact absurd rfl h
  · exact h

theorem unixLines_return (h : cs.head? ≠ some '\n') :
    unixLines ('\r' :: cs) = '\n' :: unixLines cs := by
  rw [unixLines]
  rintro tail rfl
  exact h rfl

theorem unixLines_append_of_not_mem (h : '\r' ∉ cs) (rest : List Char) :
    unixLines (cs ++ rest) = cs ++ unixLines rest := by
  induction cs with
  | nil => rfl
  | cons c cs ih =>
    rw [List.mem_cons, not_or] at h
    rw [List.cons_append, unixLines_cons (Ne.symm h.1), ih h.2, List.cons_append]

theorem unixLines_eq_self (h : '\r' ∉ cs) : unixLines cs = cs := by
  simpa [unixLines] using unixLines_append_of_not_mem h []

theorem head?_ne_of_stops (h : Stops isSpace rest) : rest.head? ≠ some '\n' := by
  intro hhead
  cases h '\n' hhead

theorem unixLines_append (h : Stops isSpace rest) (cs : List Char) :
    unixLines (cs ++ rest) = unixLines cs ++ unixLines rest := by
  -- a carriage return at the end of `cs` would take a line feed in front of `rest` with it
  have hrest := head?_ne_of_stops h
  fun_induction unixLines cs with
  | case1 cs ih => simp [unixLines, ih]
  | case2 cs hcs ih =>
    have hhead : (cs ++ rest).head? ≠ some '\n' := by
      cases cs with
      | nil => exact hrest
      | cons c cs =>
        rw [List.cons_append, List.head?_cons, ne_eq, Option.some.injEq]
        rintro rfl
        exact hcs cs rfl
    rw [List.cons_append, unixLines_return hhead, ih, List.cons_append]
  | case3 c cs hcr hc ih =>
    have hne : c ≠ '\r' := by
      rintro rfl
      exact hc rfl
    rw [List.cons_append, unixLines_cons hne, ih, List.cons_append]
  | case4 => rfl

theorem mem_unixLines (h : c ∈ unixLines cs) : c = '\n' ∨ c ∈ cs := by
  fun_induction unixLines cs with
  | case1 cs ih =>
    obtain hc | h := List.mem_cons.1 h
    · exact .inl hc
    · exact (ih h).imp_right fun h => List.mem_cons_of_mem _ (List.mem_cons_of_mem _ h)
  | case2 cs hcs ih =>
    obtain hc | h := List.mem_cons.1 h
    · exact .inl hc
    · exact (ih h).imp_right (List.mem_cons_of_mem _)
  | case3 d cs hcr hd ih =>
    obtain hc | h := List.mem_cons.1 h
    · rw [hc]
      exact .inr List.mem_cons_self
    · exact (ih h).imp_right (List.mem_cons_of_mem _)
  | case4 => exact .inr h

theorem IsSpaces.unixLines (h : IsSpaces cs) : IsSpaces (unixLines cs) := by
  intro c hc
  obtain rfl | hc := mem_unixLines hc
  · rfl
  · exact h c hc

theorem not_mem_digits (h : ∀ d ∈ cs, isDigit d) : '\r' ∉ cs :=
  fun hmem => ne_of_isDigit (h _ hmem) rfl rfl

theorem UnitsText.not_mem {us : List Nat} (h : UnitsText cs us) : '\r' ∉ cs := by
  induction h with
  | nil => exact List.not_mem_nil
  | @plain c _ _ _ _ hc _ ih =>
    have hne : '\r' ≠ c := by
      rintro rfl
      exact absurd hc (by decide)
    exact List.not_mem_cons_of_ne_of_not_mem hne ih
  | @escape c _ _ _ hc _ ih =>
    have hne : '\r' ≠ c := by
      rintro rfl
      cases hc
    simp [hne, ih]
  | @code a b c d n _ _ hcode _ ih =>
    have hdigits : '\r' ∉ [a, b, c, d] := by
      have hnone : hexValue? '\r' = none := rfl
      simp only [List.mem_cons, List.not_mem_nil, or_false]
      rintro (rfl | rfl | rfl | rfl) <;> simp [readHex, hnone] at hcode
    simpa [ih] using hdigits

theorem StringText.not_mem {s : String} (h : StringText cs s) : '\r' ∉ cs := by
  cases h with
  | intro h => simp [h.not_mem]

theorem SignText.not_mem {negative : Bool} (h : SignText cs negative) : '\r' ∉ cs := by
  cases h <;> decide

theorem WholeText.not_mem (h : WholeText cs) : '\r' ∉ cs := by
  cases h with
  | zero => decide
  | digits _ hd hds => exact not_mem_digits (List.forall_mem_cons.2 ⟨hd, hds⟩)

theorem perhaps_not_mem {T : List Char → α → Prop} {o : Option α} (h : Perhaps T cs o)
    (hT : ∀ cs x, T cs x → '\r' ∉ cs) : '\r' ∉ cs := by
  cases h with
  | without => exact List.not_mem_nil
  | given h => exact hT _ _ h

theorem FractionText.not_mem {places : List Char} (h : FractionText cs places) : '\r' ∉ cs := by
  cases h with
  | intro _ hds => simpa using not_mem_digits hds

theorem ExponentText.not_mem {power : Int} (h : ExponentText cs power) : '\r' ∉ cs := by
  cases h with
  | @intro c sign digits negative hc hsign _ hds =>
    have hne : '\r' ≠ c := by
      rintro rfl
      revert hc
      decide
    have hsign : '\r' ∉ sign := by
      cases hsign with
      | plus => decide
      | sign h => exact h.not_mem
    simp [hne, hsign, not_mem_digits hds]

theorem NumberText.not_mem {v : Json} (h : NumberText cs v) : '\r' ∉ cs := by
  cases h with
  | int hsign hwhole => simp [hsign.not_mem, hwhole.not_mem]
  | real hsign hwhole hfraction hexponent =>
    have hfraction := perhaps_not_mem hfraction fun _ _ h => h.not_mem
    have hexponent := perhaps_not_mem hexponent fun _ _ h => h.not_mem
    simp [hsign.not_mem, hwhole.not_mem, hfraction, hexponent]

theorem ScalarText.not_mem {v : Json} (h : ScalarText cs v) : '\r' ∉ cs := by
  cases h with
  | literal hmem =>
    simp only [literals, List.mem_cons, Prod.mk.injEq, List.not_mem_nil, or_false] at hmem
    obtain ⟨rfl, -⟩ | ⟨rfl, -⟩ | ⟨rfl, -⟩ := hmem <;> decide
  | number h => exact h.not_mem

structure KeepsLines (T : List Char → α → Prop) : Prop where
  append {cs : List Char} {x : α} : T cs x → ∀ rest,
    unixLines (cs ++ rest) = unixLines cs ++ unixLines rest
  keeps {cs : List Char} {x : α} : T cs x → T (unixLines cs) x

theorem keepsLines_of_not_mem {T : List Char → α → Prop} (h : ∀ cs x, T cs x → '\r' ∉ cs) :
    KeepsLines T where
  append {cs x} hx rest := by
    rw [unixLines_append_of_not_mem (h cs x hx), unixLines_eq_self (h cs x hx)]
  keeps {cs x} hx := by
    rw [unixLines_eq_self (h cs x hx)]
    exact hx

section

variable {T : List Char → α → Prop}

theorem Opens.stops_self (h : Opens T close) (hx : T cs x) : Stops isSpace cs :=
  (h.stops hx []).of_append

theorem unixLines_item (hT : KeepsLines T) (hopens : Opens T close) (hx : T cs x)
    (hc : isSpace c = false) (hne : c ≠ '\r') :
    unixLines (left ++ (cs ++ (right ++ c :: rest)))
      = unixLines left ++ (unixLines cs ++ (unixLines right ++ c :: unixLines rest)) := by
  rw [unixLines_append (hopens.stops hx _), hT.append hx, unixLines_append (stops_cons.2 hc),
    unixLines_cons hne]

theorem KeepsLines.seriesText (hT : KeepsLines T) (hopens : Opens T close)
    (hclose : isSpace close = false) (hne : close ≠ '\r') : KeepsLines (SeriesText close T) where
  append {cs xs} h rest := by
    induction h with
    | last _ hx =>
      simp only [List.append_assoc, List.singleton_append]
      rw [unixLines_item hT hopens hx hclose hne, unixLines_item hT hopens hx hclose hne]
      simp [unixLines]
    | more _ hx _ _ ih =>
      simp only [List.append_assoc, List.cons_append]
      rw [unixLines_item hT hopens hx rfl (by decide), ih,
        unixLines_item hT hopens hx rfl (by decide)]
      simp
  keeps {cs xs} h := by
    induction h with
    | last hleft hx hright =>
      rw [unixLines_item hT hopens hx hclose hne]
      exact .last hleft.unixLines (hT.keeps hx) hright.unixLines
    | more hleft hx hright _ ih =>
      rw [unixLines_item hT hopens hx rfl (by decide)]
      exact .more hleft.unixLines (hT.keeps hx) hright.unixLines ih

theorem KeepsLines.enclosedText (hT : KeepsLines T) (hopens : Opens T close)
    (hclose : isSpace close = false) (hne : close ≠ '\r') : KeepsLines (EnclosedText close T) where
  append {cs xs} h rest := by
    cases h with
    | empty =>
      rw [List.append_assoc, List.singleton_append, unixLines_append (stops_cons.2 hclose),
        unixLines_append (stops_cons.2 hclose), unixLines_cons hne, unixLines_cons hne]
      simp [unixLines]
    | series h => exact (hT.seriesText hopens hclose hne).append h rest
  keeps {cs xs} h := by
    cases h with
    | empty hleft =>
      rw [unixLines_append (stops_cons.2 hclose), unixLines_cons hne]
      exact .empty hleft.unixLines
    | series h => exact .series ((hT.seriesText hopens hclose hne).keeps h)

end

section

variable {T : List Char → Json → Prop}

theorem KeepsLines.arrayText (hT : KeepsLines T) (hopens : Opens T ']') :
    KeepsLines (ArrayText T) where
  append h := by
    cases h with
    | intro h => exact (hT.enclosedText hopens rfl (by decide)).append h
  keeps h := by
    cases h with
    | intro h => exact .intro ((hT.enclosedText hopens rfl (by decide)).keeps h)

theorem keepsLines_scalarText : KeepsLines ScalarText :=
  keepsLines_of_not_mem fun _ _ h => h.not_mem

theorem keepsLines_stringText : KeepsLines StringText :=
  keepsLines_of_not_mem fun _ _ h => h.not_mem

theorem unixLines_entry {name tail : List Char} {k : String} (hname : StringText name k)
    (htail : Stops isSpace tail) :
    unixLines (name ++ (left ++ ':' :: (right ++ tail)))
      = unixLines name ++ (unixLines left ++ ':' :: (unixLines right ++ unixLines tail)) := by
  rw [keepsLines_stringText.append hname, unixLines_append (stops_cons.2 rfl),
    unixLines_cons (by decide), unixLines_append htail]

theorem KeepsLines.entryText (hT : KeepsLines T) (hopens : Opens T ']') :
    KeepsLines (EntryText T) where
  append {cs entry} h rest := by
    cases h with
    | intro hname _ _ hv =>
      simp only [List.append_assoc, List.cons_append]
      rw [unixLines_entry hname (hopens.stops hv rest), hT.append hv,
        unixLines_entry hname (hopens.stops_self hv)]
      simp
  keeps {cs entry} h := by
    cases h with
    | intro hname hleft hright hv =>
      rw [unixLines_entry hname (hopens.stops_self hv)]
      exact .intro (keepsLines_stringText.keeps hname) hleft.unixLines hright.unixLines
        (hT.keeps hv)

theorem KeepsLines.objectText (hT : KeepsLines T) (hopens : Opens T ']') :
    KeepsLines (ObjectText T) where
  append h := by
    cases h with
    | intro h =>
      exact ((hT.entryText hopens).enclosedText opens_entryText rfl (by decide)).append h
  keeps h := by
    cases h with
    | intro h =>
      exact .intro (((hT.entryText hopens).enclosedText opens_entryText rfl (by decide)).keeps h)

variable {A O : List Char → Json → Prop}

theorem KeepsLines.textWith (hA : KeepsLines A) (hO : KeepsLines O) :
    KeepsLines (TextWith A O) where
  append {cs v} h rest := by
    cases h with
    | scalar h => exact keepsLines_scalarText.append h rest
    | string h => exact keepsLines_stringText.append h rest
    | array h =>
      rw [List.cons_append, unixLines_cons (by decide), hA.append h, unixLines_cons (by decide)]
      rfl
    | object h =>
      rw [List.cons_append, unixLines_cons (by decide), hO.append h, unixLines_cons (by decide)]
      rfl
  keeps {cs v} h := by
    cases h with
    | scalar h => exact .scalar (keepsLines_scalarText.keeps h)
    | string h => exact .string (keepsLines_stringText.keeps h)
    | array h =>
      rw [unixLines_cons (by decide)]
      exact .array (hA.keeps h)
    | object h =>
      rw [unixLines_cons (by decide)]
      exact .object (hO.keeps h)

theorem keepsLines_false : KeepsLines (fun _ _ => False : List Char → Json → Prop) where
  append h := h.elim
  keeps h := h

theorem keepsLines_valueText (depth : Nat) : KeepsLines (ValueText depth) := by
  induction depth with
  | zero => exact keepsLines_false.textWith keepsLines_false
  | succ depth ih =>
    exact (ih.arrayText (opens_valueText depth)).textWith (ih.objectText (opens_valueText depth))

theorem DocumentText.unixLines {v : Json} (h : DocumentText cs v) :
    DocumentText (unixLines cs) v := by
  cases h with
  | @intro left cs right v hleft hv hright =>
    have hvalue := keepsLines_valueText nestingLimit
    rw [unixLines_append ((opens_valueText _).stops hv right), hvalue.append hv]
    exact .intro hleft.unixLines (hvalue.keeps hv) hright.unixLines

end

end ShapeGraph.Json
