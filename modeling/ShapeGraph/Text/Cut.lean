namespace ShapeGraph.Text

def cutAt (sep : Char) : List Char → Option (List Char × List Char)
  | [] => none
  | c :: rest =>
    if c = sep then some ([], rest)
    else (cutAt sep rest).map fun (before, after) => (c :: before, after)

def pieces (sep : Char) : List Char → List (List Char)
  | [] => [[]]
  | c :: rest =>
    if c = sep then [] :: pieces sep rest
    else
      match pieces sep rest with
      | [] => [[c]]
      | first :: others => (c :: first) :: others

def after? {α : Type} [DecidableEq α] : (first cs : List α) → Option (List α)
  | [], cs => some cs
  | _ :: _, [] => none
  | a :: first, c :: cs => if a = c then after? first cs else none

def cut (sep : Char) (s : String) : Option (String × String) :=
  (cutAt sep s.toList).map fun (before, after) => (String.ofList before, String.ofList after)

theorem cutAt_eq_some_iff {sep : Char} {cs before after : List Char} :
    cutAt sep cs = some (before, after) ↔ cs = before ++ sep :: after ∧ sep ∉ before := by
  induction cs generalizing before with
  | nil => simp [cutAt]
  | cons c rest ih =>
    by_cases h : c = sep
    · subst h
      simp only [cutAt, if_true, Option.some.injEq, Prod.mk.injEq]
      constructor
      · rintro ⟨rfl, rfl⟩; simp
      · rintro ⟨h, hn⟩
        cases before with
        | nil => simpa using h
        | cons b bs => simp_all
    · simp only [cutAt, if_neg h, Option.map_eq_some_iff, Prod.mk.injEq, Prod.exists]
      constructor
      · rintro ⟨b, a, hba, rfl, rfl⟩
        obtain ⟨rfl, hn⟩ := ih.1 hba
        simp [hn, Ne.symm h]
      · rintro ⟨h', hn⟩
        cases before with
        | nil => simp_all
        | cons b bs =>
          simp only [List.cons_append, List.cons.injEq] at h'
          obtain ⟨rfl, rfl⟩ := h'
          exact ⟨bs, after, ih.2 ⟨rfl, by simp_all⟩, rfl, rfl⟩

@[simp] theorem after?_append {α : Type} [DecidableEq α] (first rest : List α) :
    after? first (first ++ rest) = some rest := by
  induction first with
  | nil => rfl
  | cons a first ih => simp [after?, ih]

theorem after?_eq_some_iff {α : Type} [DecidableEq α] {first cs rest : List α} :
    after? first cs = some rest ↔ cs = first ++ rest := by
  constructor
  · intro h
    fun_induction after? first cs with
    | case1 cs => simpa using h
    | case2 => simp at h
    | case3 first a cs ih => simp [ih h]
    | case4 => simp at h
  · rintro rfl
    exact after?_append first rest

theorem cutAt_eq_none_iff {sep : Char} {cs : List Char} : cutAt sep cs = none ↔ sep ∉ cs := by
  induction cs with
  | nil => simp [cutAt]
  | cons c rest ih =>
    by_cases h : c = sep
    · simp [cutAt, h]
    · simp [cutAt, h, ih, Ne.symm h]

theorem pieces_ne_nil (sep : Char) (cs : List Char) : pieces sep cs ≠ [] := by
  cases cs with
  | nil => simp [pieces]
  | cons c rest =>
    simp only [pieces]
    split
    · simp
    · split <;> simp

theorem not_mem_of_mem_pieces {sep : Char} {cs piece : List Char} (h : piece ∈ pieces sep cs) :
    sep ∉ piece := by
  fun_induction pieces sep cs generalizing piece with
  | case1 => simp_all
  | case2 rest ih =>
    rcases List.mem_cons.1 h with rfl | h
    · simp
    · exact ih h
  | case3 c rest hc hp => exact absurd hp (pieces_ne_nil sep rest)
  | case4 c rest hc first others hp ih =>
    rcases List.mem_cons.1 h with rfl | h
    · have := @ih first (by simp [hp])
      simp [Ne.symm hc, this]
    · exact ih (by simp [hp, h])

theorem subset_of_mem_pieces {sep : Char} {cs piece : List Char} (h : piece ∈ pieces sep cs) :
    piece ⊆ cs := by
  fun_induction pieces sep cs generalizing piece with
  | case1 => simp_all
  | case2 rest ih =>
    rcases List.mem_cons.1 h with rfl | h
    · simp
    · exact List.subset_cons_of_subset sep (ih h)
  | case3 c rest hc hp => exact absurd hp (pieces_ne_nil sep rest)
  | case4 c rest hc first others hp ih =>
    rcases List.mem_cons.1 h with rfl | h
    · exact List.cons_subset_cons c (ih (by simp [hp]))
    · exact List.subset_cons_of_subset c (ih (by simp [hp, h]))

theorem intercalate_pieces (sep : Char) (cs : List Char) :
    [sep].intercalate (pieces sep cs) = cs := by
  fun_induction pieces sep cs with
  | case1 => rfl
  | case2 rest ih =>
    obtain ⟨first, others, hp⟩ := List.exists_cons_of_ne_nil (pieces_ne_nil sep rest)
    rw [hp] at ih ⊢
    simp [List.intercalate, List.intersperse] at ih ⊢
    exact ih
  | case3 c rest hc hp => exact absurd hp (pieces_ne_nil sep rest)
  | case4 c rest hc first others hp ih =>
    rw [hp] at ih
    cases others with
    | nil => simp_all [List.intercalate]
    | cons second others => simp_all [List.intercalate]

theorem pieces_of_not_mem {sep : Char} {cs : List Char} (h : sep ∉ cs) : pieces sep cs = [cs] := by
  induction cs with
  | nil => rfl
  | cons c rest ih =>
    rw [List.mem_cons, not_or] at h
    rw [pieces, if_neg (Ne.symm h.1), ih h.2]

theorem pieces_append_cons {sep : Char} {cs : List Char} (h : sep ∉ cs) (rest : List Char) :
    pieces sep (cs ++ sep :: rest) = cs :: pieces sep rest := by
  induction cs with
  | nil => simp [pieces]
  | cons c cs ih =>
    rw [List.mem_cons, not_or] at h
    rw [List.cons_append, pieces, if_neg (Ne.symm h.1), ih h.2]

theorem cut_eq_some_iff {sep : Char} {s before after : String} :
    cut sep s = some (before, after)
      ↔ s.toList = before.toList ++ sep :: after.toList ∧ sep ∉ before.toList := by
  rw [cut, ← cutAt_eq_some_iff, Option.map_eq_some_iff]
  constructor
  · rintro ⟨⟨cs, ds⟩, h, heq⟩
    obtain ⟨rfl, rfl⟩ := Prod.mk.inj heq
    rw [h, String.toList_ofList, String.toList_ofList]
  · intro h
    exact ⟨_, h, by simp only [String.ofList_toList]⟩

theorem cut_eq_none_iff {sep : Char} {s : String} : cut sep s = none ↔ sep ∉ s.toList := by
  rw [cut, Option.map_eq_none_iff, cutAt_eq_none_iff]

end ShapeGraph.Text
