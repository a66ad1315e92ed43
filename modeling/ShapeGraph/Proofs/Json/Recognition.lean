import ShapeGraph.Proofs.Json.Token

namespace ShapeGraph.Json

open Text

variable {c : Char} {cs left right rest taken : List Char}

theorem exists_spaces (cs : List Char) :
    ∃ left, cs = left ++ skipSpace cs ∧ IsSpaces left := by
  obtain ⟨left, hcs, hleft, -⟩ := dropWhile_eq_iff.1 (rfl : cs.dropWhile isSpace = _)
  exact ⟨left, hcs, hleft⟩

theorem skipSpace_append (h : IsSpaces left) (hrest : Stops isSpace rest) :
    skipSpace (left ++ rest) = rest :=
  dropWhile_eq_iff.2 ⟨left, rfl, h, hrest⟩

theorem isSpaces_nil : IsSpaces [] := List.forall_mem_nil _

theorem isSpaces_blank : IsSpaces [' '] := List.forall_mem_singleton.2 rfl

theorem IsSpaces.append (hleft : IsSpaces left) (hright : IsSpaces right) :
    IsSpaces (left ++ right) := by
  intro c hc
  exact (List.mem_append.1 hc).elim (hleft c) (hright c)

theorem isNumberPart_of_isSpace (h : isSpace c) : isNumberPart c = false := by
  simp only [isSpace, Bool.or_eq_true, decide_eq_true_eq] at h
  obtain ((rfl | rfl) | rfl) | rfl := h <;> rfl

theorem IsSpaces.endsNumber (h : IsSpaces left) (hrest : EndsNumber rest) :
    EndsNumber (left ++ rest) := by
  cases left with
  | nil => exact hrest
  | cons c left => exact stops_cons.2 (isNumberPart_of_isSpace (h c List.mem_cons_self))

section

variable {α : Type} {close : Char} {item : List Char → Reading α} {T : List Char → α → Prop}
  {x : α} {xs : List α}

theorem SeriesText.prepend (hleft : IsSpaces left) (h : SeriesText close T cs xs) :
    SeriesText close T (left ++ cs) xs := by
  cases h with
  | last hinner hx hright =>
    rw [← List.append_assoc]
    exact .last (hleft.append hinner) hx hright
  | more hinner hx hright h =>
    rw [← List.append_assoc]
    exact .more (hleft.append hinner) hx hright h

theorem seriesText_of_readSeries (hitem : Takes item T EndsNumber) {fuel : Nat}
    (h : readSeries close item fuel cs = .ok (xs, rest)) :
    ∃ taken, cs = taken ++ rest ∧ SeriesText close T taken xs := by
  induction fuel generalizing cs xs with
  | zero => cases h
  | succ fuel ih =>
    rw [readSeries, bind_eq_ok_iff] at h
    obtain ⟨⟨x, mid⟩, hx, h⟩ := h
    obtain ⟨first, rfl, hfirst⟩ := hitem.sound hx
    obtain ⟨right, hmid, hright⟩ := exists_spaces mid
    dsimp only at h
    split at h
    · cases h
    · rename_i c after hafter
      rw [hafter] at hmid
      split at h
      · rename_i hc
        cases h
        refine ⟨[] ++ (first ++ (right ++ [close])), ?_, .last nofun hfirst hright⟩
        simp [hmid, hc]
      · split at h
        · rename_i hc
          obtain ⟨⟨xs, rest⟩, hxs, h⟩ := map_eq_ok_iff.1 h
          cases h
          obtain ⟨left, hleft, hspaces⟩ := exists_spaces after
          obtain ⟨others, hothers, htext⟩ := ih hxs
          refine ⟨[] ++ (first ++ (right ++ ',' :: (left ++ others))), ?_,
            .more nofun hfirst hright (htext.prepend hspaces)⟩
          simp [hmid, hc, ← hothers, ← hleft]
        · cases h

def Opens {α : Type} (T : List Char → α → Prop) (close : Char) : Prop :=
  ∀ cs x, T cs x → ∃ c tail, cs = c :: tail ∧ isSpace c = false ∧ c ≠ close

theorem Opens.stops (h : Opens T close) (hx : T cs x) (rest : List Char) :
    Stops isSpace (cs ++ rest) := by
  obtain ⟨c, tail, rfl, hc, -⟩ := h cs x hx
  exact stops_cons.2 hc

theorem readSeries_step (hitem : Takes item T EndsNumber) (hopens : Opens T close)
    (hleft : IsSpaces left) (hx : T cs x) (hright : IsSpaces right) (hspace : isSpace c = false)
    (hnumber : isNumberPart c = false) (fuel : Nat) :
    readSeries close item (fuel + 1) (skipSpace (left ++ (cs ++ (right ++ c :: rest)))) =
      if c = close then .ok ([x], rest)
      else if c = ',' then
        (readSeries close item fuel (skipSpace rest)).map fun (xs, rest) => (x :: xs, rest)
      else fail .comma (c :: rest) := by
  have hends : EndsNumber (right ++ c :: rest) := hright.endsNumber (stops_cons.2 hnumber)
  rw [skipSpace_append hleft (hopens.stops hx _), readSeries, hitem.complete hx hends]
  simp only [Except.bind, skipSpace_append hright (stops_cons.2 hspace)]

theorem readSeries_of_seriesText (hitem : Takes item T EndsNumber) (hopens : Opens T close)
    (hspace : isSpace close = false) (hnumber : isNumberPart close = false) (hcomma : close ≠ ',')
    {fuel : Nat} (h : SeriesText close T taken xs)
    (hfuel : (skipSpace (taken ++ rest)).length < fuel) :
    readSeries close item fuel (skipSpace (taken ++ rest)) = .ok (xs, rest) := by
  induction h generalizing fuel with
  | last hleft hx hright =>
    cases fuel with
    | zero => cases hfuel
    | succ fuel =>
      simp only [List.append_assoc, List.singleton_append]
      rw [readSeries_step hitem hopens hleft hx hright hspace hnumber, if_pos rfl]
  | @more left cs right others x xs hleft hx hright _ ih =>
    cases fuel with
    | zero => cases hfuel
    | succ fuel =>
      simp only [List.append_assoc, List.cons_append] at hfuel ⊢
      have hshort : (skipSpace (others ++ rest)).length < fuel := by
        have hdrop : (skipSpace (others ++ rest)).length ≤ (others ++ rest).length :=
          List.length_dropWhile_le ..
        rw [skipSpace_append hleft (hopens.stops hx _)] at hfuel
        simp only [List.length_append, List.length_cons] at hfuel hdrop
        omega
      rw [readSeries_step hitem hopens hleft hx hright rfl rfl, if_neg hcomma.symm, if_pos rfl,
        ih hshort]
      rfl

theorem SeriesText.head?_ne (hopens : Opens T close) (h : SeriesText close T taken xs)
    (rest : List Char) : (skipSpace (taken ++ rest)).head? ≠ some close := by
  obtain ⟨left, cs, after, x, rfl, hleft, hx⟩ : ∃ left cs after x, taken = left ++ (cs ++ after)
      ∧ IsSpaces left ∧ T cs x := by
    cases h with
    | last hleft hx => exact ⟨_, _, _, _, rfl, hleft, hx⟩
    | more hleft hx => exact ⟨_, _, _, _, rfl, hleft, hx⟩
  obtain ⟨c, tail, rfl, hspace, hclose⟩ := hopens cs x hx
  simp only [List.append_assoc, List.cons_append]
  rw [skipSpace_append hleft (stops_cons.2 hspace)]
  exact fun h => hclose (Option.some.inj h)

theorem takes_readEnclosed (hitem : Takes item T EndsNumber) (hopens : Opens T close)
    (hspace : isSpace close = false) (hnumber : isNumberPart close = false) (hcomma : close ≠ ',') :
    Takes (readEnclosed close item) (EnclosedText close T) EndsNumber where
  sound {cs rest xs} h := by
    obtain ⟨left, hcs, hleft⟩ := exists_spaces cs
    rw [readEnclosed] at h
    split at h
    · rename_i hhead
      cases h
      obtain ⟨after, hafter⟩ := List.head?_eq_some_iff.1 hhead
      refine ⟨left ++ [close], ?_, .empty hleft⟩
      rw [hafter] at hcs ⊢
      simp [hcs]
    · obtain ⟨taken, htaken, htext⟩ := seriesText_of_readSeries hitem h
      refine ⟨left ++ taken, ?_, .series (htext.prepend hleft)⟩
      rw [hcs, htaken, List.append_assoc]
  complete {taken rest xs} h _ := by
    rw [readEnclosed]
    cases h with
    | @empty cs hspaces =>
      have hclose : skipSpace (cs ++ [close] ++ rest) = close :: rest := by
        rw [List.append_assoc, List.singleton_append,
          skipSpace_append hspaces (stops_cons.2 hspace)]
      rw [hclose]
      exact if_pos rfl
    | series htext =>
      rw [if_neg (htext.head?_ne hopens rest)]
      exact readSeries_of_seriesText hitem hopens hspace hnumber hcomma htext (Nat.lt_succ_self _)

end

section

variable {value : List Char → Reading Json} {T : List Char → Json → Prop}

theorem takes_readArray (hvalue : Takes value T EndsNumber) (hopens : Opens T ']') :
    Takes (readArray value) (ArrayText T) EndsNumber where
  sound h := by
    obtain ⟨⟨xs, rest⟩, hxs, h⟩ := map_eq_ok_iff.1 h
    cases h
    obtain ⟨taken, hcs, htext⟩ := (takes_readEnclosed hvalue hopens rfl rfl (by decide)).sound hxs
    exact ⟨taken, hcs, .intro htext⟩
  complete h hrest := by
    cases h with
    | intro htext =>
      rw [readArray, (takes_readEnclosed hvalue hopens rfl rfl (by decide)).complete htext hrest]
      rfl

theorem takes_readKey : Takes readKey StringText EndsNumber where
  sound h := by
    unfold readKey at h
    split at h
    · exact readString_eq_ok_iff.1 h
    · cases h
  complete h _ := by
    have htext := h
    cases h with
    | intro => exact readString_eq_ok_iff.2 ⟨_, rfl, htext⟩

theorem takes_readEntry (hvalue : Takes value T EndsNumber) (hopens : Opens T ']') :
    Takes (readEntry value) (EntryText T) EndsNumber where
  sound {cs rest entry} h := by
    rw [readEntry, bind_eq_ok_iff] at h
    obtain ⟨⟨k, mid⟩, hk, h⟩ := h
    obtain ⟨name, rfl, hname⟩ := takes_readKey.sound hk
    obtain ⟨left, hmid, hleft⟩ := exists_spaces mid
    dsimp only at h
    split at h
    · rename_i after hafter
      obtain ⟨⟨v, rest⟩, hv, h⟩ := map_eq_ok_iff.1 h
      cases h
      obtain ⟨right, hright, hspaces⟩ := exists_spaces after
      obtain ⟨taken, htaken, htext⟩ := hvalue.sound hv
      refine ⟨_, ?_, .intro hname hleft hspaces htext⟩
      rw [hmid, hafter, hright, htaken]
      simp
    · cases h
  complete {taken rest entry} h hrest := by
    cases h with
    | @intro name left right cs k v hname hleft hright hv =>
      have hcolon : Stops isSpace (':' :: (right ++ (cs ++ rest))) := stops_cons.2 rfl
      have hends : EndsNumber (left ++ ':' :: (right ++ (cs ++ rest))) :=
        hleft.endsNumber (stops_cons.2 rfl)
      simp only [List.append_assoc, List.cons_append]
      rw [readEntry, takes_readKey.complete hname hends]
      simp only [Except.bind, skipSpace_append hleft hcolon,
        skipSpace_append hright (hopens.stops hv rest), hvalue.complete hv hrest]
      rfl

theorem opens_entryText : Opens (EntryText T) '\x7d' := by
  intro cs x h
  cases h with
  | intro hname =>
    cases hname with
    | intro => exact ⟨'"', _, rfl, rfl, by decide⟩

theorem takes_readObject (hvalue : Takes value T EndsNumber) (hopens : Opens T ']') :
    Takes (readObject value) (ObjectText T) EndsNumber where
  sound h := by
    obtain ⟨⟨fs, rest⟩, hfs, h⟩ := map_eq_ok_iff.1 h
    cases h
    obtain ⟨taken, hcs, htext⟩ := (takes_readEnclosed (takes_readEntry hvalue hopens)
      opens_entryText rfl rfl (by decide)).sound hfs
    exact ⟨taken, hcs, .intro htext⟩
  complete h hrest := by
    cases h with
    | intro htext =>
      rw [readObject, (takes_readEnclosed (takes_readEntry hvalue hopens) opens_entryText rfl rfl
        (by decide)).complete htext hrest]
      rfl

end

section

variable {array object : List Char → Reading Json} {A O : List Char → Json → Prop} {v : Json}

theorem not_mem_of_isDigit {d : Char} (hd : isDigit d) (h : ∀ c ∈ cs, isDigit c = false) :
    d ∉ cs := by
  intro hmem
  rw [h d hmem] at hd
  cases hd

theorem BeginsNumber.exists_cons (h : BeginsNumber cs) :
    ∃ c tail, cs = c :: tail ∧ (isDigit c ∨ c = '-') := by
  cases h with
  | digit hd => exact ⟨_, _, rfl, .inl hd⟩
  | minus => exact ⟨_, _, rfl, .inr rfl⟩

def brackets : List Char := ['"', '[', '\x7b', ']', ' ', '\t', '\n', '\r', '\ufeff']

theorem ScalarText.exists_cons (h : ScalarText taken v) :
    ∃ c tail, taken = c :: tail ∧ c ∉ brackets := by
  cases h with
  | literal hmem =>
    simp only [literals, List.mem_cons, Prod.mk.injEq, List.not_mem_nil, or_false] at hmem
    obtain ⟨rfl, -⟩ | ⟨rfl, -⟩ | ⟨rfl, -⟩ := hmem <;> exact ⟨_, _, rfl, by decide⟩
  | number h =>
    have hbegins := h.begins []
    rw [List.append_nil] at hbegins
    obtain ⟨c, tail, hcs, hc⟩ := hbegins.exists_cons
    refine ⟨c, tail, hcs, ?_⟩
    cases hc with
    | inl hd =>
      apply not_mem_of_isDigit hd
      simp only [brackets, List.forall_mem_cons]
      exact ⟨rfl, rfl, rfl, rfl, rfl, rfl, rfl, rfl, rfl, List.forall_mem_nil _⟩
    | inr hminus =>
      rw [hminus]
      decide

theorem takes_readWith (harray : Takes array A EndsNumber) (hobject : Takes object O EndsNumber) :
    Takes (readWith array object) (TextWith A O) EndsNumber where
  sound {cs rest v} h := by
    unfold readWith at h
    split at h
    · obtain ⟨⟨s, rest⟩, hs, h⟩ := map_eq_ok_iff.1 h
      cases h
      obtain ⟨taken, hcs, htext⟩ := readString_eq_ok_iff.1 hs
      exact ⟨taken, hcs, .string htext⟩
    · obtain ⟨taken, rfl, htext⟩ := harray.sound h
      exact ⟨'[' :: taken, rfl, .array htext⟩
    · obtain ⟨taken, rfl, htext⟩ := hobject.sound h
      exact ⟨'\x7b' :: taken, rfl, .object htext⟩
    · obtain ⟨taken, hcs, htext⟩ := takes_readScalar.sound h
      exact ⟨taken, hcs, .scalar htext⟩
  complete {taken rest v} h hrest := by
    cases h with
    | scalar htext =>
      rw [← takes_readScalar.complete htext hrest]
      obtain ⟨c, tail, rfl, hc⟩ := htext.exists_cons
      simp only [brackets, List.mem_cons, not_or] at hc
      unfold readWith
      split
      · rename_i heq
        exact absurd (List.cons.inj heq).1 hc.1
      · rename_i heq
        exact absurd (List.cons.inj heq).1 hc.2.1
      · rename_i heq
        exact absurd (List.cons.inj heq).1 hc.2.2.1
      · rfl
    | string htext =>
      have htext' := htext
      cases htext with
      | @intro cs us _ =>
        have hread : readString (cs ++ ['"'] ++ rest) = .ok (_, rest) :=
          readString_eq_ok_iff.2 ⟨_, rfl, htext'⟩
        rw [List.cons_append, readWith, hread]
        rfl
    | array htext => exact harray.complete htext hrest
    | object htext => exact hobject.complete htext hrest

theorem TextWith.exists_cons (h : TextWith A O cs v) :
    ∃ c tail, cs = c :: tail ∧ isSpace c = false ∧ c ≠ ']' ∧ c ≠ '\ufeff' := by
  cases h with
  | scalar h =>
    obtain ⟨c, tail, hcs, hc⟩ := h.exists_cons
    simp only [brackets, List.mem_cons, not_or] at hc
    refine ⟨c, tail, hcs, ?_, by tauto, by tauto⟩
    simp only [isSpace, Bool.or_eq_false_iff, decide_eq_false_iff_not]
    tauto
  | string h =>
    cases h with
    | intro => exact ⟨_, _, rfl, rfl, by decide, by decide⟩
  | array => exact ⟨_, _, rfl, rfl, by decide, by decide⟩
  | object => exact ⟨_, _, rfl, rfl, by decide, by decide⟩

end

theorem ValueText.exists_cons {depth : Nat} {v : Json} (h : ValueText depth cs v) :
    ∃ c tail, cs = c :: tail ∧ isSpace c = false ∧ c ≠ ']' ∧ c ≠ '\ufeff' := by
  cases depth with
  | zero => exact TextWith.exists_cons h
  | succ depth => exact TextWith.exists_cons h

theorem opens_valueText (depth : Nat) : Opens (ValueText depth) ']' := by
  intro cs v h
  obtain ⟨c, tail, hcs, hspace, hclose, -⟩ := ValueText.exists_cons h
  exact ⟨c, tail, hcs, hspace, hclose⟩

theorem takes_fail (flaw : Flaw) :
    Takes (fail flaw : List Char → Reading Json) (fun _ _ => False) EndsNumber where
  sound h := nomatch h
  complete h := h.elim

theorem takes_readValue (depth : Nat) : Takes (readValue depth) (ValueText depth) EndsNumber := by
  induction depth with
  | zero => exact takes_readWith (takes_fail _) (takes_fail _)
  | succ depth ih =>
    exact takes_readWith (takes_readArray ih (opens_valueText depth))
      (takes_readObject ih (opens_valueText depth))

theorem readChars_eq (h : ∀ tail, cs ≠ '\ufeff' :: tail) :
    readChars cs = (readValue nestingLimit (skipSpace cs)).bind fun (v, rest) =>
      match skipSpace rest with
      | [] => .ok v
      | rest => fail .extraData rest := by
  unfold readChars
  split
  · exact absurd rfl (h _)
  · rfl

/-- A text is read exactly if the grammar has it, and as the value that the grammar says. -/
theorem ofText_eq_ok_iff {text : String} {v : Json} :
    ofText text = .ok v ↔ DocumentText text.toList v := by
  rw [ofText]
  constructor
  · intro h
    rw [readChars_eq] at h
    · obtain ⟨⟨w, mid⟩, hw, h⟩ := bind_eq_ok_iff.1 h
      obtain ⟨left, hcs, hleft⟩ := exists_spaces text.toList
      obtain ⟨right, hmid, hright⟩ := exists_spaces mid
      obtain ⟨taken, htaken, htext⟩ := (takes_readValue nestingLimit).sound hw
      dsimp only at h
      split at h
      · rename_i hnil
        cases h
        rw [hcs, htaken, hmid, hnil, List.append_nil]
        exact .intro hleft htext hright
      · cases h
    · intro tail hcs
      rw [hcs] at h
      cases h
  · intro h
    generalize text.toList = cs at h
    cases h with
    | @intro left cs right v hleft htext hright =>
      have hends : EndsNumber right := by
        rw [← List.append_nil right]
        exact hright.endsNumber (stops_nil _)
      have hnil : skipSpace right = [] := List.dropWhile_eq_nil_iff.2 hright
      rw [readChars_eq, skipSpace_append hleft ((opens_valueText _).stops htext right),
        (takes_readValue nestingLimit).complete htext hends]
      · simp only [Except.bind, hnil]
      · intro tail
        obtain ⟨c, cs, rfl, -, -, hmark⟩ := htext.exists_cons
        cases left with
        | nil =>
          intro h
          exact hmark (List.cons.inj h).1
        | cons d left =>
          intro h
          have hd := hleft d List.mem_cons_self
          rw [(List.cons.inj h).1] at hd
          cases hd

end ShapeGraph.Json
