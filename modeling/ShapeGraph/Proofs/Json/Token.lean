import Mathlib.Data.List.TakeDrop
import ShapeGraph.Proofs.Json.Grammar
import ShapeGraph.Proofs.Reading

namespace ShapeGraph.Json

open Text

variable {opening n : Nat} {c : Char} {cs rest taken : List Char} {us : List Nat}

theorem readUnits_escape (h : escapedUnit? c = some n) (cs : List Char) :
    readUnits opening ('\\' :: c :: cs) = (readUnits opening cs).map (push n) := by
  have hc : c ≠ 'u' := by
    rintro rfl
    cases h
  rw [readUnits]
  · rw [h]
  · exact fun _ _ _ _ _ h _ => hc h
  · exact hc

theorem readUnits_code {a b c d : Char} {left : List Char}
    (h : readHex 4 0 [a, b, c, d] = some (n, left)) (hne : cs ≠ []) :
    readUnits opening ('\\' :: 'u' :: a :: b :: c :: d :: cs)
      = (readUnits opening cs).map (push n) := by
  cases cs with
  | nil => exact absurd rfl hne
  | cons head tail =>
    rw [readUnits.eq_def]
    simp only [h]

theorem readUnits_plain (hquote : c ≠ '"') (hescape : c ≠ '\\') (hc : 0x20 ≤ c.toNat)
    (cs : List Char) : readUnits opening (c :: cs) = (readUnits opening cs).map (push c.toNat) := by
  rw [readUnits, if_neg (Nat.not_lt.2 hc)]
  · exact fun h _ => hescape h
  · exact fun _ _ _ _ _ h _ => hescape h
  · exact fun _ h _ => hescape h
  · exact fun _ _ h _ => hescape h
  · exact hquote

theorem unitsText_of_readUnits (h : readUnits opening cs = .ok (us, rest)) :
    ∃ taken, cs = taken ++ '"' :: rest ∧ UnitsText taken us := by
  fun_induction readUnits opening cs generalizing us with
  | case1 | case2 | case4 | case5 | case7 | case9 => cases h
  | case3 a b c d n _ head tail hcode ih =>
    obtain ⟨⟨us, rest⟩, hus, h⟩ := map_eq_ok_iff.1 h
    cases h
    obtain ⟨taken, htaken, htext⟩ := ih hus
    refine ⟨'\\' :: 'u' :: a :: b :: c :: d :: taken, ?_, .code ?_ htext⟩
    · rw [htaken]
      rfl
    · rw [hcode]
      rfl
  | case6 c _ _ _ n hc ih =>
    obtain ⟨⟨us, rest⟩, hus, h⟩ := map_eq_ok_iff.1 h
    cases h
    obtain ⟨taken, rfl, htext⟩ := ih hus
    exact ⟨'\\' :: c :: taken, rfl, .escape hc htext⟩
  | case8 =>
    cases h
    exact ⟨[], rfl, .nil⟩
  | case10 c cs _ _ _ hescape hquote hc ih =>
    obtain ⟨⟨us, rest⟩, hus, h⟩ := map_eq_ok_iff.1 h
    cases h
    obtain ⟨taken, rfl, htext⟩ := ih hus
    have hne : c ≠ '\\' := by
      intro hc
      cases taken with
      | nil => exact hescape _ _ hc rfl
      | cons => exact hescape _ _ hc rfl
    exact ⟨c :: taken, rfl, .plain hquote hne (Nat.not_lt.1 hc) htext⟩

theorem readUnits_of_unitsText (h : UnitsText taken us) (rest : List Char) :
    readUnits opening (taken ++ '"' :: rest) = .ok (us, rest) := by
  induction h with
  | nil => rfl
  | plain hquote hescape hc _ ih =>
    rw [List.cons_append, readUnits_plain hquote hescape hc, ih]
    rfl
  | escape hc _ ih =>
    rw [List.cons_append, List.cons_append, readUnits_escape hc, ih]
    rfl
  | @code a b c d n cs us hcode _ ih =>
    obtain ⟨⟨n, left⟩, hread, rfl⟩ := Option.map_eq_some_iff.1 hcode
    simp only [List.cons_append]
    rw [readUnits_code hread (by simp), ih]
    rfl

theorem readString_eq_ok_iff {s : String} :
    readString cs = .ok (s, rest) ↔ ∃ taken, '"' :: cs = taken ++ rest ∧ StringText taken s := by
  rw [readString, map_eq_ok_iff]
  constructor
  · intro h
    obtain ⟨⟨us, rest⟩, hus, h⟩ := h
    cases h
    obtain ⟨taken, rfl, htext⟩ := unitsText_of_readUnits hus
    exact ⟨_, by simp, .intro htext⟩
  · intro h
    obtain ⟨taken, hcs, htext⟩ := h
    cases htext with
    | @intro inner us htext =>
      have hcs : cs = inner ++ '"' :: rest := by simpa using hcs
      rw [hcs]
      exact ⟨(us, rest), readUnits_of_unitsText htext rest, rfl⟩

def isNumberPart (c : Char) : Bool := isDigit c || c = '.' || c = 'e' || c = 'E'

def EndsNumber (rest : List Char) : Prop := Stops isNumberPart rest

theorem span_isDigit_eq_iff {digits : List Char} : cs.span isDigit = (digits, rest)
    ↔ cs = digits ++ rest ∧ (∀ d ∈ digits, isDigit d) ∧ Stops isDigit rest := by
  rw [List.span_eq_takeWhile_dropWhile, Prod.mk.injEq, span_eq_iff]

section

variable {α : Type} {read : List Char → Option (α × List Char)} {T : List Char → α → Prop}
  {front mid : List Char} {o : Option α}

def Leaves (read : List Char → Option (α × List Char)) (cs : List Char) (o : Option α)
    (rest : List Char) : Prop :=
  (read cs).map Prod.fst = o ∧ ((read cs).map Prod.snd).getD cs = rest

theorem exists_perhaps_leaves (read : List Char → Option (α × List Char)) (cs : List Char)
    (h : ∀ x rest, read cs = some (x, rest) → ∃ taken, cs = taken ++ rest ∧ T taken x) :
    ∃ front rest o, cs = front ++ rest ∧ Perhaps T front o ∧ Leaves read cs o rest := by
  cases hread : read cs with
  | none => exact ⟨[], cs, none, rfl, .without, by simp [Leaves, hread]⟩
  | some found =>
    obtain ⟨x, rest⟩ := found
    obtain ⟨taken, hcs, htext⟩ := h x rest hread
    exact ⟨taken, rest, some x, hcs, .given htext, by simp [Leaves, hread]⟩

theorem leaves_of_perhaps (h : Perhaps T front o) (hnone : read rest = none)
    (hsome : ∀ x, T front x → read (front ++ rest) = some (x, rest)) :
    Leaves read (front ++ rest) o rest := by
  cases h with
  | without => simp [Leaves, hnone]
  | given h => simp [Leaves, hsome _ h]

end

theorem fractionText_of_readFraction {places : List Char}
    (h : readFraction cs = some (places, rest)) :
    ∃ taken, cs = taken ++ rest ∧ FractionText taken places := by
  unfold readFraction at h
  split at h
  · split at h
    · cases h
    · rename_i hne hspan
      cases h
      obtain ⟨hcs, hdigits, -⟩ := span_isDigit_eq_iff.1 hspan
      exact ⟨'.' :: places, congrArg ('.' :: ·) hcs, .intro hne hdigits⟩
  · cases h

theorem readFraction_of_fractionText {places : List Char} (h : FractionText taken places)
    (hrest : Stops isDigit rest) : readFraction (taken ++ rest) = some (places, rest) := by
  cases h with
  | intro hne hdigits =>
    have hspan : (places ++ rest).span isDigit = (places, rest) :=
      span_isDigit_eq_iff.2 ⟨rfl, hdigits, hrest⟩
    rw [List.cons_append, readFraction, hspan]
    cases places with
    | nil => exact absurd rfl hne
    | cons => rfl

theorem readFraction_eq_none (h : Stops (· = '.') cs) : readFraction cs = none := by
  unfold readFraction
  split
  · cases stops_cons.1 h
  · rfl

theorem signText_readMinus (cs : List Char) :
    ∃ taken, cs = taken ++ (readMinus cs).2 ∧ SignText taken (readMinus cs).1 := by
  unfold readMinus
  split
  · exact ⟨['-'], rfl, .minus⟩
  · exact ⟨[], rfl, .none⟩

theorem readMinus_of_signText {negative : Bool} (h : SignText taken negative)
    (hrest : Stops (· = '-') rest) : readMinus (taken ++ rest) = (negative, rest) := by
  cases h with
  | minus => rfl
  | none =>
    rw [List.nil_append]
    unfold readMinus
    split
    · cases stops_cons.1 hrest
    · rfl

theorem powerSignText_readSign (cs : List Char) :
    ∃ taken, cs = taken ++ (readSign cs).2 ∧ PowerSignText taken (readSign cs).1 := by
  unfold readSign
  split
  · exact ⟨['+'], rfl, .plus⟩
  · obtain ⟨taken, hcs, hsign⟩ := signText_readMinus cs
    exact ⟨taken, hcs, .sign hsign⟩

theorem readSign_of_powerSignText {negative : Bool} (h : PowerSignText taken negative)
    (hminus : Stops (· = '-') rest) (hplus : Stops (· = '+') rest) :
    readSign (taken ++ rest) = (negative, rest) := by
  cases h with
  | plus => rfl
  | sign h =>
    rw [← readMinus_of_signText h hminus]
    unfold readSign
    split
    · rename_i heq
      cases h with
      | minus => cases heq
      | none =>
        rw [List.nil_append] at heq
        rw [heq] at hplus
        cases stops_cons.1 hplus
    · rfl

theorem ne_of_isDigit {d : Char} (hd : isDigit d) (hc : isDigit c = false) : d ≠ c := by
  rintro rfl
  rw [hc] at hd
  cases hd

theorem stops_of_digits {digits : List Char} (hne : digits ≠ []) (hdigits : ∀ d ∈ digits, isDigit d)
    (hc : isDigit c = false) : Stops (· = c) (digits ++ rest) := by
  cases digits with
  | nil => exact absurd rfl hne
  | cons d ds =>
    exact stops_cons.2 (decide_eq_false (ne_of_isDigit (hdigits d List.mem_cons_self) hc))

theorem exponentText_of_readExponent {power : Int} (h : readExponent cs = some (power, rest)) :
    ∃ taken, cs = taken ++ rest ∧ ExponentText taken power := by
  cases cs with
  | nil => cases h
  | cons c cs =>
    rw [readExponent] at h
    split at h
    · rename_i hc
      obtain ⟨sign, hcs, hsign⟩ := powerSignText_readSign cs
      dsimp only at h
      split at h
      · cases h
      · rename_i hne hspan
        cases h
        obtain ⟨hrest, hdigits, -⟩ := span_isDigit_eq_iff.1 hspan
        refine ⟨_, ?_, .intro hc hsign hne hdigits⟩
        rw [List.cons_append, List.append_assoc, ← hrest, ← hcs]
    · cases h

theorem readExponent_of_exponentText {power : Int} (h : ExponentText taken power)
    (hrest : Stops isDigit rest) : readExponent (taken ++ rest) = some (power, rest) := by
  cases h with
  | @intro c sign digits negative hc hsign hne hdigits =>
    have hspan : (digits ++ rest).span isDigit = (digits, rest) :=
      span_isDigit_eq_iff.2 ⟨rfl, hdigits, hrest⟩
    rw [List.cons_append, List.append_assoc, readExponent, if_pos hc,
      readSign_of_powerSignText hsign (stops_of_digits hne hdigits rfl)
        (stops_of_digits hne hdigits rfl)]
    dsimp only
    rw [hspan]
    cases digits with
    | nil => exact absurd rfl hne
    | cons => rfl

theorem readExponent_eq_none (h : Stops (fun c => c = 'e' || c = 'E') cs) :
    readExponent cs = none := by
  cases cs with
  | nil => rfl
  | cons c cs =>
    rw [readExponent, if_neg]
    simpa using stops_cons.1 h

theorem wholeText_of_readWhole {whole : List Char} (h : readWhole cs = some (whole, rest)) :
    cs = whole ++ rest ∧ WholeText whole := by
  cases cs with
  | nil => cases h
  | cons c cs =>
    rw [readWhole] at h
    split at h
    · rename_i hc
      cases h
      exact ⟨congrArg (· :: rest) hc, .zero⟩
    · rename_i hzero
      split at h
      · rename_i hc
        dsimp only at h
        cases h
        obtain ⟨hcs, hdigits, -⟩ := span_isDigit_eq_iff.1 (rfl : cs.span isDigit = _)
        exact ⟨congrArg (c :: ·) hcs, .digits hzero hc hdigits⟩
      · cases h

theorem readWhole_of_wholeText {whole : List Char} (h : WholeText whole)
    (hrest : Stops isDigit rest) : readWhole (whole ++ rest) = some (whole, rest) := by
  cases h with
  | zero => rfl
  | @digits c cs hzero hc hdigits =>
    have hspan : (cs ++ rest).span isDigit = (cs, rest) :=
      span_isDigit_eq_iff.2 ⟨rfl, hdigits, hrest⟩
    rw [List.cons_append, readWhole, if_neg hzero, if_pos hc, hspan]

theorem numberOf_eq {negative : Bool} {whole mid : List Char} {places : Option (List Char)}
    {power : Option Int} (hfraction : Leaves readFraction cs places mid)
    (hexponent : Leaves readExponent mid power rest) :
    numberOf negative whole cs =
      if places.isNone && power.isNone then
        if integerLimit < whole.length then fail (.integerLength whole.length) rest
        else .ok (.int (signed negative (digitsValue whole)), rest)
      else
        .ok (.real (.ofDecimal negative (digitsValue (whole ++ places.getD []))
          (power.getD 0 - (places.getD []).length)), rest) := by
  obtain ⟨rfl, rfl⟩ := hfraction
  obtain ⟨rfl, rfl⟩ := hexponent
  simp only [numberOf, Option.isNone_map]

theorem numberText_of_numberOf {sign whole : List Char} {negative : Bool} {v : Json}
    (h : numberOf negative whole cs = .ok (v, rest)) (hsign : SignText sign negative)
    (hwhole : WholeText whole) :
    ∃ taken, cs = taken ++ rest ∧ NumberText (sign ++ (whole ++ taken)) v := by
  obtain ⟨fraction, mid, places, hcs, hfraction, hleaves⟩ :=
    exists_perhaps_leaves readFraction cs fun _ _ => fractionText_of_readFraction
  obtain ⟨exponent, after, power, hmid, hexponent, hleaves'⟩ :=
    exists_perhaps_leaves readExponent mid fun _ _ => exponentText_of_readExponent
  rw [numberOf_eq hleaves hleaves'] at h
  rw [hcs, hmid]
  split at h
  · rename_i hnone
    split at h
    · cases h
    · rename_i hlength
      cases h
      cases hfraction with
      | given => cases hnone
      | without =>
        cases hexponent with
        | given => cases hnone
        | without =>
          refine ⟨[], rfl, ?_⟩
          rw [List.append_nil]
          exact .int hsign hwhole (Nat.not_lt.1 hlength)
  · rename_i hsome
    cases h
    refine ⟨fraction ++ exponent, (List.append_assoc ..).symm,
      .real hsign hwhole hfraction hexponent ?_⟩
    cases places with
    | some => exact .inl rfl
    | none =>
      cases power with
      | some => exact .inr rfl
      | none => exact absurd rfl hsome

theorem numberText_of_readNumber {v : Json} (h : readNumber cs = .ok (v, rest)) :
    ∃ taken, cs = taken ++ rest ∧ NumberText taken v := by
  obtain ⟨sign, hcs, hsign⟩ := signText_readMinus cs
  unfold readNumber at h
  dsimp only at h
  split at h
  · rename_i whole after hread
    obtain ⟨hbody, hwhole⟩ := wholeText_of_readWhole hread
    obtain ⟨taken, hafter, htext⟩ := numberText_of_numberOf h hsign hwhole
    refine ⟨_, ?_, htext⟩
    rw [hcs, hbody, hafter]
    simp
  · cases h

theorem EndsNumber.stops_isDigit (h : EndsNumber rest) : Stops isDigit rest := by
  apply Stops.imp h
  intro c hc
  simp [isNumberPart, hc]

theorem EndsNumber.stops_exponent (h : EndsNumber rest) :
    Stops (fun c => c = 'e' || c = 'E') rest := by
  apply Stops.imp h
  intro c hc
  simp only [Bool.or_eq_true, decide_eq_true_eq] at hc
  simp only [isNumberPart, Bool.or_eq_true, decide_eq_true_eq]
  exact hc.elim (fun h => .inl (.inr h)) .inr

theorem EndsNumber.stops_point (h : EndsNumber rest) : Stops (· = '.') rest := by
  apply Stops.imp h
  intro c hc
  simp only [decide_eq_true_eq] at hc
  simp [isNumberPart, hc]

theorem stops_exponent_append {p : Char → Bool} {exponent : List Char} {power : Option Int}
    (h : Perhaps ExponentText exponent power) (hrest : Stops p rest) (hsmall : p 'e' = false)
    (hcapital : p 'E' = false) : Stops p (exponent ++ rest) := by
  cases h with
  | without => exact hrest
  | given h =>
    cases h with
    | intro hc =>
      rw [List.cons_append, stops_cons]
      exact hc.elim (fun h => h ▸ hsmall) (fun h => h ▸ hcapital)

theorem stops_fraction_append {p : Char → Bool} {fraction : List Char}
    {places : Option (List Char)} (h : Perhaps FractionText fraction places) (hrest : Stops p rest)
    (hpoint : p '.' = false) : Stops p (fraction ++ rest) := by
  cases h with
  | without => exact hrest
  | given h =>
    cases h with
    | intro => exact stops_cons.2 hpoint

theorem WholeText.exists_digit {whole : List Char} (h : WholeText whole) :
    ∃ d ds, whole = d :: ds ∧ isDigit d := by
  cases h with
  | zero => exact ⟨_, _, rfl, rfl⟩
  | digits _ hc => exact ⟨_, _, rfl, hc⟩

theorem readNumber_append {sign whole : List Char} {negative : Bool}
    (hsign : SignText sign negative) (hwhole : WholeText whole) (hrest : Stops isDigit rest) :
    readNumber (sign ++ (whole ++ rest)) = numberOf negative whole rest := by
  obtain ⟨d, ds, hd, hdigit⟩ := hwhole.exists_digit
  have hminus : Stops (· = '-') (whole ++ rest) := by
    rw [hd]
    exact stops_cons.2 (decide_eq_false (ne_of_isDigit hdigit rfl))
  rw [readNumber, readMinus_of_signText hsign hminus]
  simp only [readWhole_of_wholeText hwhole hrest]

theorem readNumber_of_numberText {v : Json} (h : NumberText taken v) (hrest : EndsNumber rest) :
    readNumber (taken ++ rest) = .ok (v, rest) := by
  have hleaves {front : List Char} {power : Option Int} (h : Perhaps ExponentText front power) :
      Leaves readExponent (front ++ rest) power rest :=
    leaves_of_perhaps h (readExponent_eq_none hrest.stops_exponent)
      fun _ h => readExponent_of_exponentText h hrest.stops_isDigit
  have hleaves' {front mid : List Char} {places : Option (List Char)}
      (h : Perhaps FractionText front places) (hdigit : Stops isDigit mid)
      (hpoint : Stops (· = '.') mid) : Leaves readFraction (front ++ mid) places mid :=
    leaves_of_perhaps h (readFraction_eq_none hpoint) fun _ h =>
      readFraction_of_fractionText h hdigit
  cases h with
  | int hsign hwhole hlength =>
    have hnone : Leaves readFraction rest none rest :=
      hleaves' .without hrest.stops_isDigit hrest.stops_point
    have hnone' : Leaves readExponent rest none rest := hleaves .without
    rw [List.append_assoc, readNumber_append hsign hwhole hrest.stops_isDigit,
      numberOf_eq hnone hnone']
    exact if_neg (Nat.not_lt.2 hlength)
  | real hsign hwhole hfraction hexponent hsome =>
    have hdigit := stops_exponent_append hexponent hrest.stops_isDigit rfl rfl
    have hpoint := stops_exponent_append hexponent hrest.stops_point rfl rfl
    simp only [List.append_assoc]
    rw [readNumber_append hsign hwhole (stops_fraction_append hfraction hdigit rfl),
      numberOf_eq (hleaves' hfraction hdigit hpoint) (hleaves hexponent), if_neg]
    intro hnone
    rw [Bool.and_eq_true, Option.isNone_iff_eq_none, Option.isNone_iff_eq_none] at hnone
    rw [hnone.1, hnone.2] at hsome
    exact hsome.elim nofun nofun

theorem literal?_eq_some_iff {v : Json} :
    literal? cs = some (v, rest) ↔ ∃ word, (word, v) ∈ literals ∧ cs = word ++ rest := by
  constructor
  · intro h
    obtain ⟨⟨word, w⟩, hmem, h⟩ := List.exists_of_findSome?_eq_some h
    obtain ⟨after, hafter, h⟩ := Option.map_eq_some_iff.1 h
    cases h
    exact ⟨word, hmem, after?_eq_some_iff.1 hafter⟩
  · intro h
    obtain ⟨word, hmem, rfl⟩ := h
    simp only [literals, List.mem_cons, Prod.mk.injEq, List.not_mem_nil, or_false] at hmem
    obtain ⟨rfl, rfl⟩ | ⟨rfl, rfl⟩ | ⟨rfl, rfl⟩ := hmem <;> rfl

inductive BeginsNumber : List Char → Prop
  | digit {d : Char} {cs : List Char} : isDigit d → BeginsNumber (d :: cs)
  | minus {d : Char} {cs : List Char} : isDigit d → BeginsNumber ('-' :: d :: cs)

theorem NumberText.begins {v : Json} (h : NumberText taken v) (rest : List Char) :
    BeginsNumber (taken ++ rest) := by
  have hbegins {sign whole tail : List Char} {negative : Bool} (hsign : SignText sign negative)
      (hwhole : WholeText whole) : BeginsNumber (sign ++ (whole ++ tail)) := by
    obtain ⟨d, ds, rfl, hd⟩ := hwhole.exists_digit
    cases hsign with
    | none => exact .digit hd
    | minus => exact .minus hd
  cases h with
  | int hsign hwhole =>
    rw [List.append_assoc]
    exact hbegins hsign hwhole
  | real hsign hwhole =>
    rw [List.append_assoc, List.append_assoc]
    exact hbegins hsign hwhole

theorem BeginsNumber.ne_cons (h : BeginsNumber cs) (hdigit : isDigit c = false) (hminus : c ≠ '-')
    (tail : List Char) : cs ≠ c :: tail := by
  rintro rfl
  cases h with
  | digit hd => exact ne_of_isDigit hd hdigit rfl
  | minus => exact hminus rfl

theorem BeginsNumber.ne_minus (h : BeginsNumber cs) (hdigit : isDigit c = false)
    (tail : List Char) : cs ≠ '-' :: c :: tail := by
  rintro rfl
  cases h with
  | digit hd => exact ne_of_isDigit hd (rfl : isDigit '-' = false) rfl
  | minus hd => exact ne_of_isDigit hd hdigit rfl

theorem BeginsNumber.literal?_eq_none (h : BeginsNumber cs) : literal? cs = none := by
  refine Option.eq_none_iff_forall_ne_some.2 ?_
  rintro ⟨v, rest⟩ hsome
  obtain ⟨word, hmem, hcs⟩ := literal?_eq_some_iff.1 hsome
  simp only [literals, List.mem_cons, Prod.mk.injEq, List.not_mem_nil, or_false] at hmem
  obtain ⟨rfl, -⟩ | ⟨rfl, -⟩ | ⟨rfl, -⟩ := hmem <;> exact h.ne_cons rfl (by decide) _ hcs

theorem BeginsNumber.constant?_eq_none (h : BeginsNumber cs) : constant? cs = none := by
  refine List.find?_eq_none.2 fun word hmem hword => ?_
  obtain ⟨rest, hrest⟩ := Option.isSome_iff_exists.1 hword
  have hcs := after?_eq_some_iff.1 hrest
  simp only [constants, List.mem_cons, List.not_mem_nil, or_false] at hmem
  obtain rfl | rfl | rfl := hmem
  · exact h.ne_cons rfl (by decide) _ hcs
  · exact h.ne_cons rfl (by decide) _ hcs
  · exact h.ne_minus rfl _ hcs

theorem takes_readScalar : Takes readScalar ScalarText EndsNumber where
  sound {cs rest v} h := by
    unfold readScalar at h
    split at h
    · rename_i hliteral
      cases h
      obtain ⟨word, hmem, hcs⟩ := literal?_eq_some_iff.1 hliteral
      exact ⟨word, hcs, .literal hmem⟩
    · split at h
      · cases h
      · obtain ⟨taken, hcs, htext⟩ := numberText_of_readNumber h
        exact ⟨taken, hcs, .number htext⟩
  complete {taken rest v} h hrest := by
    cases h with
    | literal hmem =>
      rw [readScalar, literal?_eq_some_iff.2 ⟨taken, hmem, rfl⟩]
    | number h =>
      have hbegins := h.begins rest
      rw [readScalar, hbegins.literal?_eq_none, hbegins.constant?_eq_none]
      exact readNumber_of_numberText h hrest

end ShapeGraph.Json
