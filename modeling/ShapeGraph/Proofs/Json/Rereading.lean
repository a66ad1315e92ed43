import ShapeGraph.Proofs.Json.Distinct
import ShapeGraph.Proofs.Json.RoundTrip

namespace ShapeGraph.Json

variable {cs : List Char} {v : Json} {depth : Nat}

theorem digitsValue_lt (h : ∀ c ∈ cs, isDigit c) : digitsValue cs < 10 ^ cs.length := by
  induction cs with
  | nil => decide
  | cons c cs ih =>
    obtain ⟨hc, hcs⟩ := List.forall_mem_cons.1 h
    have hle : c ≤ '9' := by
      rw [isDigit, Bool.and_eq_true, decide_eq_true_iff, decide_eq_true_iff] at hc
      exact hc.2
    have hvalue : digitsValue (c :: cs)
        = 10 ^ cs.length * (c.toNat - '0'.toNat) + digitsValue cs := by
      rw [digitsValue, Nat.ofDigitChars_cons, Nat.ofDigitChars_eq_ofDigitChars_zero, Nat.mul_zero,
        Nat.zero_add]
      rfl
    have hdigit : c.toNat - '0'.toNat ≤ 9 := by
      have : c.toNat ≤ 57 := hle
      have : '0'.toNat = 48 := rfl
      omega
    have hrest := ih hcs
    rw [hvalue, List.length_cons, pow_succ]
    calc
      10 ^ cs.length * (c.toNat - '0'.toNat) + digitsValue cs
          ≤ 10 ^ cs.length * 9 + digitsValue cs :=
        Nat.add_le_add_right (Nat.mul_le_mul_left _ hdigit) _
      _ < 10 ^ cs.length * 10 := by omega

theorem WholeText.isDigit (h : WholeText cs) : ∀ c ∈ cs, isDigit c := by
  cases h with
  | zero => exact List.forall_mem_singleton.2 rfl
  | digits _ hc hcs => exact List.forall_mem_cons.2 ⟨hc, hcs⟩

theorem admitted_of_numberText (h : NumberText cs v) : Admitted depth v := by
  cases h with
  | @int sign whole negative hsign hwhole hlength =>
    refine .int ?_
    have habs : (signed negative (digitsValue whole)).natAbs = digitsValue whole := by
      cases negative <;> simp [signed]
    rw [habs]
    exact (digitsValue_lt hwhole.isDigit).trans_le (Nat.pow_le_pow_right (by decide) hlength)
  | real => exact .real _

theorem admitted_of_scalarText (h : ScalarText cs v) : Admitted depth v := by
  cases h with
  | literal hmem =>
    simp only [literals, List.mem_cons, Prod.mk.injEq, List.not_mem_nil, or_false] at hmem
    obtain ⟨-, rfl⟩ | ⟨-, rfl⟩ | ⟨-, rfl⟩ := hmem
    · exact .null
    · exact .bool true
    · exact .bool false
  | number h => exact admitted_of_numberText h

theorem admitted_of_valueText (h : ValueText depth cs v) : Admitted depth v := by
  induction depth generalizing cs v with
  | zero =>
    cases h with
    | scalar h => exact admitted_of_scalarText h
    | string => exact .str _
    | array h => cases h
    | object h => cases h
  | succ depth ih =>
    cases h with
    | scalar h => exact admitted_of_scalarText h
    | string => exact .str _
    | array h =>
      cases h with
      | intro h => exact .arr (h.forall_mem fun _ _ => ih)
    | object h =>
      cases h with
      | @intro fs h =>
        have hentry : ∀ cs f, EntryText (ValueText depth) cs f → Admitted depth f.2 := by
          rintro _ _ ⟨_, _, _, hv⟩
          exact ih hv
        exact .obj (Fields.distinct_ofList fs) fun f hf =>
          h.forall_mem hentry f (Fields.mem_of_mem_ofList hf)

theorem DocumentText.admitted (h : DocumentText cs v) : Admitted nestingLimit v := by
  cases h with
  | intro _ h => exact admitted_of_valueText h

def Refuses {α : Type} (read : List Char → Reading α) (cs : List Char) : Prop :=
  ∀ rest, ∃ failure, read (cs ++ rest) = .error failure

def Starts (close : Char) (cs : List Char) : Prop :=
  ∃ c tail, cs = c :: tail ∧ isSpace c = false ∧ c ≠ close

section

variable {α : Type} {close : Char} {item : List Char → Reading α} {T : List Char → α → Prop}
  {p : α → List Char} {good : α → Bool} {m : Margin} {left rest tail : List Char} {x : α}
  {xs : List α}

theorem Refuses.map {β : Type} {read : List Char → Reading α} (h : Refuses read cs)
    (f : α × List Char → β × List Char) : Refuses (fun cs => (read cs).map f) cs := by
  intro rest
  obtain ⟨failure, hfailure⟩ := h rest
  exact ⟨failure, map_eq_error_iff.2 hfailure⟩

theorem Starts.stops (h : Starts close cs) (rest : List Char) :
    Text.Stops isSpace (cs ++ rest) := by
  obtain ⟨c, tail, rfl, hc, -⟩ := h
  exact Text.stops_cons.2 hc

theorem Starts.head?_ne (h : Starts close cs) (rest : List Char) :
    (cs ++ rest).head? ≠ some close := by
  obtain ⟨c, tail, rfl, -, hc⟩ := h
  exact fun h => hc (Option.some.inj h)

/-- The text of a good item is read, and that of another refused. -/
structure Decides (item : List Char → Reading α) (T : List Char → α → Prop) (close : Char)
    (p : α → List Char) (good : α → Bool) (y : α) : Prop where
  starts : Starts close (p y)
  text : good y → T (p y) y
  refuses : good y = false → Refuses item (p y)

theorem readSeries_eq_error (hitem : Takes item T EndsNumber) (hopens : Opens T close)
    (hcomma : close ≠ ',') (h : ∀ y ∈ x :: xs, Decides item T close p good y)
    (hall : (x :: xs).all good = false) (hleft : IsSpaces left) (fuel : Nat) :
    ∃ failure, readSeries close item fuel (skipSpace (left ++ (p x
      ++ xs.foldr (fun y rest => m.separator ++ (p y ++ rest)) tail))) = .error failure := by
  obtain ⟨space, hseparator, hspace⟩ := exists_separator m
  rw [hseparator]
  induction fuel generalizing x xs left with
  | zero => exact ⟨_, rfl⟩
  | succ fuel ih =>
    have hfirst := h x List.mem_cons_self
    cases hx : good x with
    | false =>
      rw [skipSpace_append hleft (hfirst.starts.stops _), readSeries]
      obtain ⟨failure, hfailure⟩ := hfirst.refuses hx _
      exact ⟨failure, bind_eq_error_iff.2 (.inl hfailure)⟩
    | true =>
      rw [List.all_cons, hx, Bool.true_and] at hall
      cases xs with
      | nil => cases hall
      | cons y ys =>
        obtain ⟨failure, hfailure⟩ := ih (fun z hz => h z (List.mem_cons_of_mem x hz)) hall hspace
        refine ⟨failure, (readSeries_step hitem hopens hleft (hfirst.text hx) isSpaces_nil
          rfl rfl fuel).trans ?_⟩
        rw [if_neg hcomma.symm, if_pos rfl]
        exact map_eq_error_iff.2 hfailure

theorem foldr_separator_append (m : Margin) (p : α → List Char) (xs : List α)
    (tail rest : List Char) :
    xs.foldr (fun y rest => m.separator ++ (p y ++ rest)) tail ++ rest
      = xs.foldr (fun y rest => m.separator ++ (p y ++ rest)) (tail ++ rest) := by
  induction xs with
  | nil => rfl
  | cons x xs ih => rw [List.foldr_cons, List.foldr_cons, List.append_assoc, List.append_assoc, ih]

theorem refuses_readEnclosed (hitem : Takes item T EndsNumber) (hopens : Opens T close)
    (hcomma : close ≠ ',') (h : ∀ y ∈ x :: xs, Decides item T close p good y)
    (hall : (x :: xs).all good = false) (m : Margin) (hleft : IsSpaces left) (tail : List Char) :
    Refuses (readEnclosed close item) (left ++ (p x
      ++ xs.foldr (fun y rest => m.separator ++ (p y ++ rest)) tail)) := by
  intro rest
  have hstart := (h x List.mem_cons_self).starts
  rw [List.append_assoc, List.append_assoc, foldr_separator_append]
  unfold readEnclosed
  dsimp only
  rw [if_neg]
  · exact readSeries_eq_error hitem hopens hcomma h hall hleft _
  · rw [skipSpace_append hleft (hstart.stops _)]
    exact hstart.head?_ne _

end

section

variable {value : List Char → Reading Json} {f : String × Json} {m : Margin}

theorem starts_printField (m : Margin) (f : String × Json) : Starts '\x7d' (printField m f) :=
  ⟨'"', _, rfl, rfl, by decide⟩

theorem refuses_readEntry (hstart : Starts ']' (print m f.2)) (h : Refuses value (print m f.2)) :
    Refuses (readEntry value) (printField m f) := by
  intro rest
  obtain ⟨failure, hfailure⟩ := h rest
  have hends : EndsNumber (':' :: ' ' :: (print m f.2 ++ rest)) := Text.stops_cons.2 rfl
  refine ⟨failure, ?_⟩
  rw [printField, List.append_assoc, List.cons_append, List.cons_append, readEntry,
    takes_readKey.complete (stringText_printString f.1) hends]
  rw [← skipSpace_append isSpaces_blank (hstart.stops rest)] at hfailure
  exact map_eq_error_iff.2 hfailure

end

theorem starts_print (h : Admitted depth v) (m : Margin) : Starts ']' (print m v) := by
  cases hfinite : v.isFinite with
  | true => exact opens_valueText depth _ v (valueText_print h hfinite m)
  | false =>
    cases v with
    | real x =>
      cases x with
      | finite => cases hfinite
      | infinite negative => cases negative <;> exact ⟨_, _, rfl, rfl, by decide⟩
    | arr xs => cases xs <;> exact ⟨'[', _, rfl, rfl, by decide⟩
    | obj fs => cases fs <;> exact ⟨'\x7b', _, rfl, rfl, by decide⟩
    | _ => cases hfinite

theorem refuses_infinity (depth : Nat) (negative : Bool) (m : Margin) :
    Refuses (readValue depth) (print m (.real (.infinite negative))) := by
  intro rest
  cases negative <;> cases depth <;> exact ⟨_, rfl⟩

theorem refuses_print (h : Admitted depth v) (hinfinite : v.isFinite = false) (m : Margin) :
    Refuses (readValue depth) (print m v) := by
  induction h generalizing m with
  | null | bool | int | str => cases hinfinite
  | real x =>
    cases x with
    | finite => cases hinfinite
    | infinite negative => exact refuses_infinity _ negative m
  | @arr depth xs hxs ih =>
    rw [isFinite_arr] at hinfinite
    cases xs with
    | nil => cases hinfinite
    | cons x xs =>
      rw [print, printItems_eq]
      have hitems : ∀ y ∈ x :: xs,
          Decides (readValue depth) (ValueText depth) ']' (print m.inner) isFinite y := fun y hy =>
        ⟨starts_print (hxs y hy) m.inner, fun hfinite => valueText_print (hxs y hy) hfinite m.inner,
          fun hinfinite => ih y hy hinfinite m.inner⟩
      have h := refuses_readEnclosed (takes_readValue depth) (opens_valueText depth) (by decide)
        hitems hinfinite m.inner (isSpaces_newline m.inner) (m.newline ++ [']'])
      exact h.map _
  | @obj depth fs _ hfs ih =>
    rw [isFinite_obj] at hinfinite
    cases fs with
    | nil => cases hinfinite
    | cons f fs =>
      rw [print, printFields_eq]
      have hentry := takes_readEntry (takes_readValue depth) (opens_valueText depth)
      have hentries : ∀ g ∈ f :: fs, Decides (readEntry (readValue depth))
          (EntryText (ValueText depth)) '\x7d' (printField m.inner) (·.2.isFinite) g := fun g hg =>
        ⟨starts_printField m.inner g,
          fun hfinite => entryText_printField (valueText_print (hfs g hg) hfinite m.inner),
          fun hinfinite =>
            refuses_readEntry (starts_print (hfs g hg) m.inner) (ih g hg hinfinite m.inner)⟩
      have h := refuses_readEnclosed hentry opens_entryText (by decide) hentries hinfinite
        m.inner (isSpaces_newline m.inner) (m.newline ++ ['\x7d'])
      exact h.map _

theorem toText_refused (h : Admitted nestingLimit v) (hinfinite : v.isFinite = false)
    (pretty : Bool) : ∃ failure, ofText (v.toText pretty) = .error failure := by
  obtain ⟨failure, hfailure⟩ := refuses_print h hinfinite (if pretty then some 0 else none) []
  rw [← skipSpace_append isSpaces_nil ((starts_print h _).stops [])] at hfailure
  rw [List.nil_append, List.append_nil] at hfailure
  rw [ofText, toText, String.toList_ofList]
  unfold readChars
  split
  · exact ⟨_, rfl⟩
  · exact ⟨failure, bind_eq_error_iff.2 (.inl hfailure)⟩

theorem exists_ofText_toText_iff (h : Admitted nestingLimit v) (pretty : Bool) :
    (∃ w, ofText (v.toText pretty) = .ok w) ↔ v.isFinite := by
  constructor
  · intro hread
    obtain ⟨w, hw⟩ := hread
    refine Bool.of_not_eq_false fun hinfinite => ?_
    obtain ⟨failure, hfailure⟩ := toText_refused h hinfinite pretty
    rw [hw] at hfailure
    cases hfailure
  · intro hfinite
    exact ⟨v, ofText_toText h hfinite pretty⟩

end ShapeGraph.Json
