import ShapeGraph.Proofs.Selector.Recognition

namespace ShapeGraph

theorem Predicate.endsBefore_nil (p : Predicate) : p.EndsBefore [] := by
  cases p with
  | kind k => exact Text.stops_nil Text.isIdentifierPart
  | _ => trivial

namespace Selector

open Text

variable {cs start rest : List Char} {p : Predicate} {f : Failure}
  {nested nested' : List Char → Reading Compound}

/-- Some text of `T` begins with what stands before the failure, and goes on with nothing that would
be taken into a word. -/
def Viable {α : Type} (T : List Char → α → Prop) (cs : List Char) (f : Failure) : Prop :=
  ∃ done left more x, cs = done ++ left ∧ f.left = left.length ∧ Stops isIdentifierPart more
    ∧ T (done ++ more) x

section

variable {α β : Type} {T : List Char → α → Prop} {U : List Char → β → Prop}

theorem viable_of_append {done left : List Char} {flaw : Flaw} {x : α} (more : List Char)
    (hmore : Stops isIdentifierPart more) (h : T (done ++ more) x) :
    Viable T (done ++ left) ⟨flaw, left.length⟩ :=
  ⟨done, left, more, x, rfl, rfl, hmore, h⟩

theorem Viable.within (h : Viable T cs f) (front after : List Char)
    (hafter : Stops isIdentifierPart after)
    (hU : ∀ done left more x, cs = done ++ left → Stops isIdentifierPart more → T (done ++ more) x →
      ∃ y, U (front ++ ((done ++ more) ++ after)) y) : Viable U (front ++ cs) f := by
  obtain ⟨done, left, more, x, hcs, hleft, hmore, hx⟩ := h
  obtain ⟨y, hy⟩ := hU done left more x hcs hmore hx
  refine ⟨front ++ done, left, more ++ after, y, ?_, hleft, hmore.append hafter, ?_⟩
  · rw [hcs, List.append_assoc]
  · simpa using hy

end

theorem viable_predicateText_self (flaw : Flaw) :
    Viable PredicateText cs ⟨flaw, cs.length⟩ :=
  -- `*` can stand wherever a predicate can
  ⟨[], cs, ['*'], .any, rfl, rfl, stops_cons.2 rfl, .any⟩

theorem readBracket_eq_error (h : readBracket start cs = .error f) :
    ∃ flaw, f = ⟨flaw, start.length⟩ := by
  unfold readBracket at h
  split at h
  · cases h
    exact ⟨_, rfl⟩
  · split at h
    · cases h
      exact ⟨_, rfl⟩
    · cases h

theorem readKind_eq_error (h : readKind cs = .error f) : ∃ flaw, f = ⟨flaw, cs.length⟩ := by
  unfold readKind at h
  split at h
  · split at h
    · cases h
    · cases h
      exact ⟨_, rfl⟩
  · split at h
    · cases h
      exact ⟨_, rfl⟩
    · cases h
      exact ⟨_, rfl⟩

theorem viable_of_readNot (hreads : Reads nested CompoundText (endsCompound ·) cs)
    (hnested : ∀ f, nested cs = .error f → Viable CompoundText cs f)
    (h : readNot nested cs = .error f) : Viable PredicateText (":not(".toList ++ cs) f := by
  have hclose : Stops isIdentifierPart [')'] := stops_cons.2 rfl
  unfold readNot at h
  cases hcs : nested cs with
  | error g =>
    rw [hcs] at h
    cases h
    apply (hnested _ hcs).within _ [')'] hclose
    intro done left more compound _ _ htext
    cases htext with
    | intro hrow hne => exact ⟨_, .not hrow hne⟩
  | ok r =>
    obtain ⟨compound, mid⟩ := r
    obtain ⟨hends, taken, rfl, htext⟩ := (hreads compound mid).1 hcs
    rw [hcs] at h
    dsimp only [Except.bind] at h
    rw [skipBlank, dropWhile_eq_self (stops_isBlank_of_endsCompound hends)] at h
    split at h
    · cases h
    · cases h
      cases htext with
      | intro hrow hne =>
        rw [← List.append_assoc]
        refine viable_of_append [')'] hclose (x := .not compound) ?_
        rw [List.append_assoc]
        exact .not hrow hne

theorem viable_of_readPredicate (hreads : ∀ inner, inner.length < cs.length →
      Reads nested CompoundText (endsCompound ·) inner)
    (hnested : ∀ inner, inner.length < cs.length → ∀ f, nested inner = .error f →
      Viable CompoundText inner f)
    (h : readPredicate nested cs = .error f) : Viable PredicateText cs f := by
  unfold readPredicate at h
  split at h
  · cases h
  · obtain ⟨flaw, rfl⟩ := readBracket_eq_error h
    exact viable_predicateText_self flaw
  · split at h
    · rename_i inner hinner
      have hcs := after?_eq_some_iff.1 hinner
      have hlt : inner.length < cs.length := length_lt_of_eq_append hcs (by decide)
      rw [hcs]
      exact viable_of_readNot (hreads inner hlt) (hnested inner hlt) h
    · obtain ⟨flaw, rfl⟩ := readKind_eq_error h
      exact viable_predicateText_self flaw

theorem viable_of_nonEmpty {read : List Char → Reading Compound}
    (hreads : Reads read RowText (endsCompound ·) cs)
    (hread : ∀ f, read cs = .error f → Viable CompoundText cs f)
    (h : nonEmpty (read cs) = .error f) : Viable CompoundText cs f := by
  unfold nonEmpty at h
  split at h
  · rename_i rest hcs
    cases h
    obtain ⟨-, taken, rfl, hrow⟩ := (hreads [] rest).1 hcs
    refine viable_of_append ['*'] (stops_cons.2 rfl) (x := [.any]) ?_
    cases hrow with
    | nil hblank =>
      exact .intro (.cons hblank .any trivial (.nil (List.forall_mem_nil _))) (List.cons_ne_nil _ _)
  · exact hread f h

theorem viable_of_readPredicates (fuel : Nat) : ∀ cs, cs.length < fuel →
    ∀ f, readPredicates fuel cs = .error f → Viable CompoundText cs f := by
  induction fuel with
  | zero =>
    intro cs hlt
    exact absurd hlt (Nat.not_lt_zero _)
  | succ fuel ih =>
    intro cs hlt f h
    have hle : (skipBlank cs).length ≤ fuel :=
      (List.length_dropWhile_le isBlank cs).trans (Nat.le_of_lt_succ hlt)
    have hreads : ∀ inner, inner.length < (skipBlank cs).length →
        Reads (fun cs => nonEmpty (readPredicates fuel cs)) CompoundText (endsCompound ·) inner :=
      fun inner hinner => (reads_readPredicates fuel inner (hinner.trans_le hle)).nonEmpty
    obtain ⟨blank, hcs, hblank, -⟩ := skipBlank_eq_iff.1 (rfl : skipBlank cs = _)
    rw [readPredicates] at h
    dsimp only at h
    split at h
    · cases h
    · rw [bind_eq_error_iff] at h
      rw [hcs]
      rcases h with h | ⟨⟨p, mid⟩, hp, h⟩
      · -- the first predicate fails, and is a whole compound when it is completed
        have hviable := viable_of_readPredicate hreads (fun inner hinner f =>
          viable_of_nonEmpty (reads_readPredicates fuel inner (hinner.trans_le hle))
            (ih inner (hinner.trans_le hle))) h
        apply hviable.within blank [] (stops_nil _)
        intro done left more p _ _ htext
        exact ⟨[p], .intro (.cons hblank htext p.endsBefore_nil (.nil (List.forall_mem_nil _)))
          (List.cons_ne_nil _ _)⟩
      · -- the first predicate is read, and ends where it ended in the whole text
        obtain ⟨hbefore, first, hfirst, htext⟩ := (readPredicate_eq_ok_iff hreads).1 hp
        have hmid : mid.length < fuel :=
          (length_lt_of_eq_append hfirst htext.ne_nil).trans_le hle
        rw [hfirst, ← List.append_assoc]
        apply (ih mid hmid f (map_eq_error_iff.1 h)).within _ [] (stops_nil _)
        intro done left more ps hdone hmore hrow
        rw [hdone] at hbefore
        cases hrow with
        | intro hrow _ =>
          refine ⟨p :: ps, .intro ?_ (List.cons_ne_nil _ _)⟩
          rw [List.append_nil, List.append_assoc]
          exact .cons hblank htext (hbefore.of_append.append hmore) hrow

theorem viable_of_readCompound (h : readCompound cs = .error f) : Viable CompoundText cs f :=
  viable_of_nonEmpty (reads_readPredicates _ cs (Nat.lt_succ_self _))
    (viable_of_readPredicates _ cs (Nat.lt_succ_self _)) h

theorem viable_of_readSeparated {α : Type} {sep : Char} {item : List Char → Reading α}
    {T : List Char → α → Prop} {ends : List Char → Prop} (hitem : ∀ cs, Reads item T ends cs)
    (hviable : ∀ cs f, item cs = .error f → Viable T cs f)
    (hblank : ∀ rest, ends rest → Stops isBlank rest) (fuel : Nat) : ∀ cs, cs.length < fuel →
      ∀ f, readSeparated sep item fuel cs = .error f → Viable (Joined sep T) cs f := by
  induction fuel with
  | zero =>
    intro cs hlt
    exact absurd hlt (Nat.not_lt_zero _)
  | succ fuel ih =>
    intro cs hlt f h
    rw [readSeparated, bind_eq_error_iff] at h
    rcases h with h | ⟨⟨x, mid⟩, hx, h⟩
    · apply (hviable cs f h).within [] [] (stops_nil _)
      intro done left more x _ _ htext
      rw [List.append_nil]
      exact ⟨[x], .one htext⟩
    · obtain ⟨hends, taken, rfl, htext⟩ := (hitem cs x mid).1 hx
      have hskip : skipBlank mid = mid := dropWhile_eq_self (hblank mid hends)
      dsimp only at h
      rw [hskip] at h
      split at h
      · rename_i c tail
        split at h
        · rename_i hc
          rw [List.length_append, List.length_cons] at hlt
          have htail : tail.length < fuel := by omega
          rw [List.append_cons]
          apply (ih tail htail f (map_eq_error_iff.1 h)).within _ [] (stops_nil _)
          intro done left more xs _ _ hjoined
          rw [List.append_nil, ← List.append_cons, hc]
          exact ⟨x :: xs, .more htext hjoined⟩
        · cases h
      · cases h

theorem viable_of_readRoute (h : readRoute cs = .error f) : Viable RouteText cs f :=
  viable_of_readSeparated reads_readCompound (fun _ _ => viable_of_readCompound)
    (fun _ => stops_isBlank_of_endsCompound) _ cs (Nat.lt_succ_self _) f h

theorem viable_of_readAlternatives (h : readAlternatives cs = .error f) :
    Viable AlternativesText cs f := by
  have hcomma : ∀ rest, EndsRoute (',' :: rest) := fun _ => ⟨rfl, nofun⟩
  have hreads := reads_readSeparated reads_readRoute
    (fun _ h => stops_isBlank_of_endsCompound h.1) hcomma (cs.length + 1) cs (Nat.lt_succ_self _)
  rw [readAlternatives, bind_eq_error_iff] at h
  rcases h with h | ⟨⟨routes, rest⟩, hroutes, h⟩
  · exact viable_of_readSeparated reads_readRoute (fun _ _ => viable_of_readRoute)
      (fun _ h => stops_isBlank_of_endsCompound h.1) _ cs (Nat.lt_succ_self _) f h
  · obtain ⟨-, taken, rfl, htext⟩ := (hreads routes rest).1 hroutes
    cases rest with
    | nil => cases h
    | cons c rest =>
      cases h
      refine viable_of_append [] (stops_nil _) (x := routes) ?_
      rw [List.append_nil]
      exact htext

theorem readNot_congr (h : nested cs = nested' cs) : readNot nested cs = readNot nested' cs := by
  rw [readNot, readNot, h]

theorem readPredicate_congr
    (h : ∀ inner, inner.length < cs.length → nested inner = nested' inner) :
    readPredicate nested cs = readPredicate nested' cs := by
  unfold readPredicate
  split
  · rfl
  · rfl
  · split
    · rename_i inner hinner
      apply readNot_congr
      apply h
      exact length_lt_of_eq_append (after?_eq_some_iff.1 hinner) (by decide)
    · rfl

theorem readPredicates_congr (fuel : Nat) : ∀ fuel' cs, cs.length < fuel → cs.length < fuel' →
    readPredicates fuel cs = readPredicates fuel' cs := by
  induction fuel with
  | zero =>
    intro fuel' cs hlt
    exact absurd hlt (Nat.not_lt_zero _)
  | succ fuel ih =>
    intro fuel' cs hlt hlt'
    cases fuel' with
    | zero => exact absurd hlt' (Nat.not_lt_zero _)
    | succ fuel' =>
      have hskip : (skipBlank cs).length ≤ cs.length := List.length_dropWhile_le isBlank cs
      have hnested : ∀ inner, inner.length < (skipBlank cs).length →
          nonEmpty (readPredicates fuel inner) = nonEmpty (readPredicates fuel' inner) := by
        intro inner hinner
        rw [ih fuel' inner (by omega) (by omega)]
      have hreads : ∀ inner, inner.length < (skipBlank cs).length →
          Reads (fun cs => nonEmpty (readPredicates fuel' cs)) CompoundText (endsCompound ·)
            inner := fun inner hinner =>
        (reads_readPredicates fuel' inner (by omega)).nonEmpty
      rw [readPredicates, readPredicates]
      dsimp only
      split
      · rfl
      · rw [readPredicate_congr hnested]
        cases hp : readPredicate (fun cs => nonEmpty (readPredicates fuel' cs)) (skipBlank cs) with
        | error f => rfl
        | ok r =>
          obtain ⟨p, mid⟩ := r
          obtain ⟨-, first, hfirst, htext⟩ := (readPredicate_eq_ok_iff hreads).1 hp
          have hmid := length_lt_of_eq_append hfirst htext.ne_nil
          dsimp only [Except.bind]
          rw [ih fuel' mid (by omega) (by omega)]

theorem readSeparated_congr {α : Type} {sep : Char} {item item' : List Char → Reading α}
    {T : List Char → α → Prop} {ends : List Char → Prop} (hitem : ∀ cs, Reads item' T ends cs)
    (hblank : ∀ rest, ends rest → Stops isBlank rest) (fuel : Nat) : ∀ fuel' cs,
      (∀ inner, inner.length ≤ cs.length → item inner = item' inner) → cs.length < fuel →
      cs.length < fuel' → readSeparated sep item fuel cs = readSeparated sep item' fuel' cs := by
  induction fuel with
  | zero =>
    intro fuel' cs _ hlt
    exact absurd hlt (Nat.not_lt_zero _)
  | succ fuel ih =>
    intro fuel' cs hsame hlt hlt'
    cases fuel' with
    | zero => exact absurd hlt' (Nat.not_lt_zero _)
    | succ fuel' =>
      rw [readSeparated, readSeparated, hsame cs (Nat.le_refl _)]
      cases hx : item' cs with
      | error f => rfl
      | ok r =>
        obtain ⟨x, mid⟩ := r
        obtain ⟨hends, taken, rfl, -⟩ := (hitem cs x mid).1 hx
        have hskip : skipBlank mid = mid := dropWhile_eq_self (hblank mid hends)
        rw [List.length_append] at hsame hlt hlt'
        dsimp only [Except.bind]
        rw [hskip]
        cases mid with
        | nil => rfl
        | cons c tail =>
          rw [List.length_cons] at hsame hlt hlt'
          have htail := ih fuel' tail (fun inner hinner => hsame inner (by omega)) (by omega)
            (by omega)
          dsimp only
          rw [htail]

def atEnd : List Route × List Char → Except Failure (List Route)
  | (routes, []) => .ok routes
  | (_, c :: rest) => fail (.unexpected c) (c :: rest)

theorem readAlternatives_eq (cs : List Char) :
    readAlternatives cs = (readSeparated ',' readRoute (cs.length + 1) cs).bind atEnd := by
  rw [readAlternatives]
  congr 1
  funext r
  obtain ⟨routes, rest⟩ := r
  cases rest <;> rfl

def readWithin (bound : Nat) (cs : List Char) : Except Failure (List Route) :=
  let compound cs := nonEmpty (readPredicates bound cs)
  let route cs := readSeparated '>' compound bound cs
  (readSeparated ',' route bound cs).bind atEnd

theorem readWithin_eq {bound : Nat} (h : cs.length < bound) :
    readWithin bound cs = readAlternatives cs := by
  have hcompound : ∀ inner, inner.length ≤ cs.length →
      nonEmpty (readPredicates bound inner) = readCompound inner := by
    intro inner hinner
    rw [readCompound, readPredicates_congr bound _ inner (by omega) (Nat.lt_succ_self _)]
  have hroute : ∀ inner, inner.length ≤ cs.length →
      readSeparated '>' (fun cs => nonEmpty (readPredicates bound cs)) bound inner
        = readRoute inner := by
    intro inner hinner
    exact readSeparated_congr reads_readCompound (fun _ => stops_isBlank_of_endsCompound) bound _
      inner (fun deeper hdeeper => hcompound deeper (by omega)) (by omega) (Nat.lt_succ_self _)
  have hroutes : readSeparated ',' (fun cs =>
      readSeparated '>' (fun cs => nonEmpty (readPredicates bound cs)) bound cs) bound cs
        = readSeparated ',' readRoute (cs.length + 1) cs :=
    readSeparated_congr reads_readRoute (fun _ h => stops_isBlank_of_endsCompound h.1) bound _ cs
      hroute h (Nat.lt_succ_self _)
  rw [readAlternatives_eq, ← hroutes]
  rfl

theorem position_of_parse (text : String) (r : Rejection) (h : parse text = .error r) :
    IsBlank text.toList ∧ r.position = none
      ∨ ∃ f, readAlternatives text.toList = .error f
        ∧ r.position = some (text.toList.length - f.left) := by
  unfold parse at h
  split at h
  · rename_i hblank
    cases h
    rw [List.isEmpty_iff, stripBlank_eq_nil_iff] at hblank
    exact .inl ⟨hblank, rfl⟩
  · split at h
    · rename_i f hf
      cases h
      exact .inr ⟨f, hf, rfl⟩
    · cases h

/-- Any bound beyond the length of a text does for every loop of the reader. A text is rejected
without a place if it is blank. Otherwise it is rejected at a place in it, and what stands before
that place is the beginning of a selector. -/
theorem rejected_behind_viable_part (text : String) :
    (∀ bound, text.toList.length < bound →
      readWithin bound text.toList = readAlternatives text.toList)
      ∧ ∀ r, parse text = .error r →
        IsBlank text.toList ∧ r.position = none
          ∨ ∃ p, r.position = some p ∧ p ≤ text.toList.length
            ∧ ∃ more s, parse (String.ofList (text.toList.take p ++ more)) = .ok s := by
  refine ⟨fun bound => readWithin_eq, ?_⟩
  intro r hr
  rcases position_of_parse text r hr with hblank | ⟨f, hf, hposition⟩
  · exact .inl hblank
  · obtain ⟨done, left, more, alternatives, htext, hleft, -, halternatives⟩ :=
      viable_of_readAlternatives hf
    have hdone : text.toList.length - f.left = done.length := by
      rw [htext, hleft, List.length_append, Nat.add_sub_cancel]
    rw [hdone] at hposition
    refine .inr ⟨done.length, hposition, ?_, more, ⟨String.ofList (done ++ more), alternatives⟩, ?_⟩
    · rw [htext, List.length_append]
      exact Nat.le_add_right _ _
    · rw [htext, List.take_left]
      refine (parse_recognises_grammar _ _).2 ⟨rfl, ?_⟩
      rw [String.toList_ofList]
      exact halternatives

def openNegation : String := "set, :not(list [trait|a] > x"

theorem rejected_in_openNegation :
    parse openNegation = .error ⟨openNegation, .expectedClose, some 25⟩
      ∧ ∃ more s, parse (String.ofList ("set, :not(list [trait|a] ".toList ++ more)) = .ok s := by
  have h : parse openNegation = .error ⟨openNegation, .expectedClose, some 25⟩ := by rfl
  rcases (rejected_behind_viable_part openNegation).2 _ h with ⟨-, hnone⟩ | ⟨p, hp, -, hviable⟩
  · cases hnone
  · cases hp
    exact ⟨h, hviable⟩

end Selector

end ShapeGraph
