import PagePolicy.Proofs.Regex.Closing

/-! A closing parenthesis after a whole regular expression. It is left over, unless it ends up in a comment or the
expression is nothing without it. -/

namespace PagePolicy.Regex

open Text (Reader)
open Text.Reader

variable {mode : Mode} {names : List (List Char)} {done : Option (Nested Regex)} {parts : Parts}

/-! ### Groups -/

private theorem apart_acceptNameSign : acceptNameSign.Apart ')' := by
  refine (Apart.accept (by decide)).bind fun long => ?_
  cases long with
  | true => exact Apart.pure true
  | false => exact Apart.accept (by decide)

private theorem steady_groupHead : (groupHead mode names).Steady ')' := by
  refine (steady_skipSpace mode).bind fun _ => apart_acceptNameSign.steady.bind fun named => ?_
  cases named with
  | true =>
    refine (Apart.run_expect (by decide) fun name => ?_).steady
    exact (Apart.require _).bind fun _ => Apart.pure _
  | false =>
    refine (Apart.accept (by decide)).steady.bind fun marked => ?_
    cases marked with
    | false => exact (Apart.pure _).steady
    | true =>
      refine (Apart.run rfl).steady.bind fun letters => (Apart.ofOption _).steady.bind fun mode' => ?_
      refine (Apart.accept (by decide)).steady.bind fun group => ?_
      cases group with
      | true => exact (Apart.pure _).steady
      | false =>
        refine (Steady.expect ')').bind fun _ => (Apart.require _).steady.bind fun _ => ?_
        exact (Apart.pure _).steady

/-! ### Loops -/

private theorem steady_bound : (bound mode).Steady ')' := by
  refine (Apart.run rfl).steady.bind fun _ => (steady_runSpaced rfl).bind fun digits => ?_
  refine (steady_runSpaced rfl).bind fun _ => (Apart.require _).steady.bind fun _ => ?_
  exact (Apart.pure _).steady

private theorem steady_closeBounds (least : Nat) (most : Option Nat) : (closeBounds mode least most).Steady ')' := by
  refine (Steady.expect _).bind fun _ => (Apart.require _).steady.bind fun _ => ?_
  refine (steady_skipSpace mode).bind fun _ => (Apart.accept (by decide)).steady.bind fun _ => ?_
  exact (Apart.pure _).steady

private theorem steady_bounds : (bounds mode).Steady ')' := by
  refine (steady_skipSpace mode).bind fun _ => steady_bound.bind fun least => ?_
  refine (Apart.accept (by decide)).steady.bind fun more => ?_
  cases more with
  | false => exact (Apart.pure _).steady.bind fun most => steady_closeBounds least most
  | true =>
    refine (steady_skipSpace mode).bind fun _ => Steady.remaining (fun s => ?_) fun s => ?_
    · cases s with
      | nil => rfl
      | cons d s =>
        rw [List.cons_append]
        split
        next heq =>
          obtain ⟨rfl, -⟩ := List.cons.inj heq
          rfl
        next hnot =>
          split
          next heq =>
            obtain ⟨rfl, -⟩ := List.cons.inj heq
            exact (hnot _ rfl).elim
          next => rfl
    · split
      · exact (Apart.pure _).steady.bind fun most => steady_closeBounds least most
      · exact (steady_bound.map _).bind fun most => steady_closeBounds least most

private theorem steady_loopBounds (c : Char) : (loopBounds mode c).Steady ')' := by
  unfold loopBounds
  split
  · exact steady_bounds
  · exact (Apart.accept (by decide)).steady.bind fun _ => (Apart.pure _).steady

private theorem results_bound_parenthesis : (bound mode).results [')'] = none := by
  refine (results_bind (run Text.isBlank) _ [')']).trans ?_
  refine (results_bind (runSpaced mode Char.isDigit) _ [')']).trans ?_
  rw [results_runSpaced_cons, if_neg (by decide), Option.bind_some]
  refine (results_bind (runSpaced mode Text.isBlank) _ [')']).trans ?_
  rw [results_runSpaced_cons, if_neg (by decide), Option.bind_some]
  rfl

/-- A brace that opens nothing does not open the bounds of a loop either. -/
theorem results_loopBounds_of_opensNothing {t : List Char} (h : dropSpace mode t = [')']) :
    (loopBounds mode '{').results t = none := by
  show (skipSpace mode >>= fun _ => _).results t = none
  rw [results_bind, results_skipSpace, h, Option.bind_some]
  refine (results_bind (bound mode) _ [')']).trans ?_
  rw [results_bound_parenthesis, Option.bind_none]

/-! ### Parts -/

private theorem steadyBut_single (c : Char) : (single mode c).SteadyBut ')' fun _ => OpensNothing mode := by
  unfold single
  split
  · exact Steady.steadyBut (steady_bracket.bind fun _ => (Apart.pure _).steady) _
  · exact (Apart.ofOption _).steadyBut _
  · exact (Apart.pure _).steadyBut _
  · exact (Apart.pure _).steadyBut _
  · refine steadyBut_escape.bind (fun p => (Apart.ofOption _).steadyBut _) ?_
    rintro _ rest ⟨⟨condition, rfl⟩, hrest⟩
    exact .strayed hrest
  · exact (Apart.pure _).steadyBut _

/-! ### Alternatives -/

private theorem steadyOn_closedGroup {s : List Char}
    (h : ∀ mode names, SteadyOn ')' s (alternatives mode names none [])) : SteadyOn ')' s (closedGroup mode names) := by
  refine SteadyOn.bind (h mode names) fun r rest _ => ?_
  exact (Steady.expect ')').bind (fun _ => (Apart.pure r).steady) rest

/-- A brace that opens nothing makes no loop of the part before it. -/
theorem results_alternatives_brace {a : Nested Regex} {t : List Char} (h : dropSpace mode t = [')']) :
    Reader.results (alternatives mode names done (some a :: parts)) ('{' :: t) = none := by
  rw [results_alternatives_cons (dropSpace_brace mode t)]
  show ((loopBounds mode '{').results t).bind _ = none
  rw [results_loopBounds_of_opensNothing h, Option.bind_none]

/-- What is next is read alike on both texts, and what follows it is shorter. -/
theorem steadyOn_alternatives {s : List Char}
    (hshorter : ∀ mode names done parts t, t.length < s.length → SteadyOn ')' t (alternatives mode names done parts)) :
    SteadyOn ')' s (alternatives mode names done parts) := by
  unfold SteadyOn
  rcases dropSpace_concat mode s with hleft | ⟨hnil, hpassed⟩
  · cases hdrop : dropSpace mode s with
    | nil =>
      rw [hdrop] at hleft
      rw [results_alternatives_nil hdrop, results_alternatives_cons hleft, if_pos rfl]
      exact .left _ []
    | cons c rest =>
      rw [hdrop, List.cons_append] at hleft
      have hmore {mode : Mode} {names : List (List Char)} {done : Option (Nested Regex)} {parts : Parts}
          {t : List Char} (ht : t.length ≤ rest.length) : SteadyOn ')' t (alternatives mode names done parts) :=
        hshorter mode names done parts t (Nat.lt_of_le_of_lt ht (length_lt_of_dropSpace hdrop))
      rw [results_alternatives_cons hdrop, results_alternatives_cons hleft]
      split
      next => exact .left _ (c :: rest)
      next =>
        split
        next => exact hmore (Nat.le_refl _)
        next =>
          split
          next =>
            refine SteadyOn.bind (steady_groupHead rest) fun head t ht => ?_
            cases head with
            | directive mode' => exact hmore ht
            | group mode' name =>
              have hgroup : SteadyOn ')' t (closedGroup mode' (name.toList ++ names)) :=
                steadyOn_closedGroup fun mode names => hmore ht
              exact SteadyOn.bind hgroup fun r t' ht' => hmore (Nat.le_trans ht' ht)
          next =>
            split
            next =>
              split
              next a parts' =>
                exact (steady_loopBounds c rest).bind
                  (f := fun b => alternatives mode names done (some ⟨loop a.value b.1 b.2, a.depth + 1⟩ :: parts'))
                  (fun b t ht => hmore (length_le_of_results ht)) fun _ _ => False.elim
              next => exact .refused
            next =>
              -- Where a part goes astray, the brace after it does too, and nothing is read on either text.
              refine (steadyBut_single c rest).bind
                (f := fun a => alternatives mode names done (some a :: parts))
                (fun a t ht => hmore (length_le_of_results ht)) ?_
              rintro a _ ⟨t, rfl, ht⟩
              rw [results_alternatives_brace ht]
              exact .refused
  · rw [results_alternatives_nil hnil, results_alternatives_nil hpassed]
    exact .passed _

/-- A parenthesis after a text is left over, unless a comment takes it in or the text is nothing without it. -/
theorem steady_alternatives : Reader.Steady ')' (alternatives mode names done parts) := by
  intro s
  induction s using (measure List.length).wf.induction generalizing mode names done parts with
  | _ s ih => exact steadyOn_alternatives fun mode names done parts t ht => ih t ht

end PagePolicy.Regex
