import PagePolicy.Proofs.Regex.Search
import PagePolicy.Proofs.Text.Reader
import PagePolicy.Regex.Parser

/-! What the text of a regular expression is read as, part by part. -/

namespace PagePolicy.Regex

open Text (Reader)
open Text.Reader

variable {mode : Mode} {names : List (List Char)} {done : Option (Nested Regex)} {parts : Parts}

/-! ### The parts of an alternative -/

/-- What is read as a group, its opening having been read: all up to its closing parenthesis. -/
def closedGroup (mode : Mode) (names : List (List Char)) : Reader (Nested Regex × List (List Char)) := do
  let r ← alternatives mode names none []
  expect ')'
  return r

/-- What is read once the opening of a group or of a directive has been read. -/
def afterHead (mode : Mode) (names : List (List Char)) (done : Option (Nested Regex)) (parts : Parts) :
    GroupHead → Reader (Nested Regex × List (List Char))
  | .directive mode' => alternatives mode' names done (none :: parts)
  | .group mode' name => do
    let (a, names') ← closedGroup mode' (name.toList ++ names)
    alternatives mode names' done (some ⟨a.value, a.depth + 1⟩ :: parts)

private theorem result_dropParen {α : Type} {s : List Char} (r : Text.Reading α s) :
    (dropParen r).map Text.Reading.result = ((expect ')').results r.rest).map fun (_, rest) => (r.value, rest) := by
  obtain ⟨a, rest, hle⟩ := r
  cases rest with
  | nil => rfl
  | cons c rest =>
    by_cases hc : c = ')'
    · subst hc
      rfl
    · have hnone : dropParen ⟨a, c :: rest, hle⟩ = none := by
        unfold dropParen
        split
        next heq =>
          cases heq
          exact absurd rfl hc
        next => rfl
      rw [hnone, results_expect_cons, if_neg (Ne.symm hc)]
      rfl

private theorem results_closedGroup (mode : Mode) (names : List (List Char)) (s : List Char) :
    (closedGroup mode names).results s =
      ((alternatives mode names none [] s).bind dropParen).map Text.Reading.result := by
  refine (results_bind (alternatives mode names none []) _ s).trans ?_
  show ((alternatives mode names none [] s).map Text.Reading.result).bind _ = _
  cases alternatives mode names none [] s with
  | none => rfl
  | some r =>
    rw [Option.map_some, Option.bind_some, Option.bind_some, result_dropParen]
    refine (results_bind (expect ')') _ r.rest).trans ?_
    cases (expect ')').results r.rest <;> rfl

theorem results_closedGroup_eq_some_iff {s rest : List Char} {r : Nested Regex × List (List Char)} :
    (closedGroup mode names).results s = some (r, rest) ↔
      Reader.results (alternatives mode names none []) s = some (r, ')' :: rest) := by
  have hclose (r' : Nested Regex × List (List Char)) (t : List Char) :
      (expect ')' >>= fun _ => (Pure.pure r' : Reader _)).results t = some (r, rest) ↔ r' = r ∧ t = ')' :: rest := by
    cases t with
    | nil => simp
    | cons c t =>
      rw [results_bind, results_expect_cons]
      split <;> simp_all [eq_comm]
  have hbind := results_bind (alternatives mode names none []) (fun r => expect ')' >>= fun _ => pure r) s
  refine (Eq.congr_left hbind).trans (Option.bind_eq_some_iff.trans ?_)
  constructor
  · rintro ⟨⟨r', t⟩, hr, h⟩
    obtain ⟨rfl, rfl⟩ := (hclose r' t).1 h
    exact hr
  · intro hr
    exact ⟨_, hr, (hclose r _).2 ⟨rfl, rfl⟩⟩

theorem dropSpace_nil (mode : Mode) : dropSpace mode [] = [] :=
  List.eq_nil_of_length_eq_zero (Nat.le_zero.1 (length_dropSpace_le mode []))

theorem length_lt_of_dropSpace {s : List Char} {c : Char} {rest : List Char} (h : dropSpace mode s = c :: rest) :
    rest.length < s.length := by
  have hle := length_dropSpace_le mode s
  rw [h] at hle
  exact hle

private theorem step_of_nil {s : List Char} (h : dropSpace mode s = []) : step mode s = none := by
  unfold step
  split
  next => rfl
  next hcons =>
    rw [h] at hcons
    cases hcons

private theorem step_of_cons {s : List Char} {c : Char} {rest : List Char} (h : dropSpace mode s = c :: rest) :
    step mode s = some ⟨c, rest, length_lt_of_dropSpace h⟩ := by
  unfold step
  split
  next hnil =>
    rw [h] at hnil
    cases hnil
  next hcons =>
    obtain ⟨rfl, rfl⟩ := List.cons.inj (h.symm.trans hcons)
    rfl

theorem results_alternatives_nil {s : List Char} (h : dropSpace mode s = []) :
    Reader.results (alternatives mode names done parts) s = some ((joinAlternatives done parts, names), []) := by
  show (alternatives mode names done parts s).map Text.Reading.result = _
  rw [alternatives, step_of_nil h]
  rfl

/-- What is next ends the group, begins another alternative or a group, or is a part or the sign of a loop. -/
theorem results_alternatives_cons {s : List Char} {c : Char} {rest : List Char} (h : dropSpace mode s = c :: rest) :
    Reader.results (alternatives mode names done parts) s =
      if c = ')' then some ((joinAlternatives done parts, names), c :: rest)
      else if c = '|' then
        Reader.results (alternatives mode names (some (addAlternative done (joinParts parts))) []) rest
      else if c = '(' then (groupHead mode names >>= afterHead mode names done parts).results rest
      else if c ∈ loopSigns then
        match parts with
        | some a :: parts' => ((loopBounds mode c).results rest).bind fun ((least, most), rest') =>
          Reader.results
            (alternatives mode names done (some ⟨loop a.value least most, a.depth + 1⟩ :: parts')) rest'
        | _ => none
      else ((single mode c).results rest).bind fun (a, rest') =>
        Reader.results (alternatives mode names done (some a :: parts)) rest' := by
  show (alternatives mode names done parts s).map Text.Reading.result = _
  rw [alternatives, step_of_cons h]
  dsimp only
  split
  next => rfl
  next =>
    split
    next => exact Text.result_widen _ _
    next =>
      split
      next =>
        rw [results_bind, results]
        cases groupHead mode names rest with
        | none => rfl
        | some r =>
          obtain ⟨head, rest', hle⟩ := r
          cases head with
          | directive mode' => exact Text.result_widen _ _
          | group mode' name =>
            refine Eq.trans ?_ (results_bind (closedGroup mode' (name.toList ++ names)) _ rest').symm
            rw [results_closedGroup]
            dsimp only
            cases (alternatives mode' (name.toList ++ names) none [] rest').bind dropParen with
            | none => rfl
            | some r => exact Text.result_widen _ _
      next =>
        split
        next =>
          cases parts with
          | nil => rfl
          | cons part parts' =>
            cases part with
            | none => rfl
            | some a =>
              dsimp only
              rw [results]
              cases loopBounds mode c rest with
              | none => rfl
              | some r => exact Text.result_widen _ _
        next =>
          rw [results]
          cases single mode c rest with
          | none => rfl
          | some r => exact Text.result_widen _ _

/-! ### Loops -/

private theorem ordered_of_mem_dot {a : Regex} (h : a ∈ mode.dot) : a.Ordered := by
  unfold Mode.dot at h
  split at h
  · cases h
  · repeat' split at h
    all_goals
      cases h
      trivial

private theorem ordered_of_mem_ofPrimitive {p : Primitive} {a : Regex} (h : a ∈ ofPrimitive mode p) : a.Ordered := by
  cases p with
  | character c =>
    cases h
    trivial
  | byte c =>
    rw [ofPrimitive] at h
    split at h
    · cases h
      trivial
    · cases h
  | characterClass k =>
    cases h
    trivial
  | assertion condition =>
    cases h
    trivial

/-- Whether no loop in what was read asks for more rounds than it allows. -/
def Nested.Ordered (a : Nested Regex) : Prop :=
  a.value.Ordered

private theorem ordered_leaf {o : Option Regex} (h : ∀ a ∈ o, a.Ordered) : ∀ a ∈ o.map Nested.leaf, a.Ordered := by
  intro a ha
  obtain ⟨b, hb, rfl⟩ := Option.map_eq_some_iff.1 ha
  exact h b hb

private theorem ordered_single (c : Char) : (single mode c).Yields Nested.Ordered := by
  unfold single
  split
  · exact .bind fun k => .pure trivial
  · exact .ofOption (ordered_leaf fun a => ordered_of_mem_dot)
  · exact .pure trivial
  · exact .pure trivial
  · exact .bind fun p => .ofOption (ordered_leaf fun a => ordered_of_mem_ofPrimitive)
  · exact .pure trivial

/-- What is read of the bounds of a loop after their values. -/
def closeBounds (mode : Mode) (least : Nat) (most : Option Nat) : Reader (Nat × Option Nat) := do
  expect '}'
  require (most.all (least ≤ ·))
  skipSpace mode
  let _ ← accept ['?']
  return (least, most)

private theorem ordered_closeBounds (least : Nat) (most : Option Nat) :
    (closeBounds mode least most).Yields fun b => ∀ n ∈ b.2, b.1 ≤ n := by
  refine .bind fun _ => .require fun hmost => .bind fun _ => .bind fun _ => .pure ?_
  rintro n rfl
  exact of_decide_eq_true hmost

private theorem ordered_bounds : (bounds mode).Yields fun b => ∀ n ∈ b.2, b.1 ≤ n := by
  refine .bind fun _ => .bind fun least => .bind fun more => ?_
  cases more with
  | false => exact .bind fun most => ordered_closeBounds least most
  | true =>
    refine .bind fun _ => .bind fun rest => ?_
    split
    · exact .bind fun most => ordered_closeBounds least most
    · exact .bind fun most => ordered_closeBounds least most

private theorem ordered_loopBounds (c : Char) : (loopBounds mode c).Yields fun b => ∀ n ∈ b.2, b.1 ≤ n := by
  unfold loopBounds
  split
  · exact ordered_bounds
  · refine .bind fun _ => .pure ?_
    split <;> simp

/-- Whether no loop of what has been read so far asks for more rounds than it allows. -/
def OrderedSoFar (done : Option (Nested Regex)) (parts : Parts) : Prop :=
  (∀ a ∈ done, a.Ordered) ∧ ∀ a, some a ∈ parts → a.Ordered

private theorem orderedSoFar_nil (hdone : ∀ a ∈ done, a.Ordered) : OrderedSoFar done [] :=
  ⟨hdone, by simp⟩

private theorem OrderedSoFar.push (h : OrderedSoFar done parts) {a : Nested Regex} (ha : a.Ordered) :
    OrderedSoFar done (some a :: parts) := by
  refine ⟨h.1, fun b hb => ?_⟩
  rcases List.mem_cons.1 hb with heq | hb
  · cases heq
    exact ha
  · exact h.2 b hb

private theorem OrderedSoFar.pushDirective (h : OrderedSoFar done parts) : OrderedSoFar done (none :: parts) :=
  ⟨h.1, fun b hb => h.2 b (by simpa using hb)⟩

private theorem OrderedSoFar.joinParts (h : OrderedSoFar done parts) : (joinParts parts).Ordered := by
  have hfold (parts : Parts) (hparts : ∀ a, some a ∈ parts → a.Ordered) (last : Regex) (hlast : last.Ordered) :
      (parts.foldl (fun a part => seq (part.elim empty Nested.value) a) last).Ordered := by
    induction parts generalizing last with
    | nil => exact hlast
    | cons part parts ih =>
      refine ih (fun a ha => hparts a (List.mem_cons_of_mem _ ha)) _ ⟨?_, hlast⟩
      cases part with
      | none => trivial
      | some a => exact hparts a List.mem_cons_self
  exact hfold parts h.2 empty trivial

private theorem OrderedSoFar.addAlternative (h : OrderedSoFar done parts) :
    (addAlternative done (Regex.joinParts parts)).Ordered := by
  cases done with
  | none => exact h.joinParts
  | some a => exact ⟨h.1 a rfl, h.joinParts⟩

private theorem OrderedSoFar.join (h : OrderedSoFar done parts) : (joinAlternatives done parts).Ordered := by
  cases done with
  | none => exact h.addAlternative
  | some a => exact h.addAlternative

/-- What is next adds a part that is in order, and what follows it is shorter. -/
theorem ordered_of_results {s rest : List Char} {r : Nested Regex × List (List Char)}
    (hshorter : ∀ mode names done parts t, t.length < s.length → OrderedSoFar done parts → ∀ r rest,
      Reader.results (alternatives mode names done parts) t = some (r, rest) → r.1.Ordered)
    (h : OrderedSoFar done parts) (hr : Reader.results (alternatives mode names done parts) s = some (r, rest)) :
    r.1.Ordered := by
  cases hdrop : dropSpace mode s with
  | nil =>
    rw [results_alternatives_nil hdrop] at hr
    cases hr
    exact h.join
  | cons c s' =>
    have hmore {mode : Mode} {names : List (List Char)} {done : Option (Nested Regex)} {parts : Parts}
        {t rest : List Char} {r : Nested Regex × List (List Char)} (ht : t.length ≤ s'.length)
        (h : OrderedSoFar done parts)
        (hr : Reader.results (alternatives mode names done parts) t = some (r, rest)) : r.1.Ordered :=
      hshorter mode names done parts t (Nat.lt_of_le_of_lt ht (length_lt_of_dropSpace hdrop)) h r rest hr
    rw [results_alternatives_cons hdrop] at hr
    split at hr
    next =>
      cases hr
      exact h.join
    next =>
      split at hr
      next => exact hmore (Nat.le_refl _) (orderedSoFar_nil (by rintro _ ⟨⟩; exact h.addAlternative)) hr
      next =>
        split at hr
        next =>
          rw [results_bind] at hr
          obtain ⟨⟨head, t⟩, hhead, hr⟩ := Option.bind_eq_some_iff.1 hr
          have ht := length_le_of_results hhead
          cases head with
          | directive mode' => exact hmore ht h.pushDirective hr
          | group mode' name =>
            have hgroup := (results_bind (closedGroup mode' (name.toList ++ names)) _ t).symm.trans hr
            obtain ⟨⟨⟨b, names'⟩, t'⟩, hb, hr⟩ := Option.bind_eq_some_iff.1 hgroup
            have hordered := hmore ht (orderedSoFar_nil (by simp)) (results_closedGroup_eq_some_iff.1 hb)
            exact hmore (Nat.le_trans (length_le_of_results hb) ht) (h.push (a := ⟨b.value, b.depth + 1⟩) hordered) hr
        next =>
          split at hr
          next =>
            split at hr
            next a parts' =>
              obtain ⟨⟨b, t⟩, hbounds, hr⟩ := Option.bind_eq_some_iff.1 hr
              have hloop : (⟨loop a.value b.1 b.2, a.depth + 1⟩ : Nested Regex).Ordered :=
                ⟨h.2 a List.mem_cons_self, ordered_loopBounds c s' b t hbounds⟩
              have hbefore : OrderedSoFar done parts' := ⟨h.1, fun b hb => h.2 b (List.mem_cons_of_mem _ hb)⟩
              exact hmore (length_le_of_results hbounds) (hbefore.push hloop) hr
            next => cases hr
          next =>
            obtain ⟨⟨b, t⟩, hsingle, hr⟩ := Option.bind_eq_some_iff.1 hr
            exact hmore (length_le_of_results hsingle) (h.push (ordered_single c s' b t hsingle)) hr

private theorem ordered_alternatives (h : OrderedSoFar done parts) :
    Reader.Yields (alternatives mode names done parts) fun r => r.1.Ordered := by
  intro s
  induction s using (measure List.length).wf.induction generalizing mode names done parts with
  | _ s ih =>
    intro r rest hr
    exact ordered_of_results (fun mode names done parts t ht hsofar => ih t ht hsofar) h hr

/-! ### Whole texts -/

theorem read_eq_some_iff {s : List Char} {a : Nested Regex} :
    read mode s = some a ↔ ∃ names, Reader.results (alternatives mode [] none []) s = some ((a, names), []) := by
  have hresults : Reader.results (alternatives mode [] none []) s =
      (alternatives mode [] none [] s).map Text.Reading.result := rfl
  rw [hresults, read]
  constructor
  · intro h
    split at h
    next names hle hread =>
      cases h
      exact ⟨names, by rw [hread]; rfl⟩
    next => cases h
  · rintro ⟨names, h⟩
    obtain ⟨⟨⟨b, names'⟩, rest, hle⟩, hread, hr⟩ := Option.map_eq_some_iff.1 h
    cases hr
    rw [hread]

theorem parse_eq_some_iff {s : List Char} {a : Regex} :
    parse mode s = some a ↔ ∃ depth ≤ nestLimit, read mode s = some ⟨a, depth⟩ := by
  rw [parse, Option.map_eq_some_iff]
  constructor
  · rintro ⟨⟨b, depth⟩, hread, rfl⟩
    obtain ⟨hread, hdepth⟩ := Option.filter_eq_some_iff.1 hread
    exact ⟨depth, of_decide_eq_true hdepth, hread⟩
  · rintro ⟨depth, hdepth, hread⟩
    exact ⟨⟨a, depth⟩, Option.filter_eq_some_iff.2 ⟨hread, decide_eq_true hdepth⟩, rfl⟩

-- two groups around a choice, and brackets within brackets in a loop
example : (read {} "((a|b)[c&&d[e]]*)".toList).map Nested.depth = some 7 := by decide +kernel

/-- No loop in what is read asks for more rounds than it allows. -/
theorem ordered_of_parse {s : List Char} {a : Regex} (h : parse mode s = some a) : a.Ordered := by
  obtain ⟨depth, -, hread⟩ := parse_eq_some_iff.1 h
  obtain ⟨names, hall⟩ := read_eq_some_iff.1 hread
  exact ordered_alternatives (orderedSoFar_nil (by simp)) s (⟨a, depth⟩, names) [] hall

end PagePolicy.Regex
