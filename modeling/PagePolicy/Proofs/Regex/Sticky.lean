import PagePolicy.Proofs.Regex.ClosingGroup
import PagePolicy.Proofs.Regex.Flags
import PagePolicy.Regex.Literal

/-! Sticky regular expressions. The flag puts the body into a group after the condition that the text starts there,
which does what it is meant to unless the parenthesis that closes the group is not read as its end. -/

namespace PagePolicy.Regex

open Text (Reader)
open Text.Reader

section
variable {mode : Mode}

/-- Whether a text is read up to a parenthesis that closes nothing. -/
def ClosesUnopened (mode : Mode) (s : List Char) : Prop :=
  ∃ r rest, Reader.results (alternatives mode [] none []) s = some (r, ')' :: rest)

private theorem ClosesUnopened.read_eq_none {s : List Char} (h : ClosesUnopened mode s) : read mode s = none := by
  obtain ⟨r, rest, hopen⟩ := h
  cases hread : read mode s with
  | none => rfl
  | some a =>
    obtain ⟨names, hall⟩ := read_eq_some_iff.1 hread
    rw [hopen] at hall
    cases hall

/-- A group that begins where the text begins, after which nothing is allowed. -/
def atStart (a : Regex) : Regex :=
  seq (assert .textStart) (seq a empty)

private theorem joinAlternatives_atStart (a : Nested Regex) :
    joinAlternatives none [some ⟨a.value, a.depth + 1⟩, some (.leaf (assert .textStart))] =
      ⟨atStart a.value, a.depth + 2⟩ := by
  have hdepth : rowDepth [a.depth + 1, 0] = a.depth + 2 := by simp [rowDepth]
  exact congrArg (Nested.mk _) hdepth

/-- The text of a group after the condition that the text starts there is read as that condition, the group and
whatever follows the group. -/
theorem read_group_eq_some_iff (hmode : mode.spaced = false) (s : List Char) (b : Nested Regex) :
    read mode ("\\A(?:".toList ++ s) = some b ↔
      ∃ a names rest, Reader.results (alternatives mode [] none []) s = some ((a, names), ')' :: rest) ∧
        ∃ names', Reader.results (alternatives mode names none
          [some ⟨a.value, a.depth + 1⟩, some (.leaf (assert .textStart))]) rest = some ((b, names'), []) := by
  have hdrop (t : List Char) : dropSpace mode t = t := by rw [dropSpace, hmode]; rfl
  have htext : "\\A(?:".toList ++ s = '\\' :: 'A' :: '(' :: '?' :: ':' :: s := rfl
  have hassert : (single mode '\\').results ('A' :: '(' :: '?' :: ':' :: s) =
      some (.leaf (assert .textStart), '(' :: '?' :: ':' :: s) := rfl
  have hhead : (groupHead mode []).results ('?' :: ':' :: s) = some (.group mode none, s) := by
    rw [groupHead, results_bind, results_skipSpace, hdrop]
    rfl
  have hgroup : Reader.results (alternatives mode [] none []) ("\\A(?:".toList ++ s) =
      (afterHead mode [] none [some (.leaf (assert .textStart))] (.group mode none)).results s := by
    rw [htext, results_alternatives_cons (hdrop _), if_neg (by decide), if_neg (by decide), if_neg (by decide),
      if_neg (by decide), hassert, Option.bind_some]
    dsimp only
    rw [results_alternatives_cons (hdrop _), if_neg (by decide), if_neg (by decide), if_pos rfl, results_bind, hhead,
      Option.bind_some]
  have hbind := results_bind (closedGroup mode [])
    (fun r => alternatives mode r.2 none [some ⟨r.1.value, r.1.depth + 1⟩, some (.leaf (assert .textStart))]) s
  rw [read_eq_some_iff, hgroup]
  constructor
  · rintro ⟨names', h⟩
    obtain ⟨⟨⟨a, names⟩, rest⟩, hclosed, h⟩ := Option.bind_eq_some_iff.1 (hbind.symm.trans h)
    exact ⟨a, names, rest, results_closedGroup_eq_some_iff.1 hclosed, names', h⟩
  · rintro ⟨a, names, rest, hread, names', h⟩
    refine ⟨names', hbind.trans (Option.bind_eq_some_iff.2 ?_)⟩
    exact ⟨_, results_closedGroup_eq_some_iff.2 hread, h⟩

/-- A body that closes no parenthesis of its surroundings is read in a group as it is by itself, two levels deeper,
unless the parenthesis after it is lost in a comment. -/
theorem read_closed_group_eq_some_iff (hmode : mode.spaced = false) {s : List Char}
    (hopened : ¬ ClosesUnopened mode s) (b : Nested Regex) :
    read mode ("\\A(?:".toList ++ (s ++ [')'])) = some b ↔
      ∃ a, read mode s = some a ∧ read mode (s ++ [')']) = none ∧ b = ⟨atStart a.value, a.depth + 2⟩ := by
  have hsteady : SteadyOn ')' s (alternatives mode [] none []) := steady_alternatives s
  rw [read_group_eq_some_iff hmode]
  constructor
  · rintro ⟨a, names, rest, hread, names', hafter⟩
    have hunclosed : ClosesUnopened mode (s ++ [')']) := ⟨_, _, hread⟩
    unfold SteadyOn at hsteady
    rw [hread] at hsteady
    obtain ⟨rest', hbody, hrest⟩ := hsteady.eq_of_left
    cases rest' with
    | nil =>
      obtain ⟨-, rfl⟩ := List.cons.inj hrest
      rw [results_alternatives_nil (dropSpace_nil mode), joinAlternatives_atStart] at hafter
      cases hafter
      exact ⟨a, read_eq_some_iff.2 ⟨names, hbody⟩, hunclosed.read_eq_none, rfl⟩
    | cons c rest' =>
      obtain ⟨rfl, -⟩ := List.cons.inj hrest
      exact (hopened ⟨_, _, hbody⟩).elim
  · rintro ⟨a, hread, hclosed, rfl⟩
    obtain ⟨names, hbody⟩ := read_eq_some_iff.1 hread
    unfold SteadyOn at hsteady
    rw [hbody] at hsteady
    rcases hsteady.eq_of_some with hgroup | ⟨-, hlost⟩
    · refine ⟨a, names, [], hgroup, names, ?_⟩
      rw [results_alternatives_nil (dropSpace_nil mode), joinAlternatives_atStart]
    · rw [read_eq_some_iff.2 ⟨names, hlost⟩] at hclosed
      cases hclosed

/-! ### Matches -/

private theorem matches_atStart {a : Regex} {l u r : List Char} :
    Matches (atStart a) l u r ↔ l = [] ∧ Matches a [] u r := by
  constructor
  · intro h
    cases h with
    | seq hstart hbody =>
      cases hstart with
      | assert hnone =>
        obtain rfl : l = [] := by simpa [Assertion.holds] using hnone
        cases hbody with
        | seq hmatch hend =>
          cases hend
          refine ⟨rfl, ?_⟩
          simpa using hmatch
  · rintro ⟨rfl, h⟩
    have hbody : Matches (seq a empty) [] u r := by
      have hseq := Matches.seq (v := []) h .empty
      rwa [List.append_nil] at hseq
    exact .seq (.assert rfl) hbody

private theorem atStart_occursIn_iff {a : Regex} {s : List Char} :
    (atStart a).OccursIn s ↔ ∃ u r, s = u ++ r ∧ Matches a [] u r := by
  constructor
  · rintro ⟨l, u, r, rfl, h⟩
    obtain ⟨rfl, hmatch⟩ := matches_atStart.1 h
    exact ⟨u, r, rfl, hmatch⟩
  · rintro ⟨u, r, rfl, h⟩
    exact ⟨[], u, r, rfl, matches_atStart.2 ⟨rfl, h⟩⟩

end

/-! ### Literals -/

namespace Literal

variable {body text : String} {flags : Flags} {l : Literal} {n : Nat}

/-- Whether the body of a literal closes a parenthesis that it has not opened. -/
def ClosesUnopened (l : Literal) : Prop :=
  ∃ flags, Flags.parse l.flags = .ok flags ∧ Regex.ClosesUnopened (mode flags) l.body.toList

/-- Whether a literal is written as it must be, nested within a number of levels. -/
def NestedWithin (l : Literal) (n : Nat) : Prop :=
  ∃ flags a, Flags.parse l.flags = .ok flags ∧ read (mode flags) (source l.body.toList flags) = some a ∧ a.depth ≤ n

/-- Whether a literal is written as it must be, nested as deep as it may. -/
def WellWritten (l : Literal) : Prop :=
  ∃ n, l.NestedWithin n

private theorem nestedWithin_iff (h : Flags.parse l.flags = .ok flags) :
    l.NestedWithin n ↔ ∃ a, read (mode flags) (source l.body.toList flags) = some a ∧ a.depth ≤ n := by
  constructor
  · rintro ⟨flags', a, h', hread⟩
    obtain rfl : flags = flags' := Except.ok.inj (h.symm.trans h')
    exact ⟨a, hread⟩
  · rintro ⟨a, hread⟩
    exact ⟨flags, a, h, hread⟩

private theorem wellWritten_iff (h : Flags.parse l.flags = .ok flags) :
    l.WellWritten ↔ ∃ a, read (mode flags) (source l.body.toList flags) = some a := by
  simp only [WellWritten, nestedWithin_iff h]
  constructor
  · rintro ⟨n, a, hread, -⟩
    exact ⟨a, hread⟩
  · rintro ⟨a, hread⟩
    exact ⟨a.depth, a, hread, Nat.le_refl _⟩

/-- Without the letter `y` the flags have a body read as they do with it, but by itself. -/
theorem exists_flags_withoutSticky (h : Flags.parse text = .ok flags) :
    ∃ flags', Flags.parse (Flags.withoutSticky text) = .ok flags' ∧ mode flags' = mode flags ∧
      ∀ s, source s flags' = s := by
  obtain ⟨flags', h', hnot, hsame⟩ := Flags.parse_withoutSticky h
  refine ⟨flags', h', ?_, fun s => ?_⟩
  · rw [mode, mode, hsame .ignoreCase (by decide), hsame .multiLine (by decide), hsame .dotAll (by decide)]
  · rw [source, hnot]
    rfl

private theorem closesUnopened_withoutSticky_iff (h : Flags.parse text = .ok flags) :
    (⟨body, Flags.withoutSticky text⟩ : Literal).ClosesUnopened ↔ Regex.ClosesUnopened (mode flags) body.toList := by
  obtain ⟨flags', h', hmode, -⟩ := exists_flags_withoutSticky h
  constructor
  · rintro ⟨flags'', h'', hcloses⟩
    obtain rfl : flags' = flags'' := Except.ok.inj (h'.symm.trans h'')
    rwa [← hmode]
  · intro hcloses
    exact ⟨flags', h', by rwa [hmode]⟩

private theorem nestedWithin_withoutSticky_iff (h : Flags.parse text = .ok flags) :
    (⟨body, Flags.withoutSticky text⟩ : Literal).NestedWithin n ↔
      ∃ a, read (mode flags) body.toList = some a ∧ a.depth ≤ n := by
  obtain ⟨flags', h', hmode, hsource⟩ := exists_flags_withoutSticky h
  rw [nestedWithin_iff (l := ⟨body, Flags.withoutSticky text⟩) h', hmode, hsource]

private theorem wellWritten_withoutSticky_iff (h : Flags.parse text = .ok flags) :
    (⟨body, Flags.withoutSticky text⟩ : Literal).WellWritten ↔ ∃ a, read (mode flags) body.toList = some a := by
  obtain ⟨flags', h', hmode, hsource⟩ := exists_flags_withoutSticky h
  rw [wellWritten_iff (l := ⟨body, Flags.withoutSticky text⟩) h', hmode, hsource]

private theorem source_of_sticky (h : Flags.parse text = .ok flags) (hsticky : 'y' ∈ text.toList) (s : List Char) :
    source s flags = "\\A(?:".toList ++ (s ++ [')']) := by
  have hcontains : flags.contains .sticky = true := (Flags.mem_of_parse h .sticky).2 hsticky
  rw [source, if_pos hcontains, List.append_assoc]

/-- What a sticky literal is read as, if its body closes no parenthesis of its surroundings. -/
theorem read_sticky_eq_some_iff (h : Flags.parse text = .ok flags) (hsticky : 'y' ∈ text.toList)
    (hopened : ¬ (⟨body, Flags.withoutSticky text⟩ : Literal).ClosesUnopened) {b : Nested Regex} :
    read (mode flags) (source body.toList flags) = some b ↔
      ∃ a, read (mode flags) body.toList = some a ∧
        ¬ (⟨body ++ ")", Flags.withoutSticky text⟩ : Literal).WellWritten ∧
        b = ⟨atStart a.value, a.depth + 2⟩ := by
  rw [closesUnopened_withoutSticky_iff h] at hopened
  have hspaced : (mode flags).spaced = false := rfl
  have hclosed : ¬ (⟨body ++ ")", Flags.withoutSticky text⟩ : Literal).WellWritten ↔
      read (mode flags) (body.toList ++ [')']) = none := by
    have htext : (body ++ ")").toList = body.toList ++ [')'] := String.toList_append
    rw [wellWritten_withoutSticky_iff h, htext, Option.eq_none_iff_forall_ne_some, not_exists]
  rw [source_of_sticky h hsticky, read_closed_group_eq_some_iff hspaced hopened]
  simp only [hclosed]

/-- The flag costs two levels, one for the group and one for what stands before it. -/
theorem nestedWithin_sticky_iff (h : Flags.parse text = .ok flags) (hsticky : 'y' ∈ text.toList)
    (hopened : ¬ (⟨body, Flags.withoutSticky text⟩ : Literal).ClosesUnopened) :
    (⟨body, text⟩ : Literal).NestedWithin (n + 2) ↔
      (⟨body, Flags.withoutSticky text⟩ : Literal).NestedWithin n ∧
        ¬ (⟨body ++ ")", Flags.withoutSticky text⟩ : Literal).WellWritten := by
  rw [nestedWithin_iff (l := ⟨body, text⟩) h, nestedWithin_withoutSticky_iff h]
  simp only [read_sticky_eq_some_iff h hsticky hopened]
  constructor
  · rintro ⟨b, ⟨a, ha, hclosed, rfl⟩, hdepth⟩
    exact ⟨⟨a, ha, Nat.le_of_add_le_add_right hdepth⟩, hclosed⟩
  · rintro ⟨⟨a, ha, hdepth⟩, hclosed⟩
    exact ⟨_, ⟨a, ha, hclosed, rfl⟩, Nat.add_le_add_right hdepth 2⟩

section
variable [Engine]

/-- Whether a literal stands for a regular expression. -/
def Compiles (l : Literal) : Prop :=
  ∃ a, l.compile = .ok a

/-- Whether the engine can compile what a literal is read as within its limit on sizes. -/
def Fits (l : Literal) : Prop :=
  ∃ flags, Flags.parse l.flags = .ok flags ∧ Engine.fits (mode flags) (source l.body.toList flags) = true

private theorem compile_eq_ok_iff {a : Regex} :
    l.compile = .ok a ↔ ∃ flags, Flags.parse l.flags = .ok flags ∧
      Regex.parse (mode flags) (source l.body.toList flags) = some a ∧
      Engine.fits (mode flags) (source l.body.toList flags) = true := by
  rw [compile]
  cases h : Flags.parse l.flags with
  | error e => simp
  | ok flags =>
    dsimp only
    split
    next b hparse hfits => simp [hparse, hfits]
    next hnot =>
      simp only [reduceCtorEq, Except.ok.injEq, false_iff, not_exists]
      rintro _ ⟨rfl, hparse, hfits⟩
      exact hnot a hparse hfits

private theorem compiles_iff : l.Compiles ↔ l.NestedWithin nestLimit ∧ l.Fits := by
  constructor
  · rintro ⟨a, ha⟩
    obtain ⟨flags, h, hparse, hfits⟩ := compile_eq_ok_iff.1 ha
    obtain ⟨depth, hdepth, hread⟩ := parse_eq_some_iff.1 hparse
    exact ⟨⟨flags, _, h, hread, hdepth⟩, flags, h, hfits⟩
  · rintro ⟨⟨flags, a, h, hread, hdepth⟩, flags', h', hfits⟩
    obtain rfl : flags = flags' := Except.ok.inj (h.symm.trans h')
    exact ⟨a.value, compile_eq_ok_iff.2 ⟨flags, h, parse_eq_some_iff.2 ⟨a.depth, hdepth, hread⟩, hfits⟩⟩

private theorem read_of_compile_withoutSticky (h : Flags.parse text = .ok flags) {a : Regex}
    (ha : (⟨body, Flags.withoutSticky text⟩ : Literal).compile = .ok a) :
    ∃ n, read (mode flags) body.toList = some ⟨a, n⟩ := by
  obtain ⟨flags', h', hmode, hsource⟩ := exists_flags_withoutSticky h
  obtain ⟨flags'', h'', hparse, -⟩ := compile_eq_ok_iff.1 ha
  obtain rfl : flags' = flags'' := Except.ok.inj (h'.symm.trans h'')
  rw [hmode, hsource] at hparse
  obtain ⟨n, -, hread⟩ := parse_eq_some_iff.1 hparse
  exact ⟨n, hread⟩

/-- With the flag `y` a literal stands for a regular expression that matches what the one without the flag matches
at the start of a text, if there are both. There are not for every body. One that closes a parenthesis it
has not opened means nothing without the flag. For any other one the flag leaves two levels less and counts the
group around the body, and a body that ends in a comment, which takes in the parenthesis put after it, means
nothing. -/
theorem sticky_only_anchors (haccepted : ∃ flags, Flags.parse text = .ok flags) (hsticky : 'y' ∈ text.toList) :
    let sticky : Literal := ⟨body, text⟩
    let plain : Literal := ⟨body, Flags.withoutSticky text⟩
    let closed : Literal := ⟨body ++ ")", Flags.withoutSticky text⟩
    (plain.ClosesUnopened → ¬ plain.Compiles) ∧
      (plain.Compiles ↔ plain.NestedWithin nestLimit ∧ plain.Fits) ∧
      (¬ plain.ClosesUnopened →
        (sticky.Compiles ↔ plain.NestedWithin (nestLimit - 2) ∧ ¬ closed.WellWritten ∧ sticky.Fits)) ∧
      ∀ a b, plain.compile = .ok a → sticky.compile = .ok b → ∀ s : List Char,
        b.occursIn s = true ↔ ∃ u r, s = u ++ r ∧ Matches a [] u r := by
  intro sticky plain closed
  obtain ⟨flags, h⟩ := haccepted
  have hunopened : plain.ClosesUnopened → ¬ plain.Compiles := by
    intro hcloses hcompiles
    obtain ⟨a, hread, -⟩ := (nestedWithin_withoutSticky_iff h).1 (compiles_iff.1 hcompiles).1
    rw [((closesUnopened_withoutSticky_iff h).1 hcloses).read_eq_none] at hread
    cases hread
  refine ⟨hunopened, compiles_iff, fun hopened => ?_, fun a b ha hb s => ?_⟩
  · rw [compiles_iff, ← and_assoc]
    exact and_congr_left fun _ => nestedWithin_sticky_iff h hsticky hopened
  · have hopened : ¬ plain.ClosesUnopened := fun hcloses => hunopened hcloses ⟨a, ha⟩
    obtain ⟨n, hplain⟩ := read_of_compile_withoutSticky h ha
    obtain ⟨flags', h', hparse, -⟩ := compile_eq_ok_iff.1 hb
    obtain rfl : flags = flags' := Except.ok.inj (h.symm.trans h')
    obtain ⟨m, -, hread⟩ := parse_eq_some_iff.1 hparse
    obtain ⟨a', ha', -, heq⟩ := (read_sticky_eq_some_iff h hsticky hopened).1 hread
    cases hplain.symm.trans ha'
    obtain rfl : b = atStart a := congrArg Nested.value heq
    rw [occursIn_eq_true_iff (ordered_of_parse hparse), atStart_occursIn_iff]

end

/-- The flag anchors both alternatives of a body. -/
theorem sticky_only_anchors_either :
    ∃ a b, (⟨"a|b", "i"⟩ : Literal).compile = .ok a ∧ (⟨"a|b", "iy"⟩ : Literal).compile = .ok b ∧
      ∀ s : List Char, b.occursIn s = true ↔ ∃ u r, s = u ++ r ∧ Matches a [] u r := by
  have hi : Flags.parse "i" = .ok ⟨1⟩ := rfl
  have hiy : Flags.parse "iy" = .ok ⟨65⟩ := rfl
  have hwithout : Flags.withoutSticky "iy" = "i" := by decide +kernel
  obtain ⟨hunopened, hplain, hsticky, hmatches⟩ := @sticky_only_anchors "a|b" "iy" _ ⟨⟨65⟩, hiy⟩ (by decide)
  rw [hwithout] at hunopened hplain hsticky hmatches
  have hread : (read (mode ⟨1⟩) "a|b".toList).any (·.depth ≤ nestLimit - 2) = true := by decide +kernel
  obtain ⟨a, ha, hdepth⟩ := (Option.any_eq_true _ _).1 hread
  have hnested : (⟨"a|b", "i"⟩ : Literal).NestedWithin (nestLimit - 2) :=
    ⟨⟨1⟩, a, hi, ha, of_decide_eq_true hdepth⟩
  have hclosed : ¬ (⟨"a|b" ++ ")", "i"⟩ : Literal).WellWritten := by
    have hnone : read (mode ⟨1⟩) (source ("a|b" ++ ")").toList ⟨1⟩) = none :=
      Option.isNone_iff_eq_none.1 (by decide +kernel)
    rw [wellWritten_iff (l := ⟨"a|b" ++ ")", "i"⟩) hi]
    rintro ⟨b, hb⟩
    rw [hnone] at hb
    cases hb
  have hcompiles : (⟨"a|b", "i"⟩ : Literal).Compiles := 
    hplain.2 ⟨⟨⟨1⟩, a, hi, ha, Nat.le_trans (of_decide_eq_true hdepth) (Nat.sub_le _ _)⟩, ⟨1⟩, hi, rfl⟩
  obtain ⟨b, hb⟩ := (hsticky fun hcloses => hunopened hcloses hcompiles).2 ⟨hnested, hclosed, ⟨65⟩, hiy, rfl⟩
  obtain ⟨a, ha⟩ := hcompiles
  exact ⟨a, b, ha, hb, hmatches a b ha hb⟩

/-- A body that is none by itself can be joined to the group around it, and its end is not anchored there. -/
example : (⟨"a)|(?:b", ""⟩ : Literal).compile.toOption.isNone = true ∧
    (⟨"a)|(?:b", "y"⟩ : Literal).compile.toOption.any (·.occursIn "xb".toList) = true :=
  ⟨by decide +kernel, by decide +kernel⟩

end Literal

end PagePolicy.Regex
