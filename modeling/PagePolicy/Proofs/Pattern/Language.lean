import PagePolicy.Proofs.Regex.Search
import PagePolicy.Proofs.Regex.Spelled
import PagePolicy.Pattern.Basic

/-! The texts that a glob stands for. A glob is read as a regular expression that is written with escapes,
and its stars are the only characters of it that stand for anything but themselves. -/

namespace PagePolicy

namespace Glob

/-- A glob stands for a text when the text is the glob with something without a line feed in place of each
star. The pieces after the stars are paired with what stands before them. -/
def Stands (glob text : List Char) : Prop :=
  ∃ (first : List Char) (later : List (List Char × List Char)),
    '*' ∉ first ∧ (∀ p ∈ later, '\n' ∉ p.1 ∧ '*' ∉ p.2) ∧
      glob = first ++ later.flatMap (fun p => '*' :: p.2) ∧
      text = first ++ later.flatMap fun p => p.1 ++ p.2

section
variable {c : Char} {s t : List Char}

theorem stands_nil : Stands [] t ↔ t = [] := by
  constructor
  · rintro ⟨first, later, -, -, hglob, rfl⟩
    obtain ⟨rfl, hlater⟩ := List.append_eq_nil_iff.1 hglob.symm
    cases later with
    | nil => rfl
    | cons => cases hlater
  · rintro rfl
    exact ⟨[], [], nofun, nofun, rfl, rfl⟩

theorem stands_star : Stands ('*' :: s) t ↔ ∃ w v, t = w ++ v ∧ '\n' ∉ w ∧ Stands s v := by
  constructor
  · rintro ⟨_ | ⟨d, first⟩, later, hfirst, hlater, hglob, rfl⟩
    · cases later with
      | nil => cases hglob
      | cons p later =>
        obtain ⟨hp, hlater⟩ := List.forall_mem_cons.1 hlater
        obtain rfl := (List.cons.inj hglob).2
        exact ⟨p.1, _, by simp, hp.1, p.2, later, hp.2, hlater, rfl, rfl⟩
    · obtain rfl := (List.cons.inj hglob).1
      exact absurd List.mem_cons_self hfirst
  · rintro ⟨w, v, rfl, hw, first, later, hfirst, hlater, rfl, rfl⟩
    refine ⟨[], (w, first) :: later, nofun, List.forall_mem_cons.2 ⟨⟨hw, hfirst⟩, hlater⟩, rfl, ?_⟩
    simp

theorem stands_cons (hc : c ≠ '*') : Stands (c :: s) t ↔ ∃ v, t = c :: v ∧ Stands s v := by
  constructor
  · rintro ⟨_ | ⟨d, first⟩, later, hfirst, hlater, hglob, rfl⟩
    · cases later with
      | nil => cases hglob
      | cons p later => exact absurd (List.cons.inj hglob).1 hc
    · obtain ⟨rfl, rfl⟩ := List.cons.inj hglob
      exact ⟨_, rfl, first, later, fun h => hfirst (List.mem_cons_of_mem _ h), hlater, rfl, rfl⟩
  · rintro ⟨v, rfl, first, later, hfirst, hlater, rfl, rfl⟩
    exact ⟨c :: first, later, by simp [hfirst, Ne.symm hc], hlater, rfl, rfl⟩

/-- A text that a glob stands for has all characters of the glob but the stars. -/
theorem mem_of_stands (h : Stands s t) (hc : c ∈ s) (hstar : c ≠ '*') : c ∈ t := by
  obtain ⟨first, later, -, -, rfl, rfl⟩ := h
  rcases List.mem_append.1 hc with hc | hc
  · exact List.mem_append_left _ hc
  · obtain ⟨p, hp, hc⟩ := List.mem_flatMap.1 hc
    have hpiece := (List.mem_cons.1 hc).resolve_left hstar
    exact List.mem_append_right _ (List.mem_flatMap.2 ⟨p, hp, List.mem_append_right _ hpiece⟩)

/-- What stands before the first star of a glob stands for itself. -/
theorem stands_append {u : List Char} (hs : '*' ∉ s) :
    Stands (s ++ u) t ↔ ∃ v, t = s ++ v ∧ Stands u v := by
  induction s generalizing t with
  | nil => simp
  | cons c s ih =>
    rw [List.mem_cons, not_or] at hs
    obtain ⟨hc, hs⟩ := hs
    rw [List.cons_append, stands_cons (Ne.symm hc)]
    simp only [ih hs]
    constructor
    · rintro ⟨_, rfl, v, rfl, hv⟩
      exact ⟨v, rfl, hv⟩
    · rintro ⟨v, rfl, hv⟩
      exact ⟨_, rfl, v, rfl, hv⟩

/-- Between two stars a glob looks for what it has there. -/
theorem stands_between_stars (hs : '*' ∉ s) (ht : '\n' ∉ t) :
    Stands ('*' :: (s ++ ['*'])) t ↔ s <:+: t := by
  rw [stands_star]
  constructor
  · rintro ⟨before, _, rfl, -, hstands⟩
    obtain ⟨after, rfl, -⟩ := (stands_append hs).1 hstands
    exact ⟨before, after, List.append_assoc ..⟩
  · rintro ⟨before, after, rfl⟩
    have hbefore : '\n' ∉ before := fun h => ht (List.mem_append_left _ (List.mem_append_left _ h))
    have hafter : '\n' ∉ after := fun h => ht (List.mem_append_right _ h)
    have hstands : Stands ['*'] after :=
      stands_star.2 ⟨after, [], (List.append_nil _).symm, hafter, stands_nil.2 rfl⟩
    exact ⟨before, _, List.append_assoc .., hbefore, (stands_append hs).2 ⟨after, rfl, hstands⟩⟩

/-- A glob stands for itself. -/
theorem stands_self (hs : '\n' ∉ s) : Stands s s := by
  induction s with
  | nil => exact stands_nil.2 rfl
  | cons c s ih =>
    rw [List.mem_cons, not_or] at hs
    by_cases hc : c = '*'
    · subst hc
      exact stands_star.2 ⟨['*'], s, rfl, by decide, ih hs.2⟩
    · exact (stands_cons hc).2 ⟨s, rfl, ih hs.2⟩

/-- What a glob has between its stars is in every text that it stands for. -/
theorem infix_of_stands {word : List Char} (h : Stands s t) (hword : word <:+: s) (hstar : '*' ∉ word) :
    word <:+: t := by
  obtain ⟨before, after, rfl⟩ := hword
  induction before generalizing t with
  | nil =>
    rw [List.nil_append, stands_append hstar] at h
    obtain ⟨v, rfl, -⟩ := h
    exact List.infix_append_left
  | cons c before ih =>
    by_cases hc : c = '*'
    · subst hc
      obtain ⟨w, v, rfl, -, hv⟩ := stands_star.1 h
      exact List.infix_append_of_infix_right (ih hv)
    · obtain ⟨v, rfl, hv⟩ := (stands_cons hc).1 h
      exact List.infix_cons (ih hv)

end

end Glob

namespace Regex

/-! ### What the regular expression of a glob matches -/

/-- The regular expression for a character of a glob. -/
def ofGlobChar (c : Char) : Regex :=
  if c = '*' then anyLine else one (.single c)

section
variable {a : Regex} {l t r : List Char}

private theorem matches_chain_cons {parts : List Regex} :
    Matches (chain (a :: parts)) l t r ↔
      ∃ u v, t = u ++ v ∧ Matches a l u (v ++ r) ∧ Matches (chain parts) (l ++ u) v r := by
  constructor
  · rintro (_ | _ | _ | ⟨ha, hb⟩)
    exact ⟨_, _, rfl, ha, hb⟩
  · rintro ⟨u, v, rfl, ha, hb⟩
    exact .seq ha hb

private theorem matches_chain_nil : Matches (chain []) l t r ↔ t = [] := by
  constructor
  · rintro ⟨⟩
    rfl
  · rintro rfl
    exact .empty

private theorem matches_chain_append {as bs : List Regex} :
    Matches (chain (as ++ bs)) l t r ↔
      ∃ u v, t = u ++ v ∧ Matches (chain as) l u (v ++ r) ∧ Matches (chain bs) (l ++ u) v r := by
  induction as generalizing l t with
  | nil => simp [matches_chain_nil]
  | cons a as ih =>
    rw [List.cons_append, matches_chain_cons]
    simp only [ih, matches_chain_cons]
    constructor
    · rintro ⟨u, _, rfl, ha, v, w, rfl, has, hbs⟩
      rw [List.append_assoc] at ha hbs
      exact ⟨u ++ v, w, (List.append_assoc ..).symm, ⟨u, v, rfl, ha, has⟩, hbs⟩
    · rintro ⟨_, w, rfl, ⟨u, v, rfl, ha, has⟩, hbs⟩
      rw [← List.append_assoc] at hbs
      exact ⟨u, v ++ w, List.append_assoc .., by rwa [List.append_assoc], v, w, rfl, has, hbs⟩

private theorem matches_single {c : Char} : Matches (one (.single c)) l t r ↔ t = [c] := by
  constructor
  · rintro (_ | h)
    rw [CharClass.contains_single.1 h]
  · rintro rfl
    exact .one (CharClass.contains_single.2 rfl)

private theorem matches_anyLine : Matches anyLine l t r ↔ '\n' ∉ t := by
  have hclass (c : Char) : (CharClass.allBut ['\n']).contains c = true ↔ c ≠ '\n' := by
    have hsingle : (CharClass.allBut ['\n']).contains c = !(CharClass.single '\n').contains c := rfl
    rw [hsingle, Bool.not_eq_true', ← Bool.not_eq_true, CharClass.contains_single]
  constructor
  · intro h
    obtain ⟨n, -, -, hn⟩ := matches_loop.1 h
    clear h
    induction n generalizing l t with
    | zero =>
      obtain rfl := matches_rounds_zero.1 hn
      exact List.not_mem_nil
    | succ n ih =>
      cases matches_rounds_succ.1 hn with
      | seq ha hl =>
        cases ha with
        | one hc =>
          rw [List.singleton_append, List.mem_cons, not_or]
          exact ⟨Ne.symm ((hclass _).1 hc), ih hl⟩
  · intro h
    induction t generalizing l with
    | nil => exact .loopEnd
    | cons c t ih =>
      rw [List.mem_cons, not_or] at h
      have hfirst : Matches (one (.allBut ['\n'])) l [c] (t ++ r) := .one ((hclass c).2 (Ne.symm h.1))
      have hmost : (none : Option Nat) ≠ some 0 := nofun
      exact .loopNext hmost hfirst (ih h.2)

/-- Whatever is around a text, the regular expressions for the characters of a glob match it one after
another exactly when the glob stands for it. -/
theorem matches_glob {glob : List Char} :
    Matches (chain (glob.map ofGlobChar)) l t r ↔ Glob.Stands glob t := by
  induction glob generalizing l t with
  | nil => exact matches_chain_nil.trans Glob.stands_nil.symm
  | cons c glob ih =>
    rw [List.map_cons, matches_chain_cons]
    simp only [ih]
    by_cases hc : c = '*'
    · subst hc
      simp only [ofGlobChar, if_true, matches_anyLine, Glob.stands_star]
    · simp only [ofGlobChar, if_neg hc, matches_single, Glob.stands_cons hc]
      constructor
      · rintro ⟨_, v, rfl, rfl, hv⟩
        exact ⟨v, rfl, hv⟩
      · rintro ⟨v, rfl, hv⟩
        exact ⟨[c], v, rfl, rfl, hv⟩

private theorem ordered_chain {parts : List Regex} (h : ∀ a ∈ parts, a.Ordered) : (chain parts).Ordered := by
  induction parts with
  | nil => trivial
  | cons a parts ih =>
    obtain ⟨ha, hparts⟩ := List.forall_mem_cons.1 h
    exact ⟨ha, ih hparts⟩

private theorem ordered_of_mem_glob {glob : List Char} {a : Regex} (h : a ∈ glob.map ofGlobChar) :
    a.Ordered := by
  obtain ⟨c, -, rfl⟩ := List.mem_map.1 h
  unfold ofGlobChar
  split
  · exact ⟨trivial, nofun⟩
  · trivial

end

/-! ### How the regular expression of a glob is written -/

private theorem spells_escapeChar (c : Char) : Spells (escapeChar c) [one (.single c)] := by
  unfold escapeChar
  split
  next h =>
    refine spells_of_single (by decide) (by decide) fun rest => ?_
    simp only [signs, List.mem_cons, List.not_mem_nil, or_false] at h
    rcases h with rfl | rfl | rfl | rfl | rfl | rfl | rfl | rfl | rfl | rfl | rfl | rfl | rfl | rfl | rfl |
      rfl | rfl | rfl <;> exact ⟨_, rfl⟩
  next h =>
    simp only [signs, List.mem_cons, List.not_mem_nil, or_false, not_or] at h
    refine spells_of_single (by tauto) (by simp [loopSigns]; tauto) fun rest => ?_
    have hsingle : single {} c = pure (.leaf (one (.single c))) := by
      rw [single] <;> first | rfl | tauto
    exact ⟨Nat.le_refl _, by rw [hsingle]; rfl⟩

private theorem spells_anyLine : Spells ['.', '*'] [anyLine] := by
  have hdot : Spells ['.'] [one (.allBut ['\n'])] :=
    spells_of_single (by decide) (by decide) fun _ => ⟨_, rfl⟩
  exact hdot.star rfl

end Regex

namespace Glob

private theorem regexText_star (s : List Char) : regexText ('*' :: s) = ['.', '*'] ++ regexText s := by
  obtain ⟨piece, pieces, hs⟩ := List.exists_cons_of_ne_nil (List.splitOn_ne_nil '*' s)
  rw [regexText, List.splitOn_cons_eq_if_modifyHead, if_pos (beq_self_eq_true _), regexText, hs]
  rfl

private theorem regexText_cons {c : Char} (hc : c ≠ '*') (s : List Char) :
    regexText (c :: s) = Regex.escapeChar c ++ regexText s := by
  obtain ⟨piece, pieces, hs⟩ := List.exists_cons_of_ne_nil (List.splitOn_ne_nil '*' s)
  have hpiece : Regex.escapeText (c :: piece) = Regex.escapeChar c ++ Regex.escapeText piece := rfl
  rw [regexText, List.splitOn_cons_eq_if_modifyHead, if_neg (by simpa using hc), regexText, hs, List.modifyHead_cons,
    List.map_cons, List.map_cons, hpiece]
  cases pieces <;> simp [List.intercalate]

/-- The text of the regular expression for a glob spells its characters one after another: no escape and no
star goes over into the next one. -/
theorem spells_regexText (glob : List Char) :
    Regex.Spells (regexText glob) (glob.map Regex.ofGlobChar) := by
  induction glob with
  | nil => exact .nil
  | cons c glob ih =>
    by_cases hc : c = '*'
    · subst hc
      rw [regexText_star]
      exact Regex.spells_anyLine.append ih
    · rw [regexText_cons hc, List.map_cons, Regex.ofGlobChar, if_neg hc]
      exact (Regex.spells_escapeChar c).append ih

theorem parse_regexText (glob : List Char) :
    Regex.parse {} (regexText glob) = some (Regex.chain (glob.map Regex.ofGlobChar)) :=
  (spells_regexText glob).parse_eq

/-- The regular expression that a glob has to match from end to end. -/
def anchored (glob : List Char) : Regex :=
  Regex.chain (.assert .textStart :: glob.map Regex.ofGlobChar ++ [.assert .textEnd])

theorem parse_anchoredText (glob : List Char) :
    Regex.parse {} (anchoredText glob) = some (anchored glob) := by
  have hstart : Regex.Spells ['^'] [.assert .textStart] :=
    Regex.spells_of_single (by decide) (by decide) fun _ => ⟨_, rfl⟩
  have hend : Regex.Spells ['$'] [.assert .textEnd] :=
    Regex.spells_of_single (by decide) (by decide) fun _ => ⟨_, rfl⟩
  exact ((hstart.append (spells_regexText glob)).append hend).parse_eq

/-- Between the start and the end of a text there is the whole of it. -/
theorem occursIn_anchored (glob s : List Char) : (anchored glob).OccursIn s ↔ Stands glob s := by
  constructor
  · rintro ⟨l, u, r, rfl, hm⟩
    rw [anchored, Regex.matches_chain_append] at hm
    obtain ⟨u, v, rfl, hm, hend⟩ := hm
    obtain ⟨a, b, rfl, hstart, hglob⟩ := Regex.matches_chain_cons.1 hm
    obtain ⟨c, d, rfl, hassert, hnil⟩ := Regex.matches_chain_cons.1 hend
    obtain rfl := Regex.matches_chain_nil.1 hnil
    cases hstart with
    | assert hstart =>
      cases hassert with
      | assert hassert =>
        obtain rfl := List.getLast?_eq_none_iff.1 (Option.isNone_iff_eq_none.1 hstart)
        obtain rfl := List.head?_eq_none_iff.1 (Option.isNone_iff_eq_none.1 hassert)
        simpa using Regex.matches_glob.1 hglob
  · intro h
    refine ⟨[], s, [], by simp, ?_⟩
    rw [anchored, Regex.matches_chain_append]
    have hstart : Regex.Matches (.assert .textStart) [] [] s := .assert rfl
    have hend : Regex.Matches (.assert .textEnd) s [] [] := .assert rfl
    refine ⟨s, [], by simp, Regex.matches_chain_cons.2 ⟨[], s, rfl, ?_, Regex.matches_glob.2 h⟩,
      Regex.matches_chain_cons.2 ⟨[], [], rfl, hend, Regex.matches_chain_nil.2 rfl⟩⟩
    simpa using hstart

private theorem ordered_anchored (glob : List Char) : (anchored glob).Ordered := by
  refine Regex.ordered_chain fun a ha => ?_
  rcases List.mem_append.1 ha with ha | ha
  · rcases List.mem_cons.1 ha with rfl | ha
    · trivial
    · exact Regex.ordered_of_mem_glob ha
  · obtain rfl := List.mem_singleton.1 ha
    trivial

theorem anchored_occursIn_iff (glob s : List Char) :
    (anchored glob).occursIn s = true ↔ Stands glob s := by
  rw [Regex.occursIn_eq_true_iff (ordered_anchored glob), occursIn_anchored]

/-- Without the ends of the text around it, the regular expression for a glob looks for a part of the text. -/
theorem unanchored_occursIn_iff (glob s : List Char) :
    (Regex.chain (glob.map Regex.ofGlobChar)).occursIn s = true ↔ ∃ part, part <:+: s ∧ Stands glob part := by
  have hordered : (Regex.chain (glob.map Regex.ofGlobChar)).Ordered :=
    Regex.ordered_chain fun _ => Regex.ordered_of_mem_glob
  rw [Regex.occursIn_eq_true_iff hordered]
  constructor
  · rintro ⟨before, part, after, hs, hmatches⟩
    exact ⟨part, ⟨before, after, hs.symm⟩, Regex.matches_glob.1 hmatches⟩
  · rintro ⟨part, ⟨before, after, hs⟩, hstands⟩
    exact ⟨before, part, after, hs.symm, Regex.matches_glob.2 hstands⟩

end Glob

end PagePolicy
