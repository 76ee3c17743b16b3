import PagePolicy.Proofs.Text.Search

/-! Texts in which every occurrence of a mark is replaced by another text. The occurrences are found from the
left, so that a text is passed over mark by mark and character by character. -/

namespace PagePolicy.Text

section
variable {mark by' : List Char}

private theorem replaceAll_of_none {s : List Char} (h : splitAtFirst mark s = none) :
    replaceAll mark by' s = s := by
  rw [replaceAll]
  split
  next => rfl
  next hsome => cases h.symm.trans hsome

private theorem replaceAll_of_some (hmark : mark ≠ []) {s before after : List Char}
    (h : splitAtFirst mark s = some (before, after)) :
    replaceAll mark by' s = before ++ by' ++ replaceAll mark by' after := by
  rw [replaceAll]
  split
  next hnone => cases h.symm.trans hnone
  next hsome =>
    cases h.symm.trans hsome
    rw [dif_neg hmark]

theorem replaceAll_nil (hmark : mark ≠ []) : replaceAll mark by' [] = [] :=
  replaceAll_of_none (if_neg hmark)

theorem replaceAll_mark (hmark : mark ≠ []) (s : List Char) :
    replaceAll mark by' (mark ++ s) = by' ++ replaceAll mark by' s := by
  have hsplit : splitAtFirst mark (mark ++ s) = some ([], s) := by
    obtain ⟨c, rest, rfl⟩ := List.exists_cons_of_ne_nil hmark
    have hprefix : (c :: rest).isPrefixOf (c :: (rest ++ s)) = true :=
      List.isPrefixOf_iff_prefix.2 (List.prefix_append (c :: rest) s)
    rw [List.cons_append, splitAtFirst, if_pos hprefix, ← List.cons_append, List.drop_left]
  rw [replaceAll_of_some hmark hsplit, List.nil_append]

theorem replaceAll_cons {c : Char} {s : List Char} (hnot : ¬ mark <+: c :: s) :
    replaceAll mark by' (c :: s) = c :: replaceAll mark by' s := by
  have hmark : mark ≠ [] := by
    rintro rfl
    exact hnot List.nil_prefix
  have hstep : ¬ mark.isPrefixOf (c :: s) = true := mt List.isPrefixOf_iff_prefix.1 hnot
  cases hs : splitAtFirst mark s with
  | none =>
    have hsplit : splitAtFirst mark (c :: s) = none := by rw [splitAtFirst, if_neg hstep, hs, Option.map_none]
    rw [replaceAll_of_none hsplit, replaceAll_of_none hs]
  | some parts =>
    obtain ⟨before, after⟩ := parts
    have hsplit : splitAtFirst mark (c :: s) = some (c :: before, after) := by
      rw [splitAtFirst, if_neg hstep, hs, Option.map_some]
    rw [replaceAll_of_some hmark hsplit, replaceAll_of_some hmark hs]
    simp

/-- A text is empty, or a mark comes next, or a character at which no mark begins. -/
theorem passing_induction {motive : List Char → Prop} (hmark : mark ≠ []) (nil : motive [])
    (found : ∀ s, motive s → motive (mark ++ s))
    (kept : ∀ c s, ¬ mark <+: c :: s → motive s → motive (c :: s)) (s : List Char) : motive s := by
  induction hn : s.length using Nat.strong_induction_on generalizing s with
  | _ n ih =>
    subst hn
    cases s with
    | nil => exact nil
    | cons c s =>
      by_cases hprefix : mark <+: c :: s
      · obtain ⟨rest, hrest⟩ := hprefix
        have hlength : mark.length + rest.length = (c :: s).length := by
          rw [← hrest, List.length_append]
        have hpos : 0 < mark.length := List.length_pos_iff.2 hmark
        rw [← hrest]
        exact found rest (ih rest.length (by omega) rest rfl)
      · exact kept c s hprefix (ih s.length (Nat.lt_succ_self _) s rfl)

theorem replaceAll_of_not_infix (hmark : mark ≠ []) {s : List Char} (h : ¬ mark <:+: s) :
    replaceAll mark by' s = s := by
  induction s with
  | nil => exact replaceAll_nil hmark
  | cons c s ih =>
    rw [List.infix_cons_iff, not_or] at h
    rw [replaceAll_cons h.1, ih h.2]

theorem replaceAll_ne_nil (hmark : mark ≠ []) (hby : by' ≠ []) {s : List Char} (hs : s ≠ []) :
    replaceAll mark by' s ≠ [] := by
  induction s using passing_induction hmark with
  | nil => exact absurd rfl hs
  | found s =>
    rw [replaceAll_mark hmark]
    exact List.append_ne_nil_of_left_ne_nil hby _
  | kept c s hnot =>
    rw [replaceAll_cons hnot]
    exact List.cons_ne_nil _ _

theorem mem_replaceAll (hmark : mark ≠ []) {s : List Char} {c : Char} (h : c ∈ replaceAll mark by' s) :
    c ∈ by' ∨ c ∈ s := by
  induction s using passing_induction hmark with
  | nil =>
    rw [replaceAll_nil hmark] at h
    exact .inr h
  | found s ih =>
    rw [replaceAll_mark hmark] at h
    rcases List.mem_append.1 h with h | h
    · exact .inl h
    · exact (ih h).imp_right (List.mem_append_right mark)
  | kept d s hnot ih =>
    rw [replaceAll_cons hnot] at h
    rcases List.mem_cons.1 h with rfl | h
    · exact .inr List.mem_cons_self
    · exact (ih h).imp_right (List.mem_cons_of_mem d)

/-- A character that no mark has parts a text into pieces that are replaced one by one. -/
theorem replaceAll_append_cons (hmark : mark ≠ []) {c : Char} (hc : c ∉ mark) (s t : List Char) :
    replaceAll mark by' (s ++ c :: t) = replaceAll mark by' s ++ c :: replaceAll mark by' t := by
  induction s using passing_induction hmark with
  | nil =>
    have hnot : ¬ mark <+: c :: t := by
      intro hprefix
      obtain ⟨d, rest, rfl⟩ := List.exists_cons_of_ne_nil hmark
      exact hc ((List.cons_prefix_cons.1 hprefix).1 ▸ List.mem_cons_self)
    rw [List.nil_append, replaceAll_cons hnot, replaceAll_nil hmark, List.nil_append]
  | found s ih =>
    rw [List.append_assoc, replaceAll_mark hmark, replaceAll_mark hmark, ih, List.append_assoc]
  | kept d s hnot ih =>
    have hnot' : ¬ mark <+: d :: (s ++ c :: t) := fun hprefix =>
      hnot (prefix_of_prefix_append hc (.inr rfl) hprefix)
    rw [List.cons_append, replaceAll_cons hnot', replaceAll_cons hnot, ih, List.cons_append]

section
variable {c : Char} {s : List Char}

/-- What begins a text with marks replaced by a character, without having that character, begins the text. -/
theorem prefix_of_prefix_replaceAll (hmark : mark ≠ []) {w : List Char} (hc : c ∉ w)
    (h : w <+: replaceAll mark [c] s) : w <+: s := by
  induction s using passing_induction hmark generalizing w with
  | nil => rwa [replaceAll_nil hmark] at h
  | found s ih =>
    rw [replaceAll_mark hmark] at h
    cases w with
    | nil => exact List.nil_prefix
    | cons d w => exact absurd ((List.cons_prefix_cons.1 h).1 ▸ List.mem_cons_self) hc
  | kept d s hnot ih =>
    rw [replaceAll_cons hnot] at h
    cases w with
    | nil => exact List.nil_prefix
    | cons first w =>
      obtain ⟨rfl, hrest⟩ := List.cons_prefix_cons.1 h
      exact List.cons_prefix_cons.2 ⟨rfl, ih (fun hin => hc (List.mem_cons_of_mem _ hin)) hrest⟩

/-- Where marks are replaced by a character that they do not have, no mark is left. -/
theorem not_infix_replaceAll (hmark : mark ≠ []) (hc : c ∉ mark) :
    ¬ mark <:+: replaceAll mark [c] s := by
  induction s using passing_induction hmark with
  | nil =>
    rw [replaceAll_nil hmark, List.infix_nil]
    exact hmark
  | found s ih =>
    rw [replaceAll_mark hmark, List.singleton_append, List.infix_cons_iff, not_or]
    refine ⟨fun hprefix => ?_, ih⟩
    obtain ⟨d, rest, rfl⟩ := List.exists_cons_of_ne_nil hmark
    exact hc ((List.cons_prefix_cons.1 hprefix).1 ▸ List.mem_cons_self)
  | kept d s hnot ih =>
    have hkept : replaceAll mark [c] (d :: s) = d :: replaceAll mark [c] s := replaceAll_cons hnot
    rw [hkept, List.infix_cons_iff, not_or]
    refine ⟨fun hprefix => hnot ?_, ih⟩
    rw [← hkept] at hprefix
    exact prefix_of_prefix_replaceAll hmark hc hprefix

end

end

end PagePolicy.Text
