import Mathlib.Data.List.TakeWhile
import PagePolicy.Text.Search

/-! A text is split at the first place where another one occurs, and not at all only if that occurs nowhere. -/

namespace PagePolicy.Text

/-- No occurrence of a text begins before the one at which it is split. -/
theorem splitAtFirst_le {mark s before after b a : List Char}
    (h : splitAtFirst mark s = some (before, after)) (hs : s = b ++ mark ++ a) :
    before.length ≤ b.length := by
  induction s generalizing before b with
  | nil =>
    rw [splitAtFirst] at h
    split at h
    · cases h
      exact Nat.zero_le _
    · cases h
  | cons c s ih =>
    rw [splitAtFirst] at h
    split at h
    next => cases h; exact Nat.zero_le _
    next hnot =>
      obtain ⟨⟨before', after'⟩, hsplit, heq⟩ := Option.map_eq_some_iff.1 h
      obtain ⟨rfl, rfl⟩ := Prod.mk.inj heq
      cases b with
      | nil =>
        refine absurd (List.isPrefixOf_iff_prefix.2 ?_) hnot
        rw [hs]
        exact List.prefix_append mark a
      | cons d b =>
        rw [List.cons_append, List.cons_append] at hs
        exact Nat.succ_le_succ (ih hsplit (List.cons.inj hs).2)

/-- A text does not occur before the place where it occurs first. -/
theorem not_infix_of_splitAtFirst {mark s before after : List Char} (hne : mark ≠ [])
    (h : splitAtFirst mark s = some (before, after)) : ¬ mark <:+: before := by
  rintro ⟨b, a, rfl⟩
  have hs : s = b ++ mark ++ (a ++ mark ++ after) := by
    rw [append_of_splitAtFirst h]
    simp only [List.append_assoc]
  have hle := splitAtFirst_le h hs
  have hpos := List.length_pos_iff.2 hne
  simp only [List.length_append] at hle
  omega

theorem splitAtFirst_eq_none {mark s : List Char} (h : splitAtFirst mark s = none) :
    ¬ mark <:+: s := by
  induction s with
  | nil =>
    intro hin
    obtain rfl := List.infix_nil.1 hin
    cases h
  | cons c s ih =>
    rw [splitAtFirst] at h
    split at h
    next => cases h
    next hnot =>
      intro hin
      rcases List.infix_cons_iff.1 hin with hprefix | hin
      · exact hnot (List.isPrefixOf_iff_prefix.2 hprefix)
      · exact ih (Option.map_eq_none_iff.1 h) hin

/-- A text is split at the occurrence before which there is none. -/
theorem splitAtFirst_eq_some_iff {mark s before after : List Char} :
    splitAtFirst mark s = some (before, after) ↔
      s = before ++ mark ++ after ∧ ∀ b a, s = b ++ mark ++ a → before.length ≤ b.length := by
  constructor
  · intro h
    exact ⟨append_of_splitAtFirst h, fun b a => splitAtFirst_le h⟩
  · rintro ⟨rfl, hfirst⟩
    cases hsplit : splitAtFirst mark (before ++ mark ++ after) with
    | none => exact absurd ⟨before, after, rfl⟩ (splitAtFirst_eq_none hsplit)
    | some parts =>
      obtain ⟨b, a⟩ := parts
      have hparts := append_of_splitAtFirst hsplit
      have hlength : before.length = b.length :=
        Nat.le_antisymm (hfirst b a hparts) (splitAtFirst_le hsplit rfl)
      rw [List.append_assoc, List.append_assoc] at hparts
      obtain ⟨rfl, hrest⟩ := List.append_inj hparts hlength
      obtain rfl := List.append_cancel_left hrest
      rfl

theorem occursIn_iff {mark s : List Char} : occursIn mark s = true ↔ mark <:+: s := by
  constructor
  · intro h
    obtain ⟨⟨before, after⟩, hsplit⟩ := Option.isSome_iff_exists.1 h
    exact ⟨before, after, (append_of_splitAtFirst hsplit).symm⟩
  · intro h
    rw [occursIn, Option.isSome_iff_ne_none]
    exact fun hnone => splitAtFirst_eq_none hnone h

theorem drop_length_takeWhile (p : Char → Bool) (s : List Char) :
    s.drop (s.takeWhile p).length = s.dropWhile p := by
  calc
    s.drop (s.takeWhile p).length = (s.takeWhile p ++ s.dropWhile p).drop (s.takeWhile p).length := by
      rw [List.takeWhile_append_dropWhile]
    _ = s.dropWhile p := List.drop_left

/-- What stands behind a character at which a reader stops makes no difference. -/
theorem takeWhile_append_cons {p : Char → Bool} {c : Char} (hc : p c = false) (s t : List Char) :
    (s ++ c :: t).takeWhile p = s.takeWhile p := by
  induction s with
  | nil => rw [List.nil_append, List.takeWhile_cons_of_neg (by simp [hc]), List.takeWhile_nil]
  | cons d s ih => rw [List.cons_append, List.takeWhile_cons, List.takeWhile_cons, ih]

theorem splitAtLast_eq_none_iff {mark : Char} {s : List Char} :
    splitAtLast mark s = none ↔ mark ∉ s := by
  have hall : s.reverse.dropWhile (· ≠ mark) = [] ↔ mark ∉ s := by
    rw [List.dropWhile_eq_nil_iff]
    constructor
    · intro h hmark
      simpa using h mark (List.mem_reverse.2 hmark)
    · intro h c hc
      exact decide_eq_true fun heq => h (heq ▸ List.mem_reverse.1 hc)
  rw [← hall, splitAtLast, drop_length_takeWhile]
  cases s.reverse.dropWhile (· ≠ mark) <;> simp

/-! ### Pieces between the occurrences of a character -/

section
variable {mark : Char}

theorem intercalate_append {xs ys : List (List Char)} (hxs : xs ≠ []) (hys : ys ≠ []) :
    [mark].intercalate (xs ++ ys) = [mark].intercalate xs ++ mark :: [mark].intercalate ys := by
  induction xs with
  | nil => exact absurd rfl hxs
  | cons x xs ih =>
    by_cases hempty : xs = []
    · subst hempty
      rw [List.singleton_append, List.intercalate_cons_of_ne_nil hys, List.intercalate_singleton,
        List.append_assoc]
      rfl
    · rw [List.cons_append, List.intercalate_cons_of_ne_nil (by simp [hempty]),
        List.intercalate_cons_of_ne_nil hempty, ih hempty, List.append_assoc _ _ (mark :: _)]

/-- A text has no such character, or it goes on behind the first one. -/
theorem pieces_induction (mark : Char) {motive : List Char → Prop} (last : ∀ s, mark ∉ s → motive s)
    (next : ∀ s t, mark ∉ s → motive t → motive (s ++ mark :: t)) (s : List Char) : motive s := by
  -- with what has been read of the first piece
  have hread (first : List Char) (hfirst : mark ∉ first) : motive (first ++ s) := by
    induction s generalizing first with
    | nil => exact last _ (by simpa using hfirst)
    | cons c s ih =>
      by_cases hc : c = mark
      · subst hc
        exact next first s hfirst (ih [] List.not_mem_nil)
      · rw [← List.singleton_append, ← List.append_assoc]
        exact ih _ (by simp [hfirst, Ne.symm hc])
  exact hread [] List.not_mem_nil

theorem mem_of_mem_splitOn {s part : List Char} (h : part ∈ List.splitOn mark s) {c : Char} (hc : c ∈ part) :
    c ∈ s := by
  induction s using pieces_induction mark with
  | last s hs =>
    rw [List.splitOn_eq_singleton hs, List.mem_singleton] at h
    exact h ▸ hc
  | next s t hs ih =>
    rw [List.splitOn_append_cons_self_of_not_mem hs] at h
    rcases List.mem_cons.1 h with rfl | h
    · exact List.mem_append_left _ hc
    · exact List.mem_append_right _ (List.mem_cons_of_mem _ (ih h))

theorem not_mem_of_mem_splitOn {s part : List Char} (h : part ∈ List.splitOn mark s) : mark ∉ part := by
  induction s using pieces_induction mark with
  | last s hs =>
    rw [List.splitOn_eq_singleton hs, List.mem_singleton] at h
    exact h ▸ hs
  | next s t hs ih =>
    rw [List.splitOn_append_cons_self_of_not_mem hs] at h
    rcases List.mem_cons.1 h with rfl | h
    · exact hs
    · exact ih h

end

/-! ### Texts around a character -/

section
variable {c : Char} {a b s t : List Char}

/-- A text that begins with a character is found only behind a text without that character. -/
theorem infix_of_infix_append (hc : c ∉ a) (h : c :: s <:+: a ++ b) : c :: s <:+: b := by
  induction a with
  | nil => exact h
  | cons d a ih =>
    rw [List.mem_cons, not_or] at hc
    rcases List.infix_cons_iff.1 h with hprefix | hin
    · exact absurd (List.cons_prefix_cons.1 hprefix).1 hc.1
    · exact ih hc.2 hin

/-- A text ends at the same place in both divisions if neither its end nor what follows it can be inside the
other part. -/
theorem eq_of_append_eq (ha : c ∉ a) (ht : ∀ d ∈ t.head?, d ∉ b) (h : a ++ t = b ++ c :: s) : a = b := by
  rcases List.append_eq_append_iff.1 h with ⟨more, rfl, rfl⟩ | ⟨more, rfl, hs⟩
  · cases more with
    | nil => rw [List.append_nil]
    | cons d more => exact absurd (List.mem_append_right a List.mem_cons_self) (ht d rfl)
  · cases more with
    | nil => rw [List.append_nil]
    | cons d more =>
      obtain ⟨rfl, -⟩ := List.cons.inj hs
      exact absurd (List.mem_append_right b List.mem_cons_self) ha

/-- A text without a character does not reach into a part that begins with that character. -/
theorem prefix_of_prefix_append (ha : c ∉ a) (hs : s = [] ∨ s.head? = some c) (h : a <+: b ++ s) :
    a <+: b := by
  obtain ⟨rest, h⟩ := h
  rcases List.append_eq_append_iff.1 h with ⟨more, rfl, -⟩ | ⟨more, rfl, hrest⟩
  · exact List.prefix_append a more
  · cases more with
    | nil => exact ⟨[], by simp⟩
    | cons d more =>
      obtain rfl : d = c := by simpa [hrest] using hs
      exact absurd (List.mem_append_right b List.mem_cons_self) ha

end

end PagePolicy.Text
