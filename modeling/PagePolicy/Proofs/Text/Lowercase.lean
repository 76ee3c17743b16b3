import Mathlib.Data.List.Basic
import PagePolicy.Text.Lowercase

/-! The lower case of a text inside another one. It is the lower case that the text has on its own, but for the
capital sigmas that end a word in only one of the two places. -/

namespace PagePolicy.Text

/-- Whether a capital sigma between two texts ends a word. -/
def endsWord (before after : List Char) : Bool :=
  startsCased before.reverse && !startsCased after

/-- Whether every capital sigma of a text ends a word between two others exactly if it ends one in the text on
its own. -/
def KeepsSigmas (before s after : List Char) : Prop :=
  ∀ u w, s = u ++ 'Σ' :: w → endsWord (before ++ u) (w ++ after) = endsWord u w

/-- The lower case of a character between two texts. -/
def lowerBetween (before : List Char) (c : Char) (after : List Char) : List Char :=
  if c = 'Σ' then [if endsWord before after then 'ς' else 'σ'] else lowerChar c

/-- The lower case that a text has between two others. -/
def lowercaseBetween (before after : List Char) : List Char → List Char
  | [] => []
  | c :: s => lowerBetween before c (s ++ after) ++ lowercaseBetween (before ++ [c]) after s

section
variable {c : Char} {before after before' after' s t : List Char}

theorem startsCased_cons (h : Unicode.caseIgnorable.contains c = false) :
    startsCased (c :: s) = Unicode.cased.contains c := by
  rw [startsCased, List.dropWhile_cons_of_neg (Bool.eq_false_iff.1 h)]

private theorem lowerBetween_eq_iff :
    lowerBetween before c after = lowerBetween before' c after' ↔
      (c = 'Σ' → endsWord before after = endsWord before' after') := by
  unfold lowerBetween
  by_cases hc : c = 'Σ'
  · rw [if_pos hc, if_pos hc, List.singleton_inj]
    cases endsWord before after <;> cases endsWord before' after' <;> simp [hc]
  · rw [if_neg hc, if_neg hc]
    exact iff_of_true rfl fun h => absurd h hc

private theorem length_lowerBetween :
    (lowerBetween before c after).length = (lowerBetween before' c after').length := by
  unfold lowerBetween
  split <;> rfl

private theorem length_lowercaseBetween :
    (lowercaseBetween before after s).length = (lowercaseBetween before' after' s).length := by
  induction s generalizing before before' with
  | nil => rfl
  | cons c s ih =>
    rw [lowercaseBetween, lowercaseBetween, List.length_append, List.length_append, length_lowerBetween,
      ih]

/-- The lower case of a text is the same in two places if its capital sigmas end words in both or in neither. -/
theorem lowercaseBetween_eq_iff :
    lowercaseBetween before after s = lowercaseBetween before' after' s ↔
      ∀ u w, s = u ++ 'Σ' :: w → endsWord (before ++ u) (w ++ after) = endsWord (before' ++ u) (w ++ after') := by
  induction s generalizing before before' with
  | nil =>
    refine iff_of_true rfl fun u w h => ?_
    cases u <;> cases h
  | cons c s ih =>
    have hinj : lowercaseBetween before after (c :: s) = lowercaseBetween before' after' (c :: s) ↔
        lowerBetween before c (s ++ after) = lowerBetween before' c (s ++ after') ∧
          lowercaseBetween (before ++ [c]) after s = lowercaseBetween (before' ++ [c]) after' s := by
      constructor
      · exact fun h => List.append_inj h length_lowerBetween
      · rintro ⟨hfirst, hrest⟩
        rw [lowercaseBetween, lowercaseBetween, hfirst, hrest]
    rw [hinj, lowerBetween_eq_iff, ih]
    constructor
    · rintro ⟨hfirst, hrest⟩ u w h
      cases u with
      | nil =>
        obtain ⟨rfl, rfl⟩ := List.cons.inj h
        simpa using hfirst rfl
      | cons d u =>
        obtain ⟨rfl, hs⟩ := List.cons.inj h
        simpa using hrest u w hs
    · intro h
      refine ⟨?_, fun u w hs => ?_⟩
      · rintro rfl
        simpa using h [] s rfl
      · simpa using h (c :: u) w (congrArg (c :: ·) hs)

private theorem lowercaseAfter_append (before s t : List Char) :
    lowercaseAfter before.reverse (s ++ t) =
      lowercaseBetween before t s ++ lowercaseAfter (before ++ s).reverse t := by
  induction s generalizing before with
  | nil => simp [lowercaseBetween]
  | cons c s ih =>
    have hcons : lowercaseAfter before.reverse (c :: (s ++ t)) =
        lowerBetween before c (s ++ t) ++ lowercaseAfter (c :: before.reverse) (s ++ t) := rfl
    have hbefore : c :: before.reverse = (before ++ [c]).reverse := by simp
    rw [List.cons_append, hcons, hbefore, ih, lowercaseBetween, List.append_assoc, List.append_assoc,
      List.singleton_append]

private theorem lowercase_eq (s : List Char) : lowercase s = lowercaseBetween [] [] s := by
  have h := lowercaseAfter_append [] s []
  rwa [List.append_nil, lowercaseAfter, List.append_nil] at h

/-- The parts of the lower case of a text that come from three parts of the text. -/
theorem lowercase_append (before s after : List Char) :
    lowercase (before ++ (s ++ after)) = lowercaseBetween [] (s ++ after) before ++
      (lowercaseBetween before after s ++ lowercaseAfter (before ++ s).reverse after) := by
  calc
    lowercase (before ++ (s ++ after)) = lowercaseBetween [] (s ++ after) before ++
        lowercaseAfter before.reverse (s ++ after) := lowercaseAfter_append [] before (s ++ after)
    _ = _ := by rw [lowercaseAfter_append]

private theorem lowercaseBetween_eq_lowercase_iff :
    lowercaseBetween before after s = lowercase s ↔ KeepsSigmas before s after := by
  rw [lowercase_eq, lowercaseBetween_eq_iff]
  simp only [List.nil_append, List.append_nil, KeepsSigmas]

theorem keepsSigmas_nil : KeepsSigmas [] s [] := fun u w _ => by
  rw [List.nil_append, List.append_nil]

theorem keepsSigmas_of_not_mem (h : 'Σ' ∉ s) : KeepsSigmas before s after := by
  rintro u w rfl
  exact absurd (List.mem_append_right _ List.mem_cons_self) h

/-- A text with one sigma, its last letter. -/
theorem keepsSigmas_concat_iff (h : 'Σ' ∉ s) :
    KeepsSigmas before (s ++ ['Σ']) after ↔ endsWord (before ++ s) after = endsWord s [] := by
  constructor
  · exact fun hkeeps => hkeeps s [] rfl
  · intro hends u w hs
    obtain ⟨rfl, -, rfl⟩ := (List.append_cons_inj_of_notMem h List.not_mem_nil).1 hs
    exact hends

/-- The lower case of a text occurs where the text does, if its sigmas are kept there. -/
theorem lowercase_infix (h : KeepsSigmas before s after) :
    lowercase s <:+: lowercase (before ++ (s ++ after)) := by
  rw [lowercase_append, lowercaseBetween_eq_lowercase_iff.2 h]
  exact ⟨_, _, List.append_assoc ..⟩

private theorem length_lowercase : (lowercase s).length = (lowercaseBetween before after s).length := by
  rw [lowercase_eq]
  exact length_lowercaseBetween

theorem lowercase_prefix_iff : lowercase s <+: lowercase (s ++ after) ↔ KeepsSigmas [] s after := by
  have hsplit : lowercase (s ++ after) =
      lowercaseBetween [] after s ++ lowercaseAfter s.reverse after := lowercaseAfter_append [] s after
  rw [← lowercaseBetween_eq_lowercase_iff, hsplit]
  constructor
  · intro h
    have hfront := List.prefix_of_prefix_length_le h (List.prefix_append _ _) (Nat.le_of_eq length_lowercase)
    exact (hfront.eq_of_length length_lowercase).symm
  · intro h
    rw [h]
    exact List.prefix_append _ _

theorem lowercase_suffix_iff :
    lowercase s <:+ lowercase (before ++ s) ↔ KeepsSigmas before s [] := by
  have hsplit : lowercase (before ++ s) = lowercaseBetween [] s before ++ lowercaseBetween before [] s := by
    have h := lowercase_append before s []
    rwa [List.append_nil, lowercaseAfter, List.append_nil] at h
  rw [← lowercaseBetween_eq_lowercase_iff, hsplit]
  constructor
  · intro h
    have hsuffix := List.suffix_of_suffix_length_le h (List.suffix_append _ _) (Nat.le_of_eq length_lowercase)
    exact (hsuffix.eq_of_length length_lowercase).symm
  · intro h
    rw [h]
    exact List.suffix_append _ _

end

end PagePolicy.Text
