import Mathlib.Data.Nat.Digits.Defs
import PagePolicy.Proofs.Text.Letters
import PagePolicy.Proofs.Text.Trimmed
import PagePolicy.Rule.Line

/-! The directives at the start of a line, which decide on the action of its rule. Two at signs allow, an at sign with
a number highlights, and all else blocks. -/

namespace PagePolicy.Line

open Text

/-! ### Colors -/

def decimal (digits : List Char) : Nat :=
  Nat.ofDigits 10 (digits.reverse.map fun c => c.toNat - '0'.toNat)

private theorem colorOf_eq_min (digits : List Char) : colorOf digits = min (decimal digits) (2 ^ 64 - 1) := by
  have hfold : digits.foldl (fun n c => 10 * n + (c.toNat - '0'.toNat)) 0 = decimal digits := by
    rw [decimal, Nat.ofDigits_eq_foldr, List.foldr_map, List.foldr_reverse]
    simp only [Nat.cast_id, Nat.add_comm]
  rw [colorOf, hfold, maxColor]
  rfl

/-- A text that begins with an at sign, digits and blanks, and goes on after these. -/
structure Highlights (t digits gap rest : List Char) : Prop where
  parts : t = '@' :: (digits ++ gap ++ rest)
  digits_ne : digits ≠ []
  digit : ∀ c ∈ digits, '0' ≤ c ∧ c ≤ '9'
  gap_ne : gap ≠ []
  blank : ∀ c ∈ gap, isBlank c = true ∨ c = '\uFEFF'
  rest_ne : rest ≠ []

private theorem isSpace_iff {c : Char} : isSpace c = true ↔ isBlank c = true ∨ c = '\uFEFF' := by
  rw [isSpace, Bool.or_eq_true, decide_eq_true_eq]

private theorem isDigit_iff {c : Char} : c.isDigit = true ↔ '0' ≤ c ∧ c ≤ '9' := by
  rw [Char.isDigit, Bool.and_eq_true, decide_eq_true_eq, decide_eq_true_eq]
  rfl

private theorem isDigit_of_isSpace {c : Char} (h : isSpace c = true) : c.isDigit = false := by
  rw [← Bool.not_eq_true]
  intro hdigit
  have hcode := toNat_of_isDigit hdigit
  rcases isSpace_iff.1 h with hblank | rfl
  · simp only [isBlank, Bool.or_eq_true, Bool.and_eq_true, decide_eq_true_eq, beq_iff_eq] at hblank
    omega
  · exact absurd hcode (by decide)

section
variable {s digits gap rest pattern : List Char} {color : Nat}

theorem Highlights.getLast?_eq {t : List Char} (h : Highlights t digits gap rest) : t.getLast? = rest.getLast? := by
  rw [h.parts, ← List.cons_append, List.getLast?_append_of_ne_nil _ h.rest_ne]

/-- What has a color is of the form of the directive. -/
theorem highlights_of_splitColor (h : splitColor s = some (color, pattern)) :
    ∃ digits gap rest, Highlights ('@' :: s) digits gap rest := by
  unfold splitColor at h
  dsimp only at h
  split at h
  next => cases h
  next hnone =>
    simp only [not_or] at hnone
    obtain ⟨hdigits, hgap, hrest⟩ := hnone
    refine ⟨s.takeWhile Char.isDigit, (s.dropWhile Char.isDigit).takeWhile isSpace,
      (s.dropWhile Char.isDigit).dropWhile isSpace, ?_, hdigits, ?_, ?_, ?_, hrest⟩
    · rw [List.append_assoc, List.takeWhile_append_dropWhile, List.takeWhile_append_dropWhile]
    · exact fun c hc => isDigit_iff.1 (List.mem_takeWhile_imp hc)
    · intro hnil
      have hparts := List.takeWhile_append_dropWhile (p := isSpace) (l := s.dropWhile Char.isDigit)
      rw [hnil, List.nil_append] at hparts
      exact hgap hparts
    · exact fun c hc => isSpace_iff.1 (List.mem_takeWhile_imp hc)

/-- A directive gives its color to what follows, unless only blanks do. -/
theorem Highlights.splitColor_eq (h : Highlights ('@' :: s) digits gap rest)
    (hlast : ∀ c ∈ ('@' :: s).getLast?, isSpace c = false) :
    splitColor s = some (colorOf digits, trim isSpace rest) := by
  rw [h.getLast?_eq] at hlast
  obtain ⟨hparts, hdigits, hdigit, hgap, hblank, hrest⟩ := h
  obtain rfl : s = digits ++ (gap ++ rest) := by
    rw [← List.append_assoc]
    exact (List.cons.inj hparts).2
  have hspace (c : Char) (hc : c ∈ gap) : isSpace c = true := isSpace_iff.2 (hblank c hc)
  have hend : ∀ c ∈ (gap ++ rest).head?, c.isDigit = false := by
    intro c hc
    rw [List.head?_append_of_ne_nil _ hgap] at hc
    exact isDigit_of_isSpace (hspace c (List.mem_of_head? hc))
  obtain ⟨htake, hdrop⟩ := splitWhile (fun c hc => isDigit_iff.2 (hdigit c hc)) hend
  have hpattern : (gap ++ rest).dropWhile isSpace = rest.dropWhile isSpace :=
    List.dropWhile_append_of_pos hspace
  have hshort : rest.dropWhile isSpace ≠ gap ++ rest := by
    intro heq
    have hle : (rest.dropWhile isSpace).length ≤ rest.length := (List.dropWhile_suffix isSpace).length_le
    rw [heq, List.length_append] at hle
    have := List.length_pos_iff.2 hgap
    omega
  have hne : rest.dropWhile isSpace ≠ [] := by
    intro hnil
    have hlastSpace : isSpace (rest.getLast hrest) = true :=
      List.dropWhile_eq_nil_iff.1 hnil _ (List.getLast_mem hrest)
    have hlastNot := hlast (rest.getLast hrest) (List.getLast?_eq_getLast_of_ne_nil hrest)
    exact Bool.false_ne_true (hlastNot.symm.trans hlastSpace)
  have htrim : trim isSpace (rest.dropWhile isSpace) = trim isSpace rest := by
    rw [trim, dropWhile_eq_self (head?_dropWhile isSpace rest), trim]
  unfold splitColor
  simp only [htake, hdrop, hpattern, hdigits, hshort, hne, htrim, or_self, if_false]

end

/-! ### The four kinds of lines -/

/-- What a line is read as, by the text that is left of it without the blanks around it. -/
inductive ReadAs (t : List Char) : Line → Prop where
  | allow {s : List Char} : t = '@' :: '@' :: s → ReadAs t (withAction .allow none false (trim isSpace s))
  | highlight {s pattern : List Char} {color : Nat} : t = '@' :: s → splitColor s = some (color, pattern) →
    ReadAs t (withAction .highlight (some color) false pattern)
  | unrecognized {s : List Char} : t = '@' :: s → s.head? ≠ some '@' → splitColor s = none →
    ReadAs t (withAction .block none true t)
  | plain : t.head? ≠ some '@' → ReadAs t (withAction .block none false t)

theorem read_eq_none_iff (raw : String) :
    read raw = none ↔ trim isSpace raw.toList = [] ∨ (trim isSpace raw.toList).head? = some '#' := by
  unfold read
  split
  next h => simp [h]
  next h => simp [h]
  next h => simp [h]
  next h =>
    rw [h]
    split <;> simp
  next hempty hcomment _ _ =>
    refine iff_of_false nofun ?_
    rintro (h | h)
    · exact hempty h
    · obtain ⟨s, hs⟩ := List.head?_eq_some_iff.1 h
      exact hcomment s hs

theorem readAs_of_read {raw : String} {l : Line} (h : read raw = some l) : ReadAs (trim isSpace raw.toList) l := by
  unfold read at h
  split at h
  next => cases h
  next => cases h
  next ht =>
    cases h
    exact .allow ht
  next s hallow ht =>
    split at h
    next hcolor =>
      cases h
      exact .highlight ht hcolor
    next hcolor =>
      cases h
      rw [← ht]
      refine .unrecognized ht (fun hs => ?_) hcolor
      obtain ⟨rest, rfl⟩ := List.head?_eq_some_iff.1 hs
      exact hallow rest rfl
  next hplain =>
    cases h
    refine .plain fun ht => ?_
    obtain ⟨s, hs⟩ := List.head?_eq_some_iff.1 ht
    exact hplain s hs

private theorem color_withAction {action : Action} {color : Option Nat} {unrecognized : Bool} {s : List Char} :
    (withAction action color unrecognized s).color = color := rfl

/-- The two directives exclude each other. -/
theorem Highlights.not_allows {t digits gap rest : List Char} (h : Highlights t digits gap rest) :
    ¬ "@@".toList <+: t := by
  rintro ⟨s, hs⟩
  obtain ⟨c, digits, rfl⟩ := List.exists_cons_of_ne_nil h.digits_ne
  obtain ⟨-, hc⟩ := List.cons.inj (hs.trans h.parts)
  obtain ⟨rfl, -⟩ := List.cons.inj hc
  exact absurd (h.digit '@' List.mem_cons_self) (by decide)

namespace ReadAs

variable {t : List Char} {l : Line} (h : ReadAs t l)
include h

theorem action_eq_allow_iff : l.action = .allow ↔ "@@".toList <+: t := by
  cases h with
  | allow ht => exact iff_of_true rfl ⟨_, ht.symm⟩
  | @highlight s pattern color ht hcolor =>
    obtain ⟨digits, gap, rest, hparts⟩ := highlights_of_splitColor hcolor
    refine iff_of_false nofun ?_
    rw [ht]
    exact hparts.not_allows
  | unrecognized ht hnot hcolor =>
    refine iff_of_false nofun ?_
    rintro ⟨s, hs⟩
    obtain ⟨-, rfl⟩ := List.cons.inj (hs.trans ht)
    exact hnot rfl
  | plain ht =>
    refine iff_of_false nofun ?_
    rintro ⟨s, rfl⟩
    exact ht rfl

theorem action_eq_highlight_iff (hlast : ∀ c ∈ t.getLast?, isSpace c = false) :
    l.action = .highlight ↔ ∃ digits gap rest, Highlights t digits gap rest := by
  cases h with
  | allow ht =>
    refine iff_of_false nofun ?_
    rintro ⟨digits, gap, rest, hparts⟩
    exact hparts.not_allows ⟨_, ht.symm⟩
  | highlight ht hcolor =>
    rw [ht]
    exact iff_of_true rfl (highlights_of_splitColor hcolor)
  | unrecognized ht hnot hcolor =>
    refine iff_of_false nofun ?_
    rintro ⟨digits, gap, rest, hparts⟩
    subst ht
    cases hcolor.symm.trans (hparts.splitColor_eq hlast)
  | plain ht =>
    refine iff_of_false nofun ?_
    rintro ⟨digits, gap, rest, hparts⟩
    rw [hparts.parts] at ht
    exact ht rfl

private theorem color_eq (hlast : ∀ c ∈ t.getLast?, isSpace c = false) {digits gap rest : List Char}
    (hparts : Highlights t digits gap rest) : l.color = some (min (decimal digits) (2 ^ 64 - 1)) := by
  have haction : l.action = .highlight := (h.action_eq_highlight_iff hlast).2 ⟨digits, gap, rest, hparts⟩
  cases h with
  | highlight ht hcolor =>
    subst ht
    obtain ⟨rfl, -⟩ := Prod.mk.inj (Option.some.inj (hcolor.symm.trans (hparts.splitColor_eq hlast)))
    rw [color_withAction, colorOf_eq_min]
  | _ => cases haction

private theorem action_of_color (hcolor : l.color ≠ none) : l.action = .highlight := by
  cases h with
  | highlight => rfl
  | _ => exact absurd rfl hcolor

private theorem unrecognized_iff : l.unrecognized = true ↔ t.head? = some '@' ∧ l.action = .block := by
  cases h with
  | allow ht => exact iff_of_false nofun nofun
  | highlight ht hcolor => exact iff_of_false nofun nofun
  | unrecognized ht hnot hcolor =>
    rw [ht]
    exact iff_of_true rfl ⟨rfl, rfl⟩
  | plain ht => exact iff_of_false nofun fun h => ht h.1

end ReadAs

/-- A line without blanks and byte order marks around it is of one of four kinds. It is read as nothing if it is empty
or a comment; it allows if it starts with two at signs; it highlights if it starts with an at sign, digits and
blanks before some more text, in the color that the digits write, or in the greatest color if they write more; and
else it blocks, which is remarked if it starts with an at sign. -/
theorem directive_decides_action (raw : String) :
    ∃ t, (∀ u, Trimmed (fun c => isBlank c || c = '\uFEFF') raw.toList u ↔ u = t) ∧
      (read raw = none ↔ t = [] ∨ t.head? = some '#') ∧
      ∀ l, read raw = some l →
        (l.action = .allow ↔ "@@".toList <+: t) ∧
        (l.action = .highlight ↔ ∃ digits gap rest, Highlights t digits gap rest) ∧
        (l.action = .block ↔ ¬ "@@".toList <+: t ∧ ¬ ∃ digits gap rest, Highlights t digits gap rest) ∧
        (∀ digits gap rest, Highlights t digits gap rest → l.color = some (min (decimal digits) (2 ^ 64 - 1))) ∧
        (l.color ≠ none → l.action = .highlight) ∧
        (l.unrecognized = true ↔ t.head? = some '@' ∧ l.action = .block) := by
  refine ⟨trim isSpace raw.toList, fun u => trimmed_iff, read_eq_none_iff raw, fun l hl => ?_⟩
  have hlast := getLast?_trim isSpace raw.toList
  have hread := readAs_of_read hl
  have hallow := hread.action_eq_allow_iff
  have hhighlight := hread.action_eq_highlight_iff hlast
  refine ⟨hallow, hhighlight, ?_, fun _ _ _ => hread.color_eq hlast, hread.action_of_color, hread.unrecognized_iff⟩
  rw [← hallow, ← hhighlight]
  cases l.action <;> simp

/-- A number with zeros in front that takes more than 64 bits is the greatest color. -/
theorem directive_decides_action_greatest :
    let raw := "\uFEFF@00018446744073709551616\u00A0\tnews.org/*\r"
    ∃ l, read raw = some l ∧ l.action = .highlight ∧ l.color = some 18446744073709551615 ∧ l.unrecognized = false := by
  intro raw
  let digits := "00018446744073709551616".toList
  let gap := "\u00A0\t".toList
  let rest := "news.org/*".toList
  have hdigits : ∀ c ∈ digits, '0' ≤ c ∧ c ≤ '9' := by simp [digits]
  have hgap : ∀ c ∈ gap, isBlank c = true ∨ c = '\uFEFF' := by simp [gap, isBlank]
  obtain ⟨t, htrim, hnone, hsome⟩ := directive_decides_action raw
  have ht : t = '@' :: (digits ++ gap ++ rest) := by
    refine ((htrim _).1 ⟨⟨['\uFEFF'], ['\r'], by decide, List.all_eq_true.1 rfl⟩, ?_, ?_⟩).symm
    · rintro c ⟨⟩
      rfl
    · rintro c ⟨⟩
      rfl
  have hparts : Highlights t digits gap rest := ⟨ht, by decide, hdigits, by decide, hgap, by decide⟩
  have hread : read raw ≠ none := by
    rw [ne_eq, hnone, ht]
    decide
  obtain ⟨l, hl⟩ := Option.ne_none_iff_exists'.1 hread
  obtain ⟨-, haction, -, hcolor, -, hunrecognized⟩ := hsome l hl
  have hhighlight : l.action = .highlight := haction.2 ⟨digits, gap, rest, hparts⟩
  have hvalue : min (decimal digits) (2 ^ 64 - 1) = 18446744073709551615 := by decide +kernel
  refine ⟨l, hl, hhighlight, (hcolor digits gap rest hparts).trans (congrArg some hvalue), ?_⟩
  rw [← Bool.not_eq_true, hunrecognized, hhighlight]
  exact nofun

end PagePolicy.Line
