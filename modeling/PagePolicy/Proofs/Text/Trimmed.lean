import Mathlib.Data.List.DropRight
import PagePolicy.Text.Blank

/-! Texts without the characters of a class at their two ends. Of the texts that a text can be cut down to, trimming
takes the only one that neither starts nor ends with such a character. -/

namespace PagePolicy.Text

/-- Whether a text is what is left of another one once the characters of a class are gone from its two ends. -/
structure Trimmed (p : Char → Bool) (s t : List Char) : Prop where
  cut : ∃ before after, s = before ++ t ++ after ∧ ∀ c ∈ before ++ after, p c = true
  first : ∀ c ∈ t.head?, p c = false
  last : ∀ c ∈ t.getLast?, p c = false

section
variable {p : Char → Bool} {before s t after : List Char}

theorem dropWhile_eq_self (h : ∀ c ∈ s.head?, p c = false) : s.dropWhile p = s := by
  cases s with
  | nil => rfl
  | cons c s => rw [List.dropWhile_cons, h c rfl, if_neg Bool.false_ne_true]

theorem head?_dropWhile (p : Char → Bool) (s : List Char) : ∀ c ∈ (s.dropWhile p).head?, p c = false := by
  intro c hc
  have hfirst := List.head?_dropWhile_not p s
  rwa [Option.mem_def.1 hc] at hfirst

/-- A run of characters of a class ends where none of them follows. -/
theorem splitWhile (hs : ∀ c ∈ s, p c = true) (ht : ∀ c ∈ t.head?, p c = false) :
    (s ++ t).takeWhile p = s ∧ (s ++ t).dropWhile p = t := by
  rw [List.takeWhile_append_of_pos hs, List.dropWhile_append_of_pos hs]
  cases t with
  | nil => simp
  | cons c t => simp [ht c rfl]

/-- Characters at the end that are trimmed away can as well be absent. -/
theorem trimEnd_append (hafter : ∀ c ∈ after, p c = true) : trimEnd p (s ++ after) = trimEnd p s := by
  rw [trimEnd, trimEnd, List.reverse_append, List.dropWhile_append_of_pos]
  intro c hc
  exact hafter c (List.mem_reverse.1 hc)

/-- What is trimmed away can as well be absent. -/
theorem trim_append_append (hbefore : ∀ c ∈ before, p c = true) (hafter : ∀ c ∈ after, p c = true) :
    trim p (before ++ s ++ after) = trim p s := by
  rw [trim, List.append_assoc, List.dropWhile_append_of_pos hbefore, List.dropWhile_append]
  split
  next hempty =>
    have hnil : after.dropWhile p = [] := List.dropWhile_eq_nil_iff.2 hafter
    rw [hnil, trim, List.isEmpty_iff.1 hempty]
  next => rw [trimEnd_append hafter, trim]

private theorem trim_of_ends (hfirst : ∀ c ∈ s.head?, p c = false) (hlast : ∀ c ∈ s.getLast?, p c = false) :
    trim p s = s := by
  have hreverse : s.reverse.dropWhile p = s.reverse := dropWhile_eq_self (by rwa [List.head?_reverse])
  rw [trim, dropWhile_eq_self hfirst, trimEnd, hreverse, List.reverse_reverse]

theorem getLast?_trim (p : Char → Bool) (s : List Char) : ∀ c ∈ (trim p s).getLast?, p c = false := by
  rw [trim, trimEnd, List.getLast?_reverse]
  exact head?_dropWhile p _

theorem head?_trim (p : Char → Bool) (s : List Char) : ∀ c ∈ (trim p s).head?, p c = false := by
  intro c hc
  refine head?_dropWhile p s c ?_
  obtain ⟨rest, hrest⟩ := List.head?_eq_some_iff.1 hc
  rw [← trimEnd_append_takeWhile p (s.dropWhile p)]
  show c ∈ (trim p s ++ _).head?
  rw [hrest]
  rfl

theorem trimmed_trim (p : Char → Bool) (s : List Char) : Trimmed p s (trim p s) where
  cut := by
    refine ⟨s.takeWhile p, ((s.dropWhile p).reverse.takeWhile p).reverse, ?_, fun c hc => ?_⟩
    · rw [trim, List.append_assoc, trimEnd_append_takeWhile, List.takeWhile_append_dropWhile]
    · rcases List.mem_append.1 hc with hc | hc
      · exact List.mem_takeWhile_imp hc
      · exact List.mem_takeWhile_imp (List.mem_reverse.1 hc)
  first := head?_trim p s
  last := getLast?_trim p s

/-- There is one way to trim a text. -/
theorem trimmed_iff : Trimmed p s t ↔ t = trim p s := by
  constructor
  · rintro ⟨⟨before, after, rfl, hends⟩, hfirst, hlast⟩
    rw [trim_append_append (fun c hc => hends c (List.mem_append_left _ hc))
      (fun c hc => hends c (List.mem_append_right _ hc)), trim_of_ends hfirst hlast]
  · rintro rfl
    exact trimmed_trim p s

theorem trimmed_nil_iff : Trimmed p s [] ↔ ∀ c ∈ s, p c = true := by
  constructor
  · rintro ⟨⟨before, after, rfl, hends⟩, -, -⟩
    rwa [List.append_nil]
  · intro hs
    exact ⟨⟨s, [], by simp, by simpa using hs⟩, nofun, nofun⟩

namespace Trimmed

variable {c : Char} (h : Trimmed p s t)
include h

/-- A first character that is not of the class stays the first one. -/
theorem head?_eq (hc : s.head? = some c) (hclass : p c = false) : t.head? = some c := by
  obtain ⟨⟨before, after, rfl, hends⟩, -, -⟩ := h
  have hclass' : p c ≠ true := Bool.eq_false_iff.1 hclass
  cases before with
  | cons d before =>
    obtain rfl : d = c := Option.some.inj hc
    exact absurd (hends d List.mem_cons_self) hclass'
  | nil =>
    cases t with
    | cons d t => exact hc
    | nil => exact absurd (hends c (List.mem_of_head? hc)) hclass'

/-- A last character that is not of the class stays the last one. -/
theorem getLast?_eq (hc : s.getLast? = some c) (hclass : p c = false) : t.getLast? = some c := by
  obtain ⟨⟨before, after, rfl, hends⟩, -, -⟩ := h
  have hclass' : p c ≠ true := Bool.eq_false_iff.1 hclass
  have hafter : after = [] := by
    refine Decidable.byContradiction fun hne => hclass' (hends c (List.mem_append_right before ?_))
    rw [List.getLast?_append_of_ne_nil _ hne] at hc
    exact List.mem_of_getLast? hc
  subst hafter
  rw [List.append_nil] at hc hends
  have ht : t ≠ [] := by
    rintro rfl
    rw [List.append_nil] at hc
    exact hclass' (hends c (List.mem_of_getLast? hc))
  rwa [List.getLast?_append_of_ne_nil _ ht] at hc

end Trimmed

end

end PagePolicy.Text
