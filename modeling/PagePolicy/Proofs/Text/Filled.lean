import Mathlib.Data.List.TakeWhile

/-! Texts in which words stand in place of stars. What passes stars and words in the same way does the same to
a template and to each text that is filled in from it. -/

namespace PagePolicy.Text

/-- A list is a template in which words stand in place of stars. A star can stay as it is. -/
inductive Filled {α : Type} (star : α) (IsWord : List α → Prop) : List α → List α → Prop where
  | nil : Filled star IsWord [] []
  | keep {c : α} {template s : List α} (rest : Filled star IsWord template s) :
      Filled star IsWord (c :: template) (c :: s)
  | fill {word template s : List α} (isWord : IsWord word) (rest : Filled star IsWord template s) :
      Filled star IsWord (star :: template) (word ++ s)

namespace Filled

section
variable {α : Type} {star : α} {IsWord : List α → Prop} {a b s t : List α} {test : α → Bool}

theorem refl (s : List α) : Filled star IsWord s s := by
  induction s with
  | nil => exact .nil
  | cons c s ih => exact .keep ih

theorem mono {IsWord' : List α → Prop} (h : Filled star IsWord a s) (hmono : ∀ w, IsWord w → IsWord' w) :
    Filled star IsWord' a s := by
  induction h with
  | nil => exact .nil
  | keep _ ih => exact .keep ih
  | fill hword _ ih => exact .fill (hmono _ hword) ih

theorem mem {c : α} (h : Filled star IsWord a s) (hc : c ∈ s) : c ∈ a ∨ ∃ w, IsWord w ∧ c ∈ w := by
  induction h with
  | nil => exact .inl hc
  | keep _ ih =>
    rcases List.mem_cons.1 hc with rfl | hc
    · exact .inl List.mem_cons_self
    · exact (ih hc).imp_left (List.mem_cons_of_mem _)
  | fill hword _ ih =>
    rcases List.mem_append.1 hc with hc | hc
    · exact .inr ⟨_, hword, hc⟩
    · exact (ih hc).imp_left (List.mem_cons_of_mem _)

/-! ### Parts -/

theorem append (h : Filled star IsWord a s) (h' : Filled star IsWord b t) :
    Filled star IsWord (a ++ b) (s ++ t) := by
  induction h with
  | nil => exact h'
  | keep _ ih => exact .keep ih
  | fill hword _ ih =>
    rw [List.append_assoc]
    exact .fill hword ih

theorem of_append (h : Filled star IsWord (a ++ b) s) :
    ∃ t u, s = t ++ u ∧ Filled star IsWord a t ∧ Filled star IsWord b u := by
  induction a generalizing s with
  | nil => exact ⟨[], s, rfl, .nil, h⟩
  | cons c a ih =>
    cases h with
    | keep h =>
      obtain ⟨t, u, rfl, ha, hb⟩ := ih h
      exact ⟨c :: t, u, rfl, .keep ha, hb⟩
    | fill hword h =>
      obtain ⟨t, u, rfl, ha, hb⟩ := ih h
      exact ⟨_ ++ t, u, (List.append_assoc ..).symm, .fill hword ha, hb⟩

/-- What has no star is kept. -/
theorem eq_of_not_mem (hstar : star ∉ a) (h : Filled star IsWord a s) : s = a := by
  induction h with
  | nil => rfl
  | keep _ ih => rw [ih fun hin => hstar (List.mem_cons_of_mem _ hin)]
  | fill => exact absurd List.mem_cons_self hstar

theorem of_append_left (hstar : star ∉ a) (h : Filled star IsWord (a ++ b) s) :
    ∃ u, s = a ++ u ∧ Filled star IsWord b u := by
  obtain ⟨t, u, rfl, ha, hb⟩ := of_append h
  exact ⟨u, by rw [eq_of_not_mem hstar ha], hb⟩

theorem of_cons {c : α} (hc : c ≠ star) (h : Filled star IsWord (c :: a) s) :
    ∃ u, s = c :: u ∧ Filled star IsWord a u :=
  of_append_left (a := [c]) (by simpa using hc.symm) h

/-- What begins no word is kept from the template. -/
theorem of_append_right (hword : ∀ w, IsWord w → ∃ c v, w = c :: v ∧ c ∉ b) (h : Filled star IsWord a (b ++ s)) :
    ∃ a', a = b ++ a' ∧ Filled star IsWord a' s := by
  induction b generalizing a with
  | nil => exact ⟨a, rfl, h⟩
  | cons c b ih =>
    generalize hs : c :: b ++ s = t at h
    cases h with
    | nil => cases hs
    | keep h =>
      obtain ⟨rfl, rfl⟩ := List.cons.inj hs
      have hword' : ∀ w, IsWord w → ∃ c v, w = c :: v ∧ c ∉ b := fun w hw => by
        obtain ⟨d, v, rfl, hd⟩ := hword w hw
        exact ⟨d, v, rfl, fun hin => hd (List.mem_cons_of_mem _ hin)⟩
      obtain ⟨a', rfl, hrest⟩ := ih hword' h
      exact ⟨a', rfl, hrest⟩
    | fill hw =>
      obtain ⟨d, v, rfl, hd⟩ := hword _ hw
      obtain ⟨rfl, -⟩ := List.cons.inj hs
      exact absurd List.mem_cons_self hd

theorem mem_of_template {c : α} (h : Filled star IsWord a s) (hc : c ∈ a) (hstar : c ≠ star) : c ∈ s := by
  obtain ⟨before, after, rfl⟩ := List.append_of_mem hc
  obtain ⟨t, u, rfl, -, hu⟩ := h.of_append
  obtain ⟨v, rfl, -⟩ := hu.of_cons hstar
  exact List.mem_append_right t List.mem_cons_self

/-- Where each word has an element that the text does not have, no word was put in. -/
theorem eq_of_words {c : α} (h : Filled star IsWord a s) (hword : ∀ w, IsWord w → c ∈ w) (hc : c ∉ s) :
    s = a := by
  induction h with
  | nil => rfl
  | keep _ ih => rw [ih fun hin => hc (List.mem_cons_of_mem _ hin)]
  | fill hw => exact absurd (List.mem_append_left _ (hword _ hw)) hc

/-! ### Readers -/

theorem reverse (h : Filled star IsWord a s) :
    Filled star (fun w => IsWord w.reverse) a.reverse s.reverse := by
  induction h with
  | nil => exact .nil
  | keep _ ih =>
    rw [List.reverse_cons, List.reverse_cons]
    exact ih.append (.refl _)
  | @fill word _ _ hword _ ih =>
    rw [List.reverse_cons, List.reverse_append]
    refine ih.append ?_
    rw [← List.append_nil word.reverse]
    exact .fill (by rwa [List.reverse_reverse]) .nil

theorem filter (hstar : test star = true) (hword : ∀ w, IsWord w → ∀ c ∈ w, test c = true)
    (h : Filled star IsWord a s) : Filled star IsWord (a.filter test) (s.filter test) := by
  induction h with
  | nil => exact .nil
  | @keep c _ _ _ ih =>
    by_cases hc : test c = true
    · rw [List.filter_cons_of_pos hc, List.filter_cons_of_pos hc]
      exact .keep ih
    · rw [List.filter_cons_of_neg hc, List.filter_cons_of_neg hc]
      exact ih
  | fill hw _ ih =>
    rw [List.filter_cons_of_pos hstar, List.filter_append, List.filter_eq_self.2 (hword _ hw)]
    exact .fill hw ih

theorem takeWhile (hstar : test star = true) (hword : ∀ w, IsWord w → ∀ c ∈ w, test c = true)
    (h : Filled star IsWord a s) : Filled star IsWord (a.takeWhile test) (s.takeWhile test) := by
  induction h with
  | nil => exact .nil
  | @keep c _ _ _ ih =>
    by_cases hc : test c = true
    · rw [List.takeWhile_cons_of_pos hc, List.takeWhile_cons_of_pos hc]
      exact .keep ih
    · rw [List.takeWhile_cons_of_neg hc, List.takeWhile_cons_of_neg hc]
      exact .nil
  | fill hw _ ih =>
    rw [List.takeWhile_cons_of_pos hstar, List.takeWhile_append_of_pos (hword _ hw)]
    exact .fill hw ih

theorem dropWhile (hstar : test star = false)
    (hword : ∀ w, IsWord w → w ≠ [] ∧ ∀ c ∈ w, test c = false) (h : Filled star IsWord a s) :
    Filled star IsWord (a.dropWhile test) (s.dropWhile test) := by
  induction h with
  | nil => exact .nil
  | @keep c _ _ h ih =>
    by_cases hc : test c = true
    · rw [List.dropWhile_cons_of_pos hc, List.dropWhile_cons_of_pos hc]
      exact ih
    · rw [List.dropWhile_cons_of_neg hc, List.dropWhile_cons_of_neg hc]
      exact .keep h
  | fill hw h =>
    obtain ⟨hne, hall⟩ := hword _ hw
    obtain ⟨c, rest, rfl⟩ := List.exists_cons_of_ne_nil hne
    rw [List.dropWhile_cons_of_neg (by simp [hstar]), List.cons_append,
      List.dropWhile_cons_of_neg (by simp [hall c List.mem_cons_self]), ← List.cons_append]
    exact .fill hw h

end

end Filled

/-- A word of small letters. -/
structure IsWord (w : List Char) : Prop where
  ne_nil : w ≠ []
  lower : ∀ c ∈ w, c.isLower = true

end PagePolicy.Text
