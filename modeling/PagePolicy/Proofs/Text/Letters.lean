import Mathlib.Data.List.Basic

/-! Letters and digits of ASCII, and the texts that are made of them. -/

namespace PagePolicy.Text

section
variable {c : Char}

theorem toNat_of_isAlpha (h : c.isAlpha = true) :
    (65 ≤ c.toNat ∧ c.toNat ≤ 90) ∨ (97 ≤ c.toNat ∧ c.toNat ≤ 122) := by
  rcases Bool.or_eq_true_iff.1 h with h | h
  · exact .inl (of_decide_eq_true h)
  · obtain ⟨hlower, hupper⟩ := Bool.and_eq_true_iff.1 h
    exact .inr ⟨of_decide_eq_true hlower, of_decide_eq_true hupper⟩

theorem isAlpha_of_isLower (h : c.isLower = true) : c.isAlpha = true :=
  Bool.or_eq_true_iff.2 (.inr h)

theorem toNat_of_isLower (h : c.isLower = true) : 97 ≤ c.toNat ∧ c.toNat ≤ 122 := by
  obtain ⟨hlower, hupper⟩ := Bool.and_eq_true_iff.1 h
  exact ⟨of_decide_eq_true hlower, of_decide_eq_true hupper⟩

theorem ne_of_isLower (h : c.isLower = true) {d : Char} (hd : d.isLower = false) : c ≠ d := by
  rintro rfl
  exact Bool.false_ne_true (hd.symm.trans h)

theorem isAlphanum_iff : c.isAlphanum = true ↔ c.isAlpha = true ∨ c.isDigit = true :=
  Bool.or_eq_true_iff

theorem toNat_of_isDigit (h : c.isDigit = true) : 48 ≤ c.toNat ∧ c.toNat ≤ 57 := by
  obtain ⟨hlower, hupper⟩ := Bool.and_eq_true_iff.1 h
  exact ⟨of_decide_eq_true hlower, of_decide_eq_true hupper⟩

/-! What is between the first and the last letter or digit of one kind. -/

theorem isAlphanum_of_upper (h : 'A' ≤ c ∧ c ≤ 'Z') : c.isAlphanum = true :=
  isAlphanum_iff.2 (.inl (Bool.or_eq_true_iff.2 (.inl (decide_eq_true h))))

theorem isAlphanum_of_lower (h : 'a' ≤ c ∧ c ≤ 'z') : c.isAlphanum = true :=
  isAlphanum_iff.2 (.inl (isAlpha_of_isLower
    (Bool.and_eq_true_iff.2 ⟨decide_eq_true h.1, decide_eq_true h.2⟩)))

theorem isAlphanum_of_digit (h : '0' ≤ c ∧ c ≤ '9') : c.isAlphanum = true :=
  isAlphanum_iff.2 (.inr (Bool.and_eq_true_iff.2 ⟨decide_eq_true h.1, decide_eq_true h.2⟩))

theorem mem_intercalate {sep : List Char} {parts : List (List Char)} (h : c ∈ sep.intercalate parts) :
    c ∈ sep ∨ ∃ part ∈ parts, c ∈ part := by
  induction parts with
  | nil => cases h
  | cons part parts ih =>
    cases parts with
    | nil => exact .inr ⟨part, List.mem_singleton_self _, by simpa [List.intercalate] using h⟩
    | cons next parts =>
      have hcons : sep.intercalate (part :: next :: parts) =
          part ++ sep ++ sep.intercalate (next :: parts) := by simp [List.intercalate]
      rw [hcons, List.append_assoc] at h
      rcases List.mem_append.1 h with h | h
      · exact .inr ⟨part, List.mem_cons_self, h⟩
      · rcases List.mem_append.1 h with h | h
        · exact .inl h
        · exact (ih h).imp_right fun ⟨p, hp, hc⟩ => ⟨p, List.mem_cons_of_mem _ hp, hc⟩

theorem isAlphanum_of_mem_toDigits {base n : Nat} (hpos : 0 < base) (hbase : base ≤ 16)
    (h : c ∈ Nat.toDigits base n) : c.isAlphanum = true := by
  have hdigit : ∀ d < 16, (Nat.digitChar d).isAlphanum = true := by decide
  have hcore (fuel n : Nat) (acc : List Char) (h : c ∈ Nat.toDigitsCore base fuel n acc) :
      c ∈ acc ∨ c.isAlphanum = true := by
    induction fuel generalizing n acc with
    | zero => exact .inl h
    | succ fuel ih =>
      have hlast := hdigit (n % base) (Nat.lt_of_lt_of_le (Nat.mod_lt n hpos) hbase)
      have hcons (h : c ∈ Nat.digitChar (n % base) :: acc) : c ∈ acc ∨ c.isAlphanum = true := by
        rcases List.mem_cons.1 h with rfl | h
        · exact .inr hlast
        · exact .inl h
      rw [Nat.toDigitsCore] at h
      split at h
      · exact hcons h
      · exact (ih _ _ h).elim hcons .inr
  exact (hcore _ _ _ h).resolve_left List.not_mem_nil

end

end PagePolicy.Text
