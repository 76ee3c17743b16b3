import PagePolicy.Text.Bytes

/-! What stands at an offset of a text, and between two offsets. -/

namespace PagePolicy.Text

/-- Whether a character starts at an offset of a text, or the text ends there. -/
def IsBoundary (s : List Char) (n : Nat) : Prop :=
  ∃ before after, s = before ++ after ∧ byteLength before = n

/-- Whether a piece of a text is what stands between two offsets. -/
def Between (s : List Char) (start stop : Nat) (piece : List Char) : Prop :=
  ∃ before after, s = before ++ (piece ++ after) ∧ byteLength before = start ∧
    start + byteLength piece = stop

section
variable {s t piece : List Char} {n start stop : Nat}

theorem dropBytes?_eq_some_iff :
    dropBytes? s n = some t ↔ ∃ before, s = before ++ t ∧ byteLength before = n := by
  constructor
  · intro h
    fun_induction dropBytes? s n with
    | case1 s => exact ⟨[], (Option.some.inj h).symm ▸ rfl, rfl⟩
    | case2 => cases h
    | case3 c s n hle ih =>
      obtain ⟨before, rfl, hlength⟩ := ih h
      refine ⟨c :: before, rfl, ?_⟩
      rw [byteLength, hlength]
      omega
    | case4 => cases h
  · rintro ⟨before, rfl, rfl⟩
    exact dropBytes?_byteLength before t

theorem dropBytes?_eq_none_iff : dropBytes? s n = none ↔ ¬ IsBoundary s n := by
  rw [Option.eq_none_iff_forall_not_mem]
  constructor
  · rintro h ⟨before, after, hs, hlength⟩
    exact h after (dropBytes?_eq_some_iff.2 ⟨before, hs, hlength⟩)
  · rintro h after hafter
    obtain ⟨before, hs, hlength⟩ := dropBytes?_eq_some_iff.1 hafter
    exact h ⟨before, after, hs, hlength⟩

/-- What stands behind so many bytes of a text does not depend on how the text is split there. -/
theorem eq_of_byteLength_eq {before before' t' : List Char} (h : before ++ t = before' ++ t')
    (hlength : byteLength before = byteLength before') : t = t' := by
  have ht := dropBytes?_byteLength before t
  rw [h, hlength, dropBytes?_byteLength] at ht
  exact (Option.some.inj ht).symm

theorem Between.start_boundary (h : Between s start stop piece) : IsBoundary s start := by
  obtain ⟨before, after, hs, hstart, -⟩ := h
  exact ⟨before, piece ++ after, hs, hstart⟩

theorem Between.stop_boundary (h : Between s start stop piece) : IsBoundary s stop := by
  obtain ⟨before, after, hs, hstart, hstop⟩ := h
  refine ⟨before ++ piece, after, by rw [hs, List.append_assoc], ?_⟩
  rw [byteLength_append, hstart, hstop]

theorem Between.le (h : Between s start stop piece) : start ≤ stop := by
  obtain ⟨_, _, _, _, hstop⟩ := h
  exact Nat.le.intro hstop

theorem IsBoundary.le (h : IsBoundary s n) : n ≤ byteLength s := by
  obtain ⟨before, after, rfl, rfl⟩ := h
  rw [byteLength_append]
  exact Nat.le_add_right _ _

end

end PagePolicy.Text
