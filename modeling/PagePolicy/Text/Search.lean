/-! First occurrences of one text in another. -/

namespace PagePolicy.Text

def splitAtFirst (mark : List Char) : List Char → Option (List Char × List Char)
  | [] => if mark = [] then some ([], []) else none
  | c :: s =>
    if mark.isPrefixOf (c :: s) then some ([], (c :: s).drop mark.length)
    else (splitAtFirst mark s).map fun (before, after) => (c :: before, after)

def occursIn (mark s : List Char) : Bool :=
  (splitAtFirst mark s).isSome

theorem append_of_splitAtFirst {mark s before after : List Char}
    (h : splitAtFirst mark s = some (before, after)) : s = before ++ mark ++ after := by
  induction s generalizing before with
  | nil =>
    simp only [splitAtFirst] at h
    split at h <;> simp_all
  | cons c s ih =>
    rw [splitAtFirst] at h
    split at h
    next hm =>
      obtain ⟨rest, hr⟩ := List.isPrefixOf_iff_prefix.1 hm
      simp only [Option.some.injEq, Prod.mk.injEq] at h
      rw [← h.1, ← h.2, ← hr, List.drop_left, List.nil_append]
    next =>
      obtain ⟨⟨b, a⟩, hs, hb⟩ := Option.map_eq_some_iff.1 h
      obtain ⟨rfl, rfl⟩ := Prod.mk.injEq .. ▸ hb
      rw [ih hs, List.cons_append, List.cons_append]

def splitAtLast (mark : Char) (s : List Char) : Option (List Char × List Char) :=
  let after := s.reverse.takeWhile (· ≠ mark)
  match s.reverse.drop after.length with
  | [] => none
  | _ :: before => some (before.reverse, after.reverse)

/-- The text with every occurrence of a text, found from the left, replaced by another. -/
def replaceAll (mark by' : List Char) (s : List Char) : List Char :=
  match _h : splitAtFirst mark s with
  | none => s
  | some (before, after) =>
    if _hm : mark = [] then s
    else before ++ by' ++ replaceAll mark by' after
  termination_by s.length
  decreasing_by
    have hs := append_of_splitAtFirst _h
    have : 0 < mark.length := List.length_pos_iff.2 _hm
    rw [hs]
    simp only [List.length_append]
    omega

end PagePolicy.Text
