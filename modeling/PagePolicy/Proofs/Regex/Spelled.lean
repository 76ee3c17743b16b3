import PagePolicy.Proofs.Regex.Parsed

/-! Texts that spell regular expressions one after another, without alternatives and groups. -/

namespace PagePolicy

namespace Regex

/-- The regular expression that matches what some others match one after another. -/
def chain (parts : List Regex) : Regex :=
  parts.foldr seq empty

/-- A part without groups and brackets, which is nested only if it is a loop. -/
def plainPart (a : Regex) : Nested Regex :=
  match a with
  | loop .. => ⟨a, 1⟩
  | _ => .leaf a

private theorem value_plainPart (a : Regex) : (plainPart a).value = a := by
  cases a <;> rfl

private theorem depth_plainPart_le (a : Regex) : (plainPart a).depth ≤ 1 := by
  cases a with
  | loop => exact Nat.le_refl 1
  | _ => exact Nat.zero_le 1

/-- A text spells regular expressions when reading it, before whatever follows, adds them to the parts that
have been read. A question mark that follows would go with the last part. -/
structure Spells (text : List Char) (parts : List Regex) : Prop where
  head : text.head? ≠ some '?'
  reads (names : List (List Char)) (done : Option (Nested Regex)) (before : Parts)
    (rest : List Char) : rest.head? ≠ some '?' →
      (alternatives {} names done before (text ++ rest)).map Text.Reading.result =
        (alternatives {} names done ((parts.map (some ∘ plainPart)).reverse ++ before) rest).map
          Text.Reading.result

private theorem joinParts_value (parts : List Regex) :
    (joinParts (parts.map (some ∘ plainPart)).reverse).value = chain parts := by
  simp only [joinParts, chain, List.foldl_reverse, List.foldr_map, Function.comp_apply, Option.elim_some,
    value_plainPart]

private theorem rowDepth_le {ns : List Nat} {n : Nat} (h : ∀ m ∈ ns, m ≤ n) : rowDepth ns ≤ n + 1 := by
  have hmax : ns.foldr max 0 ≤ n := by
    induction ns with
    | nil => exact Nat.zero_le n
    | cons m ns ih =>
      obtain ⟨hm, hns⟩ := List.forall_mem_cons.1 h
      exact Nat.max_le.2 ⟨hm, ih hns⟩
  unfold rowDepth
  split
  · exact Nat.zero_le _
  · exact Nat.le_succ_of_le (h _ List.mem_cons_self)
  · exact Nat.succ_le_succ hmax

private theorem joinParts_depth_le (parts : List Regex) :
    (joinParts (parts.map (some ∘ plainPart)).reverse).depth ≤ 2 := by
  refine rowDepth_le fun n hn => ?_
  obtain ⟨part, hpart, rfl⟩ := List.mem_map.1 hn
  obtain ⟨a, -, rfl⟩ := List.mem_map.1 (List.mem_reverse.1 hpart)
  exact depth_plainPart_le a

theorem Spells.nil : Spells [] [] where
  head := nofun
  reads _ _ _ _ _ := rfl

theorem Spells.append {s t : List Char} {as bs : List Regex} (hs : Spells s as) (ht : Spells t bs) :
    Spells (s ++ t) (as ++ bs) where
  head := by
    cases s with
    | nil => exact ht.head
    | cons c s => exact hs.head
  reads names done before rest hrest := by
    have hnext : (t ++ rest).head? ≠ some '?' := by
      cases t with
      | nil => exact hrest
      | cons c t => exact ht.head
    rw [List.append_assoc, hs.reads _ _ _ _ hnext, ht.reads _ _ _ _ hrest, List.map_append,
      List.reverse_append, List.append_assoc]

/-- A text spells a part if that is what its first character begins. -/
theorem spells_of_single {c : Char} {text : List Char} {a : Regex} (hhead : c ≠ '?')
    (hc : c ∉ [')', '|', '('] ++ loopSigns)
    (h : ∀ rest, ∃ hle, single {} c (text ++ rest) = some ⟨plainPart a, rest, hle⟩) :
    Spells (c :: text) [a] where
  head := by simpa using hhead
  reads names done before rest _ := by
    obtain ⟨hle, hread⟩ := h rest
    simp only [List.mem_append, List.mem_cons, List.not_mem_nil, or_false, not_or] at hc
    have hstep : step {} (c :: (text ++ rest)) = some ⟨c, text ++ rest, Nat.lt_succ_self _⟩ := rfl
    rw [List.cons_append, alternatives, hstep]
    simp only [hc.1, hc.2, if_false]
    rw [hread]
    exact Text.result_widen _ _

/-- No question mark is taken where none is next. -/
theorem accept_questionMark {rest : List Char} (h : rest.head? ≠ some '?') :
    Text.Reader.accept ['?'] rest = some ⟨false, rest, Nat.le_refl _⟩ := by
  have hnot : ¬ ['?'].isPrefixOf rest = true := by
    rw [List.isPrefixOf_iff_prefix]
    rintro ⟨t, rfl⟩
    exact h rfl
  rw [Text.Reader.accept, if_neg hnot]

/-- A star after a text that spells one part repeats the part. -/
theorem Spells.star {text : List Char} {a : Regex} (hplain : plainPart a = .leaf a) (h : Spells text [a]) :
    Spells (text ++ ['*']) [loop a 0 none] where
  head := by
    cases text with
    | nil => nofun
    | cons c text => exact h.head
  reads names done before rest hrest := by
    have hstep : step {} ('*' :: rest) = some ⟨'*', rest, Nat.lt_succ_self _⟩ := rfl
    have hbounds : loopBounds {} '*' rest = some ⟨(0, none), rest, Nat.le_refl _⟩ :=
      calc
        loopBounds {} '*' rest = (Text.Reader.accept ['?'] rest).bind fun r =>
            some ⟨(0, none), r.rest, r.length_le⟩ := rfl
        _ = some ⟨(0, none), rest, Nat.le_refl _⟩ := by rw [accept_questionMark hrest]; rfl
    have hloop : '*' ∈ loopSigns := by decide
    rw [List.append_assoc, h.reads _ _ _ _ (by simp), List.singleton_append, alternatives, hstep]
    simp only [hloop, Char.reduceEq, if_true, if_false, List.map_cons, List.map_nil, Function.comp_apply,
      hplain, List.reverse_singleton, List.singleton_append]
    rw [hbounds]
    exact Text.result_widen _ _

/-- A text that spells parts is read as the chain of them. -/
theorem Spells.parse_eq {text : List Char} {parts : List Regex} (h : Spells text parts) :
    parse {} text = some (chain parts) := by
  have hread := h.reads [] none [] [] nofun
  rw [List.append_nil, List.append_nil] at hread
  have hall : Text.Reader.results (alternatives {} [] none []) text =
      some ((joinParts (parts.map (some ∘ plainPart)).reverse, []), []) :=
    hread.trans (results_alternatives_nil (dropSpace_nil {}))
  rw [← joinParts_value parts]
  exact parse_eq_some_iff.2
    ⟨_, Nat.le_trans (joinParts_depth_le parts) (by decide), read_eq_some_iff.2 ⟨[], hall⟩⟩

end Regex

end PagePolicy
