import PagePolicy.Proofs.Text.Search
import PagePolicy.Rule.Text

/-! The lines of a text and the rules that they write. Each line is read on its own, and a rule has the number
of its line. -/

namespace PagePolicy

/-! ### Lines -/

namespace Ruleset

private theorem linesOf_of_not_mem {text : String} (h : '\n' ∉ text.toList) : linesOf text = [text] := by
  rw [linesOf, List.splitOn_eq_singleton h, List.map_singleton, String.ofList_toList]

theorem not_mem_of_mem_linesOf {text line : String} (h : line ∈ linesOf text) : '\n' ∉ line.toList := by
  obtain ⟨part, hpart, rfl⟩ := List.mem_map.1 h
  rw [String.toList_ofList]
  exact Text.not_mem_of_mem_splitOn hpart

/-- A line feed between two texts ends the last line of the first one. -/
theorem linesOf_append (a b : String) : linesOf (a ++ "\n" ++ b) = linesOf a ++ linesOf b := by
  have htext : (a ++ "\n" ++ b).toList = a.toList ++ '\n' :: b.toList := by simp [String.toList_append]
  rw [linesOf, htext, List.splitOn_append_cons_self, List.map_append]
  rfl

theorem intercalate_linesOf (text : String) : "\n".intercalate (linesOf text) = text := by
  have hlines : (linesOf text).map String.toList = List.splitOn '\n' text.toList := by
    simp [linesOf, Function.comp_def]
  rw [← String.toList_inj, String.toList_intercalate, hlines]
  exact List.intercalate_splitOn '\n'

/-- Lines put together are the lines of the text that they make. -/
theorem linesOf_intercalate {lines : List String} (hne : lines ≠ [])
    (h : ∀ line ∈ lines, '\n' ∉ line.toList) : linesOf ("\n".intercalate lines) = lines := by
  induction lines with
  | nil => exact absurd rfl hne
  | cons line rest ih =>
    obtain ⟨hline, hrest⟩ := List.forall_mem_cons.1 h
    by_cases hempty : rest = []
    · rw [hempty, String.intercalate_singleton, linesOf_of_not_mem hline]
    · rw [String.intercalate_cons_of_ne_nil hempty, linesOf_append, linesOf_of_not_mem hline, ih hempty hrest]
      rfl

end Ruleset

/-! ### Rules on lines -/

/-- The rule on a line whose number follows from the one it has. -/
def Rule.renumber (f : Nat → Nat) (rule : Rule) : Rule :=
  { rule with line := f rule.line }

namespace Ruleset

theorem rulesFrom_cons (n : Nat) (raw : String) (lines : List String) :
    rulesFrom n (raw :: lines) = (Rule.ofLine raw n).toList ++ rulesFrom (n + 1) lines := by
  rw [rulesFrom, List.zipIdx_cons]
  cases h : Rule.ofLine raw n with
  | none => exact List.filterMap_cons_none h
  | some rule => exact List.filterMap_cons_some h

theorem rulesFrom_append (n : Nat) (first later : List String) :
    rulesFrom n (first ++ later) = rulesFrom n first ++ rulesFrom (n + first.length) later := by
  rw [rulesFrom, List.zipIdx_append, List.filterMap_append]
  rfl

/-- Lines further down write the same rules, which have greater numbers. -/
theorem rulesFrom_add (n k : Nat) (lines : List String) :
    rulesFrom (n + k) lines = (rulesFrom n lines).map (Rule.renumber (· + k)) := by
  induction lines generalizing n with
  | nil => rfl
  | cons raw lines ih =>
    have hfirst : Rule.ofLine raw (n + k) = (Rule.ofLine raw n).map (Rule.renumber (· + k)) := by
      rw [Rule.ofLine, Rule.ofLine, Option.map_map]
      rfl
    rw [rulesFrom_cons, rulesFrom_cons, List.map_append, hfirst, ← ih (n + 1), Nat.add_right_comm]
    cases Rule.ofLine raw n <;> rfl

/-- The rules are those that the lines write, each with the number of its line. -/
theorem mem_rulesFrom_iff {n : Nat} {lines : List String} {rule : Rule} :
    rule ∈ rulesFrom n lines ↔
      ∃ k raw, lines[k]? = some raw ∧ ∃ l, Line.read raw = some l ∧ rule = l.rule (n + k) := by
  simp only [rulesFrom, List.mem_filterMap, List.mem_zipIdx_iff_le_and_getElem?_sub, Prod.exists,
    Rule.ofLine, Option.map_eq_some_iff]
  constructor
  · rintro ⟨raw, m, ⟨hle, hm⟩, l, hl, rfl⟩
    exact ⟨m - n, raw, hm, l, hl, by rw [Nat.add_sub_cancel' hle]⟩
  · rintro ⟨k, raw, hk, l, hl, rfl⟩
    exact ⟨raw, n + k, ⟨Nat.le_add_right n k, by rw [Nat.add_sub_cancel_left]; exact hk⟩, l, hl, rfl⟩

theorem le_line_of_mem_rulesFrom {n : Nat} {lines : List String} {rule : Rule} (h : rule ∈ rulesFrom n lines) :
    n ≤ rule.line ∧ rule.line < n + lines.length := by
  obtain ⟨k, raw, hk, l, -, rfl⟩ := mem_rulesFrom_iff.1 h
  exact ⟨Nat.le_add_right n k, Nat.add_lt_add_left (List.getElem?_eq_some_iff.1 hk).1 n⟩

theorem rulesFrom_pairwise (n : Nat) (lines : List String) :
    (rulesFrom n lines).Pairwise fun rule later => rule.line < later.line := by
  induction lines generalizing n with
  | nil => exact .nil
  | cons raw lines ih =>
    rw [rulesFrom_cons]
    cases hraw : Rule.ofLine raw n with
    | none => exact ih (n + 1)
    | some rule =>
      obtain ⟨l, -, rfl⟩ := Option.map_eq_some_iff.1 hraw
      exact .cons (fun later hlater => (le_line_of_mem_rulesFrom hlater).1) (ih (n + 1))

end Ruleset

end PagePolicy
