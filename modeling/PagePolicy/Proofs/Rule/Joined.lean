import PagePolicy.Proofs.Findings
import PagePolicy.Proofs.Rule.Lines

/-! Texts of rules put one after another, and lines put into a text. What is added overrules what stands before it
and leaves the other rules as they are, apart from the numbers of their lines. -/

namespace PagePolicy

/-! ### The verdict of some rules -/

/-- The verdict on a rule whose number follows from the one it has. -/
def Verdict.renumber (f : Nat → Nat) (v : Verdict) : Verdict :=
  { v with rule := v.rule.renumber f }

/-- The verdict of rules that stand in no text. -/
def Rule.verdictOf [Regex.Engine] (p : Properties) (rules : List Rule) : Option Verdict :=
  (rules.filter (Rule.appliesTo p)).getLast?.map Verdict.ofRule

private theorem Rule.alike_renumber (f : Nat → Nat) (rule : Rule) : (rule.renumber f).Alike rule :=
  ⟨rfl, rfl, rfl, rfl⟩

section
variable (p : Properties)

/-- Later rules have the say if any of them applies. -/
theorem Rule.verdictOf_append [Regex.Engine] (rules later : List Rule) :
    verdictOf p (rules ++ later) = (verdictOf p later).or (verdictOf p rules) := by
  rw [verdictOf, List.filter_append, List.getLast?_append, Option.map_or]
  rfl

/-- The numbers of lines do not matter. -/
theorem Rule.verdictOf_renumber [Regex.Engine] (f : Nat → Nat) (rules : List Rule) :
    verdictOf p (rules.map (renumber f)) = (verdictOf p rules).map (Verdict.renumber f) := by
  have happlies : appliesTo p ∘ renumber f = appliesTo p :=
    funext fun rule => (rule.alike_renumber f).appliesTo p
  rw [verdictOf, List.filter_map, happlies, List.getLast?_map, Option.map_map, verdictOf, Option.map_map]
  rfl

/-- A rule among others decides, or it changes nothing. -/
theorem Rule.verdictOf_inserted [Regex.Engine] (rules later : List Rule) (rule : Rule) :
    verdictOf p (rules ++ rule :: later) = verdictOf p (rules ++ later) ∨
      verdictOf p (rules ++ rule :: later) = some (Verdict.ofRule rule) := by
  have hsingle : verdictOf p [rule] = if rule.appliesTo p then some (Verdict.ofRule rule) else none := by
    rw [verdictOf, List.filter_cons]
    split <;> rfl
  have hcons : verdictOf p (rule :: later) = (verdictOf p later).or (verdictOf p [rule]) :=
    verdictOf_append p [rule] later
  rw [verdictOf_append, verdictOf_append, hcons, hsingle]
  cases verdictOf p later with
  | some v => exact .inl rfl
  | none =>
    split
    · exact .inr rfl
    · exact .inl rfl

private theorem Ruleset.verdict_eq_verdictOf [Regex.Engine] (r : Ruleset) : r.verdict p = Rule.verdictOf p r.rules :=
  verdict_eq_getLast? r p

private theorem Ruleset.isBlocked_eq_any [Regex.Engine] (r : Ruleset) :
    r.isBlocked p = (r.verdict p).any Verdict.isBlocked :=
  rfl

end

/-! ### Texts one after another -/

/-- The number of a line once another line stands behind the first ones. -/
def Rule.numberPast (first n : Nat) : Nat :=
  if n ≤ first then n else n + 1

private theorem Rule.renumber_numberPast_of_le {rule : Rule} {first : Nat} (h : rule.line ≤ first) :
    rule.renumber (numberPast first) = rule := by
  rw [renumber, numberPast, if_pos h]

private theorem Rule.renumber_numberPast_of_lt {rule : Rule} {first : Nat} (h : first < rule.line) :
    rule.renumber (numberPast first) = rule.renumber (· + 1) := by
  rw [renumber, numberPast, if_neg (Nat.not_le.2 h)]
  rfl

/-- Where the verdict stays or a rule decides, a page is blocked as before or as that rule says. -/
theorem Ruleset.isBlocked_moved [Regex.Engine] {r extended : Ruleset} {rule : Rule} {f : Nat → Nat} {p : Properties}
    (h : extended.verdict p = (r.verdict p).map (Verdict.renumber f) ∨
      extended.verdict p = some (Verdict.ofRule rule)) :
    extended.isBlocked p = r.isBlocked p ∨ extended.isBlocked p = decide (rule.action = .block) := by
  rw [isBlocked_eq_any, isBlocked_eq_any]
  rcases h with h | h
  · rw [h, Option.any_map]
    exact .inl rfl
  · rw [h]
    exact .inr rfl

section
variable {text line : String} {before after : List String}

private theorem Ruleset.linesOf_inserted (hlines : linesOf text = before ++ after) (hline : '\n' ∉ line.toList) :
    linesOf ("\n".intercalate (before ++ line :: after)) = before ++ line :: after := by
  refine linesOf_intercalate (by simp) fun other hother => ?_
  have hold (h : other ∈ before ++ after) : '\n' ∉ other.toList := not_mem_of_mem_linesOf (hlines ▸ h)
  rcases List.mem_append.1 hother with hother | hother
  · exact hold (List.mem_append_left after hother)
  · rcases List.mem_cons.1 hother with rfl | hother
    · exact hline
    · exact hold (List.mem_append_right before hother)

/-- The rules before the added line keep their numbers, and those after it have the next ones. -/
theorem Ruleset.rules_renumbered (hlines : linesOf text = before ++ after) :
    (parse text).rules.map (Rule.renumber (Rule.numberPast before.length)) =
      rulesFrom 1 before ++ rulesFrom (1 + before.length + 1) after := by
  have hbefore : (rulesFrom 1 before).map (Rule.renumber (Rule.numberPast before.length)) =
      (rulesFrom 1 before).map id := by
    refine List.map_congr_left fun rule hrule => Rule.renumber_numberPast_of_le ?_
    have hlast := (le_line_of_mem_rulesFrom hrule).2
    omega
  have hafter : (rulesFrom (1 + before.length) after).map (Rule.renumber (Rule.numberPast before.length)) =
      (rulesFrom (1 + before.length) after).map (Rule.renumber (· + 1)) := by
    refine List.map_congr_left fun rule hrule => Rule.renumber_numberPast_of_lt ?_
    have hfirst := (le_line_of_mem_rulesFrom hrule).1
    omega
  have hrules : (parse text).rules = rulesFrom 1 before ++ rulesFrom (1 + before.length) after := by
    rw [← rulesFrom_append, ← hlines]
    rfl
  rw [hrules, List.map_append, hbefore, hafter, List.map_id, ← rulesFrom_add]

/-- A line that is put into a text is a rule among the others, or no rule. -/
theorem Ruleset.rules_inserted (hlines : linesOf text = before ++ after) (hline : '\n' ∉ line.toList) :
    (parse ("\n".intercalate (before ++ line :: after))).rules =
      rulesFrom 1 before ++ ((Rule.ofLine line (before.length + 1)).toList ++
        rulesFrom (1 + before.length + 1) after) := by
  rw [parse, linesOf_inserted hlines hline, rulesFrom_append, rulesFrom_cons, Nat.add_comm 1 before.length]

/-- A line that is put into a text, at any place between its lines, changes the verdict only by its own action. If
it has no rule, the verdict is as before. If it has one, the verdict is as before or that of the rule, so that
a page is not blocked by a rule that does not block, nor opened by one that does. -/
theorem inserted_line_moves_verdict [Regex.Engine] (hlines : Ruleset.linesOf text = before ++ after)
    (hline : '\n' ∉ line.toList) (p : Properties) :
    let r := Ruleset.parse text
    let extended := Ruleset.parse ("\n".intercalate (before ++ line :: after))
    let kept := (r.verdict p).map (Verdict.renumber (Rule.numberPast before.length))
    extended.lines = before ++ line :: after ∧
      (Line.read line = none → extended.verdict p = kept) ∧
      ∀ l, Line.read line = some l →
        (extended.verdict p = kept ∨
            extended.verdict p = some (Verdict.ofRule (l.rule (before.length + 1)))) ∧
          (l.action = .allow ∨ l.action = .highlight →
            extended.isBlocked p = true → r.isBlocked p = true) ∧
          (l.action = .block → r.isBlocked p = true → extended.isBlocked p = true) := by
  intro r extended kept
  have hextended := Ruleset.rules_inserted hlines hline
  have hkept : kept = Rule.verdictOf p (Ruleset.rulesFrom 1 before ++
      Ruleset.rulesFrom (1 + before.length + 1) after) := by
    rw [← Ruleset.rules_renumbered hlines, Rule.verdictOf_renumber, ← Ruleset.verdict_eq_verdictOf]
  refine ⟨Ruleset.linesOf_inserted hlines hline, fun hnone => ?_, fun l hl => ?_⟩
  · rw [Rule.ofLine, hnone, Option.map_none, Option.toList_none, List.nil_append] at hextended
    rw [Ruleset.verdict_eq_verdictOf, hextended, hkept]
  · have hverdict : extended.verdict p = kept ∨
        extended.verdict p = some (Verdict.ofRule (l.rule (before.length + 1))) := by
      rw [Rule.ofLine, hl, Option.map_some, Option.toList_some, List.singleton_append] at hextended
      rw [Ruleset.verdict_eq_verdictOf, hextended, hkept]
      exact Rule.verdictOf_inserted p _ _ _
    have hblocked : extended.isBlocked p = r.isBlocked p ∨
        extended.isBlocked p = decide (l.action = .block) := Ruleset.isBlocked_moved hverdict
    refine ⟨hverdict, fun haction h => ?_, fun haction h => ?_⟩
    · rcases hblocked with heq | heq
      · exact heq.symm.trans h
      · rcases haction with haction | haction <;> rw [heq, haction] at h <;> cases h
    · rcases hblocked with heq | heq
      · exact heq.trans h
      · rw [heq, haction]
        rfl

end

/-- A rule that allows all pages, put before a rule that does not apply, opens a page that was blocked. -/
theorem inserted_line_moves_verdict_between :
    let text := "<all_urls>\n@@b.org/*"
    let line := "@@<all_urls>"
    let p := Properties.ofUrl "https://a.org/"
    let extended := Ruleset.parse ("\n".intercalate (["<all_urls>"] ++ line :: ["@@b.org/*"]))
    Ruleset.linesOf text = ["<all_urls>"] ++ ["@@b.org/*"] ∧ '\n' ∉ line.toList ∧
      (Ruleset.parse text).isBlocked p = true ∧
      extended.verdict p = some (.ofRule ⟨.allow, "<all_urls>", 2, none, none⟩) := by
  intro text line p extended
  have hlines : Ruleset.linesOf text = ["<all_urls>"] ++ ["@@b.org/*"] := by decide +kernel
  have hline : '\n' ∉ line.toList := by decide
  have hread : Line.read line = some ⟨.allow, none, "<all_urls>", .absent, false⟩ := by decide +kernel
  have hblocked : (Ruleset.parse text).isBlocked p = true := by decide +kernel
  have hverdict := ((inserted_line_moves_verdict hlines hline p).2.2 _ hread).1
  have hopen : extended.verdict p ≠
      ((Ruleset.parse text).verdict p).map (Verdict.renumber (Rule.numberPast 1)) := by decide +kernel
  exact ⟨hlines, hline, hblocked, hverdict.resolve_left hopen⟩

end PagePolicy
