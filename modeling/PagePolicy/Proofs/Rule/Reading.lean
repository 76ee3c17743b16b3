import Mathlib.Data.List.Infix
import PagePolicy.Proofs.Findings
import PagePolicy.Proofs.Rule.Lines

/-! A text of rules is read once for its rules, and the lines of its rules are read again for what is found about
them. Both times the parts of a line are the same. -/

namespace PagePolicy

/-! ### The clause of a line -/

namespace Line

theorem condition_eq_some_iff {l : Line} {a : Condition} : l.condition = some a ↔ l.clause = .parsed a := by
  rw [condition]
  cases l.clause <;> simp

private theorem ofSource_ne_malformed (source : String) : Clause.ofSource source ≠ .malformed := by
  rw [Clause.ofSource]
  cases Condition.parse source <;> nofun

/-- The mark of a condition stays in a pattern exactly where the clause after the mark is malformed. -/
theorem splitClause_malformed_iff (s : List Char) :
    (splitClause s).2 = .malformed ↔ conditionMark <:+: (splitClause s).1 := by
  rw [splitClause]
  split
  next h => simpa using Text.splitAtFirst_eq_none h
  next pattern clause h =>
    split
    next => simpa using ⟨pattern, clause, (Text.append_of_splitAtFirst h).symm⟩
    next source _ =>
      have hpattern : ¬ conditionMark <:+: Text.trim Text.isBlank pattern := fun hin =>
        Text.not_infix_of_splitAtFirst (by decide) h (hin.trans (Text.trim_infix _ pattern))
      simp [hpattern, ofSource_ne_malformed]

/-- A line that is read has some pattern with the clause after it. -/
theorem exists_withAction_of_read {raw : String} {l : Line} (h : read raw = some l) :
    ∃ action color unrecognized s, l = withAction action color unrecognized s := by
  unfold read at h
  split at h
  next => cases h
  next => cases h
  next => exact ⟨_, _, _, _, (Option.some.inj h).symm⟩
  next => split at h <;> exact ⟨_, _, _, _, (Option.some.inj h).symm⟩
  next => exact ⟨_, _, _, _, (Option.some.inj h).symm⟩

/-- What a line that is read has in parentheses after its pattern is read as a condition. -/
theorem exists_ofSource_of_read {raw : String} {l : Line} (h : read raw = some l) :
    l.clause = .absent ∨ l.clause = .malformed ∨ ∃ source, l.clause = Clause.ofSource source := by
  obtain ⟨action, color, unrecognized, s, rfl⟩ := exists_withAction_of_read h
  have hclause : (withAction action color unrecognized s).clause = (splitClause s).2 := rfl
  rw [hclause, splitClause]
  split
  next => exact .inl rfl
  next =>
    split
    next => exact .inr (.inl rfl)
    next => exact .inr (.inr ⟨_, rfl⟩)

private theorem clause_eq_malformed_iff {raw : String} {l : Line} (h : read raw = some l) :
    l.clause = .malformed ↔ conditionMark <:+: l.pattern.toList := by
  obtain ⟨action, color, unrecognized, s, rfl⟩ := exists_withAction_of_read h
  have hpattern : (withAction action color unrecognized s).pattern.toList = (splitClause s).1 :=
    String.toList_ofList
  rw [hpattern]
  exact splitClause_malformed_iff s

end Line

/-! ### Rules and their lines -/

section
variable {text : String} {rule : Rule}

theorem Ruleset.exists_line_of_mem_parse (h : rule ∈ (Ruleset.parse text).rules) :
    ∃ raw l, (Ruleset.parse text).line? rule.line = some raw ∧ Line.read raw = some l ∧
      rule = l.rule rule.line := by
  obtain ⟨k, raw, hk, l, hl, rfl⟩ := mem_rulesFrom_iff.1 h
  refine ⟨raw, l, ?_, hl, rfl⟩
  rw [show (l.rule (1 + k)).line = k + 1 from Nat.add_comm 1 k]
  exact hk

theorem Ruleset.exists_rule_iff {n : Nat} {raw : String} (h : (Ruleset.parse text).line? n = some raw) :
    (∃ rule ∈ (Ruleset.parse text).rules, rule.line = n) ↔ Line.read raw ≠ none := by
  constructor
  · rintro ⟨rule, hrule, rfl⟩
    obtain ⟨raw', l, hraw, hl, -⟩ := exists_line_of_mem_parse hrule
    obtain rfl : raw = raw' := Option.some.inj (h.symm.trans hraw)
    rw [hl]
    exact Option.some_ne_none l
  · intro hne
    obtain ⟨l, hl⟩ := Option.ne_none_iff_exists'.1 hne
    cases n with
    | zero => cases h
    | succ k => exact ⟨l.rule (1 + k), mem_rulesFrom_iff.2 ⟨k, raw, h, l, hl, rfl⟩, Nat.add_comm 1 k⟩

end

/-! ### Findings about lines -/

/-- Whether a finding is about the line of a rule. The others are about the rule alone. -/
def Finding.isAboutLine : Finding → Bool
  | malformedCondition | invalidCondition _ | unrecognizedDirective => true
  | invalidPattern _ | invalidConditionRegex _ _ | duplicateRule _ => false

section
variable [Regex.Engine] {test : Finding → Bool}

/-- Of the findings about a rule those about its line come from the text of the rule. -/
theorem Rule.filter_findings (htest : ∀ f, test f = true → f.isAboutLine = true) (lines : Ruleset)
    (earlier : List Rule) (rule : Rule) :
    (rule.findings lines earlier).filter test = (rule.sourceFindings lines).filter test := by
  have hnone {found : List Finding} (h : ∀ f ∈ found, f.isAboutLine = false) : found.filter test = [] := by
    rw [List.filter_eq_nil_iff]
    intro f hf hpass
    exact Bool.false_ne_true ((h f hf).symm.trans (htest f hpass))
  have hpattern : rule.patternFindings.filter test = [] := by
    refine hnone fun f hf => ?_
    obtain ⟨e, -, rfl⟩ := Option.map_eq_some_iff.1 (Option.mem_toList.1 hf)
    rfl
  have hcondition : rule.conditionFindings.filter test = [] := by
    refine hnone fun f hf => ?_
    obtain ⟨a, -, x, -, hx⟩ := mem_conditionFindings.1 hf
    obtain ⟨e, -, rfl⟩ := regexFinding_eq_some.1 hx
    rfl
  have hduplicate : (rule.duplicateFindings earlier).filter test = [] := by
    refine hnone fun f hf => ?_
    obtain ⟨first, -, rfl⟩ := Option.map_eq_some_iff.1 (Option.mem_toList.1 hf)
    rfl
  rw [findings, List.filter_append, List.filter_append, List.filter_append, hpattern, hcondition, hduplicate,
    List.append_nil, List.append_nil, List.append_nil]

/-- The diagnostics about lines, rule by rule. -/
theorem Ruleset.filter_diagnostics (htest : ∀ f, test f = true → f.isAboutLine = true) (r : Ruleset) :
    r.lint.diagnostics.filter (test ·.finding) =
      r.rules.flatMap fun rule => ((rule.sourceFindings r).filter test).map (⟨rule.line, ·⟩) := by
  have hafter (earlier rules : List Rule) :
      (diagnosticsAfter r earlier rules).filter (test ·.finding) =
        rules.flatMap fun rule => ((rule.sourceFindings r).filter test).map (⟨rule.line, ·⟩) := by
    induction rules generalizing earlier with
    | nil => rfl
    | cons rule rules ih =>
      rw [diagnosticsAfter, List.filter_append, ih, List.flatMap_cons, List.filter_map,
        ← Rule.filter_findings htest r earlier rule]
      rfl
  exact hafter [] r.rules

end

/-! ### Conditions that are left out -/

/-- A rule without the condition that its line has, with the text of the condition and what is wrong with it. -/
structure Refusal where
  rule : Rule
  source : String
  error : Condition.ParseError

namespace Refusal

def event (c : Refusal) : Event :=
  let cause := s!"condition ({c.source}) does not parse: {c.error.message}"
  ⟨.warning, .rules, s!"line {c.rule.line}: {cause}; rule applies unconditionally"⟩

def diagnostic (c : Refusal) : Diagnostic :=
  ⟨c.rule.line, .invalidCondition c.error⟩

end Refusal

/-- What a rule leaves out of a clause. -/
def Rule.refusal? (rule : Rule) : Clause → Option Refusal
  | .invalid source e => some ⟨rule, source, e⟩
  | .absent | .parsed _ | .malformed => none

def Finding.isInvalidCondition : Finding → Bool
  | invalidCondition _ => true
  | _ => false

namespace Ruleset

/-- The rules of a set that leave out a condition on their line. -/
def refusals (r : Ruleset) : List Refusal :=
  r.rules.filterMap fun rule =>
    ((r.line? rule.line).bind Line.read).bind fun l => rule.refusal? l.clause

/-- The conditions that are left out, line by line. -/
theorem refusals_parse (text : String) :
    (parse text).refusals = ((linesOf text).zipIdx 1).filterMap fun (raw, n) =>
      (Line.read raw).bind fun l => (l.rule n).refusal? l.clause := by
  have hline (raw : String) (n : Nat) (hin : (raw, n) ∈ (linesOf text).zipIdx 1) :
      (parse text).line? n = some raw := by
    obtain ⟨hle, hraw⟩ := List.mem_zipIdx_iff_le_and_getElem?_sub.1 hin
    obtain ⟨k, rfl⟩ := Nat.exists_eq_add_of_le' (show 1 ≤ n from hle)
    exact hraw
  have hrules : (parse text).rules = ((linesOf text).zipIdx 1).filterMap fun (raw, n) => Rule.ofLine raw n := rfl
  rw [refusals, hrules, List.filterMap_filterMap]
  refine List.filterMap_congr fun (raw, n) hin => ?_
  cases hread : Line.read raw with
  | none => simp [Rule.ofLine, hread]
  | some l => simp [Rule.ofLine, hread, Line.rule, hline raw n hin]

/-- The warnings about a text are those about the conditions that its rules leave out. -/
theorem filter_parseEvents (text : String) :
    (parseEvents text).filter (·.level = .warning) = (parse text).refusals.map Refusal.event := by
  have hline (raw : String) (n : Nat) : (Line.events raw n).filter (·.level = .warning) =
      (((Line.read raw).bind fun l => (l.rule n).refusal? l.clause).map Refusal.event).toList := by
    rw [Line.events]
    cases Line.read raw with
    | none => rfl
    | some l =>
      cases hclause : l.clause <;> simp [hclause, Rule.refusal?, Refusal.event, Line.rule]
  rw [parseEvents, List.filter_append, List.filter_flatMap, refusals_parse, List.map_filterMap,
    List.filterMap_eq_flatMap_toList]
  exact (List.append_nil _).trans (List.flatMap_congr fun (raw, n) _ => hline raw n)

/-- The diagnostics about conditions that do not parse are those about the conditions that rules leave out. -/
theorem filter_invalidCondition [Regex.Engine] (r : Ruleset) :
    r.lint.diagnostics.filter (·.finding.isInvalidCondition) = r.refusals.map Refusal.diagnostic := by
  have htest (f : Finding) (h : f.isInvalidCondition = true) : f.isAboutLine = true := by
    cases f with
    | invalidCondition e => rfl
    | _ => cases h
  rw [filter_diagnostics htest, refusals, List.map_filterMap, List.filterMap_eq_flatMap_toList]
  refine List.flatMap_congr fun rule _ => ?_
  rw [Rule.sourceFindings]
  cases (r.line? rule.line).bind Line.read with
  | none =>
    dsimp only
    split <;> rfl
  | some l =>
    obtain ⟨action, color, pattern, clause, unrecognized⟩ := l
    cases unrecognized <;> cases clause <;> rfl

/-- In a text of rules, conditions are malformed whose mark stays in the pattern. -/
theorem filter_malformedCondition [Regex.Engine] (text : String) :
    (parse text).lint.diagnostics.filter (·.finding = .malformedCondition) =
      ((parse text).rules.filter fun rule => Line.conditionMark <:+: rule.pattern.toList).map
        (⟨·.line, .malformedCondition⟩) := by
  have htest (f : Finding) (h : decide (f = .malformedCondition) = true) : f.isAboutLine = true := by
    rw [of_decide_eq_true h]
    rfl
  conv_rhs => rw [← List.filterMap_eq_filter, List.map_filterMap, List.filterMap_eq_flatMap_toList]
  rw [filter_diagnostics htest]
  refine List.flatMap_congr fun rule hrule => ?_
  obtain ⟨raw, l, hraw, hl, hparts⟩ := exists_line_of_mem_parse hrule
  have hmark : l.clause = .malformed ↔ Line.conditionMark <:+: rule.pattern.toList := by
    rw [hparts]
    exact Line.clause_eq_malformed_iff hl
  have hfindings : rule.sourceFindings (parse text) = l.findings := by
    rw [Rule.sourceFindings, hraw, Option.bind_some, hl]
  have hfilter : l.findings.filter (· = .malformedCondition) =
      if l.clause = .malformed then [.malformedCondition] else [] := by
    obtain ⟨action, color, pattern, clause, unrecognized⟩ := l
    cases unrecognized <;> cases clause <;> rfl
  rw [hfindings, hfilter]
  by_cases h : l.clause = .malformed
  · simp [h, hmark.1 h, Option.guard]
  · simp [h, mt hmark.2 h, Option.guard]

end Ruleset

/-- Both readings of a text come to the same. Each rule has the parts that its line is read as, in the order of
the lines, and each line that has parts has a rule; nothing of the text is lost in its lines. The conditions
that are found not to parse are those about which there was a warning, with the same error, and a condition
is found malformed where its mark is in the pattern of the rule. -/
theorem lint_agrees_on_lines [Regex.Engine] (text : String) :
    let r := Ruleset.parse text
    (∀ rule ∈ r.rules, ∃ raw l, r.line? rule.line = some raw ∧ Line.read raw = some l ∧
        l.action = rule.action ∧ l.pattern = rule.pattern ∧ l.color = rule.color ∧
          ∀ a, l.clause = .parsed a ↔ rule.condition = some a) ∧
      r.rules.Pairwise (fun rule later => rule.line < later.line) ∧
      (∀ n raw, r.line? n = some raw →
        ((∃ rule ∈ r.rules, rule.line = n) ↔ Line.read raw ≠ none)) ∧
      "\n".intercalate r.lines = text ∧
      (Ruleset.parseEvents text).filter (·.level = .warning) = r.refusals.map Refusal.event ∧
      r.lint.diagnostics.filter (·.finding.isInvalidCondition) = r.refusals.map Refusal.diagnostic ∧
      r.lint.diagnostics.filter (·.finding = .malformedCondition) =
        (r.rules.filter fun rule => " @if ".toList <:+: rule.pattern.toList).map
          (⟨·.line, .malformedCondition⟩) := by
  intro r
  refine ⟨fun rule hrule => ?_, Ruleset.rulesFrom_pairwise 1 _, fun n raw h => Ruleset.exists_rule_iff h,
    Ruleset.intercalate_linesOf text, Ruleset.filter_parseEvents text, r.filter_invalidCondition,
    Ruleset.filter_malformedCondition text⟩
  obtain ⟨raw, l, hraw, hl, hparts⟩ := Ruleset.exists_line_of_mem_parse hrule
  refine ⟨raw, l, hraw, hl, ?_⟩
  rw [hparts]
  exact ⟨rfl, rfl, rfl, fun a => Line.condition_eq_some_iff.symm⟩

end PagePolicy
