import PagePolicy.Lint
import PagePolicy.Proofs.IdleRules

/-! What findings about rules say about decisions: a rule whose pattern is malformed never decides, nor does one
that is repeated later on, and without a finding about a regular expression none is malformed when pages
are decided on. -/

namespace PagePolicy

/-! ### Where findings come from -/

namespace Ruleset

def diagnosticsAt [Regex.Engine] (r : Ruleset) (j : Nat) : List Diagnostic :=
  match r.rules[j]? with
  | some rule => (rule.findings r (r.rules.take j)).map (⟨rule.line, ·⟩)
  | none => []

/-- A report has the diagnostics about one rule after another. -/
theorem diagnostics_lint [Regex.Engine] (r : Ruleset) :
    r.lint.diagnostics = (List.range r.rules.length).flatMap r.diagnosticsAt := by
  have hafter (earlier rest : List Rule) (hrules : r.rules = earlier ++ rest) :
      diagnosticsAfter r earlier rest =
        (List.range rest.length).flatMap fun j => r.diagnosticsAt (earlier.length + j) := by
    induction rest generalizing earlier with
    | nil => rfl
    | cons rule rest ih =>
      have hfirst : r.diagnosticsAt earlier.length = (rule.findings r earlier).map (⟨rule.line, ·⟩) := by
        simp [diagnosticsAt, hrules]
      rw [diagnosticsAfter, ih (earlier ++ [rule]) (by simp [hrules]), List.length_cons,
        List.range_succ_eq_map, List.flatMap_cons, List.flatMap_map, Nat.add_zero, hfirst]
      simp [Nat.add_assoc, Nat.add_comm 1]
  rw [lint, hafter [] r.rules rfl]
  simp

end Ruleset

section
variable [Regex.Engine] {r : Ruleset} {j : Nat} {rule : Rule}

private theorem mem_diagnosticsAt (hj : r.rules[j]? = some rule) {f : Finding} :
    ⟨rule.line, f⟩ ∈ r.diagnosticsAt j ↔ f ∈ rule.findings r (r.rules.take j) := by
  simp [Ruleset.diagnosticsAt, hj]

theorem mem_diagnostics (hj : r.rules[j]? = some rule) {f : Finding}
    (h : f ∈ rule.findings r (r.rules.take j)) : ⟨rule.line, f⟩ ∈ r.lint.diagnostics := by
  rw [Ruleset.diagnostics_lint, List.mem_flatMap]
  exact ⟨j, List.mem_range.2 (List.getElem?_eq_some_iff.1 hj).1, (mem_diagnosticsAt hj).2 h⟩

end

namespace Rule

section
variable {lines : Ruleset} {earlier : List Rule} {rule : Rule}

/-- The text of a rule is only found to have a condition that is lost or a sign that means nothing. -/
theorem mem_sourceFindings {f : Finding} (h : f ∈ rule.sourceFindings lines) :
    f = .malformedCondition ∨ f = .unrecognizedDirective ∨ ∃ e, f = .invalidCondition e := by
  rw [sourceFindings] at h
  split at h
  next l _ =>
    rw [Line.findings] at h
    rcases List.mem_append.1 h with h | h
    · split at h <;> simp_all
    · split at h <;> simp_all
  next => split at h <;> simp_all

theorem mem_conditionFindings [Regex.Engine] {f : Finding} :
    f ∈ rule.conditionFindings ↔
      ∃ a, rule.condition = some a ∧ ∃ x ∈ a.regexes, regexFinding x.1 x.2 = some f := by
  rw [conditionFindings]
  split
  next h => simp [h]
  next a h => simp [h]

theorem regexFinding_eq_some [Regex.Engine] {pattern : String} {flags : Option String} {f : Finding} :
    regexFinding pattern flags = some f ↔
      ∃ e, (Regex.Literal.ofCondition pattern flags).compile = .error e ∧
        f = .invalidConditionRegex pattern e := by
  rw [regexFinding]
  split
  next h => simp [h]
  next e h => simp [h, eq_comm]

theorem mem_findings [Regex.Engine] {f : Finding} :
    f ∈ rule.findings lines earlier ↔
      f ∈ rule.sourceFindings lines ∨ f ∈ rule.patternFindings ∨ f ∈ rule.conditionFindings ∨
        f ∈ rule.duplicateFindings earlier := by
  simp only [findings, List.mem_append, or_assoc]

/-- A pattern is found malformed exactly when it is, and with the same error. -/
theorem invalidPattern_mem_findings [Regex.Engine] {e : Regex.Error} :
    Finding.invalidPattern e ∈ rule.findings lines earlier ↔
      (Pattern.compile rule.pattern).error? = some e := by
  have hpattern : Finding.invalidPattern e ∈ rule.patternFindings ↔
      (Pattern.compile rule.pattern).error? = some e := by
    simp [patternFindings]
  have hsource : Finding.invalidPattern e ∉ rule.sourceFindings lines :=
    fun h => by simpa using mem_sourceFindings h
  have hcondition : Finding.invalidPattern e ∉ rule.conditionFindings := by
    intro h
    obtain ⟨a, -, x, -, hx⟩ := mem_conditionFindings.1 h
    simpa using regexFinding_eq_some.1 hx
  have hduplicate : Finding.invalidPattern e ∉ rule.duplicateFindings earlier := by
    simp [duplicateFindings]
  rw [mem_findings, hpattern]
  simp [hsource, hcondition, hduplicate]

/-- A rule is found to be a copy of the first one that is the same. -/
theorem duplicateRule_mem_findings [Regex.Engine] {first : Nat} :
    Finding.duplicateRule first ∈ rule.findings lines earlier ↔
      ∃ q, earlier.find? (·.sameAs rule) = some q ∧ q.line = first := by
  have hduplicate : Finding.duplicateRule first ∈ rule.duplicateFindings earlier ↔
      ∃ q, earlier.find? (·.sameAs rule) = some q ∧ q.line = first := by
    simp [duplicateFindings]
  have hsource : Finding.duplicateRule first ∉ rule.sourceFindings lines :=
    fun h => by simpa using mem_sourceFindings h
  have hpattern : Finding.duplicateRule first ∉ rule.patternFindings := by
    simp [patternFindings]
  have hcondition : Finding.duplicateRule first ∉ rule.conditionFindings := by
    intro h
    obtain ⟨a, -, x, -, hx⟩ := mem_conditionFindings.1 h
    simpa using regexFinding_eq_some.1 hx
  rw [mem_findings, hduplicate]
  simp [hsource, hpattern, hcondition]

end

end Rule

/-! ### Malformed regular expressions -/

def Finding.IsAboutRegex (f : Finding) : Prop :=
  (∃ e, f = .invalidPattern e) ∨ ∃ pattern e, f = .invalidConditionRegex pattern e

def CompiledRule.appliesEvent (r : CompiledRule) : Event :=
  let pattern := Text.quoted r.rule.pattern
  ⟨.trace, .decisions, s!"line {r.rule.line}: {r.rule.action.name} {pattern} applies"⟩

private theorem Pattern.accepts_of_error {pattern : Pattern} {e : Regex.Error} (h : pattern.error? = some e)
    (t : Target) : pattern.accepts t = false := by
  unfold error? at h
  split at h
  · rfl
  · cases h

private theorem Rule.appliesTo_of_error [Regex.Engine] {rule : Rule} {e : Regex.Error}
    (h : (Pattern.compile rule.pattern).error? = some e) (p : Properties) :
    rule.appliesTo p = false := by
  have hnot : (CompiledRule.ofRule rule).pattern.accepts (Page.ofProperties p).target = false :=
    Pattern.accepts_of_error h _
  rw [appliesTo, CompiledRule.applies, hnot, Bool.false_and]

/-- The remarks on a condition are those on some of its regular expressions. -/
theorem Condition.exists_regex_of_mem_events [Regex.Engine] {a : Condition} {p : Properties} {event : Event}
    (h : event ∈ a.events p) :
    ∃ r ∈ a.regexes, event ∈ regexEvents r.1 r.2 := by
  induction a with
  | compare property op value => cases h
  | regex property pattern flags =>
    rw [events] at h
    split at h
    next => exact ⟨_, List.mem_singleton_self _, h⟩
    next => cases h
  | not a ih => exact ih h
  | and a b iha ihb =>
    rw [events, List.mem_append, List.mem_ite_nil_right] at h
    rcases h with h | ⟨-, h⟩
    · obtain ⟨r, hr, hevent⟩ := iha h
      exact ⟨r, List.mem_append_left _ hr, hevent⟩
    · obtain ⟨r, hr, hevent⟩ := ihb h
      exact ⟨r, List.mem_append_right _ hr, hevent⟩
  | or a b iha ihb =>
    rw [events, List.mem_append, List.mem_ite_nil_left] at h
    rcases h with h | ⟨-, h⟩
    · obtain ⟨r, hr, hevent⟩ := iha h
      exact ⟨r, List.mem_append_left _ hr, hevent⟩
    · obtain ⟨r, hr, hevent⟩ := ihb h
      exact ⟨r, List.mem_append_right _ hr, hevent⟩

/-- A condition leaves no remark if all its regular expressions are well formed. -/
theorem Condition.events_eq_nil [Regex.Engine] {a : Condition} {p : Properties}
    (h : ∀ x ∈ a.regexes, Rule.regexFinding x.1 x.2 = none) : a.events p = [] := by
  rw [List.eq_nil_iff_forall_not_mem]
  intro event hevent
  obtain ⟨x, hx, hevent⟩ := exists_regex_of_mem_events hevent
  have hnone := h x hx
  rw [regexEvents] at hevent
  rw [Rule.regexFinding] at hnone
  split at hnone
  next hok =>
    rw [hok] at hevent
    cases hevent
  next => cases hnone

section
variable [Regex.Engine] {r : Ruleset}

/-- A rule about which no regular expression is found malformed has none that is. -/
theorem wellFormed_of_no_finding
    (h : ∀ d ∈ r.lint.diagnostics, ¬ d.finding.IsAboutRegex) {rule : Rule} (hrule : rule ∈ r.rules) :
    (Pattern.compile rule.pattern).error? = none ∧
      ∀ a, rule.condition = some a → ∀ x ∈ a.regexes, Rule.regexFinding x.1 x.2 = none := by
  obtain ⟨j, hj⟩ := List.getElem?_of_mem hrule
  constructor
  · rw [Option.eq_none_iff_forall_not_mem]
    intro e he
    exact h _ (mem_diagnostics hj (Rule.invalidPattern_mem_findings.2 he)) (.inl ⟨e, rfl⟩)
  · intro a ha x hx
    rw [Option.eq_none_iff_forall_not_mem]
    intro f hf
    have hmem : f ∈ rule.conditionFindings := Rule.mem_conditionFindings.2 ⟨a, ha, x, hx, hf⟩
    obtain ⟨e, -, rfl⟩ := Rule.regexFinding_eq_some.1 hf
    exact h _ (mem_diagnostics hj (Rule.mem_findings.2 (.inr (.inr (.inl hmem))))) (.inr ⟨_, e, rfl⟩)

private theorem events_ofRule {rule : Rule} {page : Page}
    (h : ∀ a, rule.condition = some a → ∀ x ∈ a.regexes, Rule.regexFinding x.1 x.2 = none) :
    (CompiledRule.ofRule rule).events page =
      if (CompiledRule.ofRule rule).applies page then [(CompiledRule.ofRule rule).appliesEvent] else [] := by
  have hcondition : ((rule.condition.map (·.events page.properties)).getD []) = [] := by
    cases ha : rule.condition with
    | none => rfl
    | some a => exact Condition.events_eq_nil (h a ha)
  have hevents : (((CompiledRule.ofRule rule).rule.condition.map (·.events page.properties)).getD []) = [] :=
    hcondition
  rw [CompiledRule.events, hevents, CompiledRule.applies]
  cases (CompiledRule.ofRule rule).pattern.accepts page.target <;> rfl

/-- Findings about patterns are those that reading them comes to: a rule is found to have a malformed pattern
exactly when its pattern is malformed. Such a rule decides on no page, and the set decides in the same
way without all such rules. With no finding about a regular expression, there is no remark on a pattern,
and on the way to a decision there are none but those on the rules that apply. -/
theorem lint_agrees_on_regexes (r : Ruleset) :
    r.lint.diagnostics = (List.range r.rules.length).flatMap r.diagnosticsAt ∧
      (∀ j rule, r.rules[j]? = some rule → ∀ e,
        ⟨rule.line, .invalidPattern e⟩ ∈ r.diagnosticsAt j ↔
          (Pattern.compile rule.pattern).error? = some e) ∧
      (∀ j rule, r.rules[j]? = some rule → (Pattern.compile rule.pattern).error? ≠ none →
        ∀ p, (Matcher.ofRuleset r).winnerIndex p ≠ some j) ∧
      (∀ p, (r.keeping fun rule => (Pattern.compile rule.pattern).error?.isNone).verdict p = r.verdict p) ∧
      ((∀ d ∈ r.lint.diagnostics, ¬ d.finding.IsAboutRegex) →
        (Matcher.ofRuleset r).patternEvents = [] ∧
          ∀ p, (Matcher.ofRuleset r).decisionEvents p =
            ((Matcher.ofRuleset r).rules.filter (·.applies (Page.ofProperties p))).map
              CompiledRule.appliesEvent) := by
  refine ⟨r.diagnostics_lint, ?_, ?_, ?_, ?_⟩
  · intro j rule hj e
    rw [mem_diagnosticsAt hj, Rule.invalidPattern_mem_findings]
  · intro j rule hj herror p
    obtain ⟨e, he⟩ := Option.ne_none_iff_exists'.1 herror
    refine winnerIndex_ne hj fun happ => ?_
    rw [Rule.appliesTo_of_error he p] at happ
    cases happ
  · intro p
    refine verdict_keeping fun rule _ happ => ?_
    rw [Option.isNone_iff_eq_none, Option.eq_none_iff_forall_not_mem]
    intro e he
    rw [Rule.appliesTo_of_error he p] at happ
    cases happ
  · intro hfindings
    constructor
    · rw [Matcher.patternEvents, Matcher.ofRuleset, List.flatMap_map, List.flatMap_eq_nil_iff]
      intro rule hrule
      have hnone : (CompiledRule.ofRule rule).pattern.error? = none :=
        (wellFormed_of_no_finding hfindings hrule).1
      rw [CompiledRule.patternEvents, hnone]
    · intro p
      rw [Matcher.decisionEvents, Matcher.ofRuleset, List.flatMap_map, List.filter_map, List.map_map]
      have hevents (rules : List Rule) (hin : rules ⊆ r.rules) :
          (rules.flatMap fun rule => (CompiledRule.ofRule rule).events (Page.ofProperties p)) =
            (rules.filter (Rule.appliesTo p)).map (CompiledRule.appliesEvent ∘ CompiledRule.ofRule) := by
        induction rules with
        | nil => rfl
        | cons rule rules ih =>
          obtain ⟨hrule, hrules⟩ := List.cons_subset.1 hin
          rw [List.flatMap_cons, ih hrules, List.filter_cons,
            events_ofRule (wellFormed_of_no_finding hfindings hrule).2]
          unfold Rule.appliesTo
          split <;> rfl
      exact hevents r.rules (List.Subset.refl _)

end

/-! ### Copies -/

/-- Whether two rules have the same action, pattern, color and condition. They can stand on different lines. -/
structure Rule.Alike (rule other : Rule) : Prop where
  action : rule.action = other.action
  pattern : rule.pattern = other.pattern
  color : rule.color = other.color
  condition : rule.condition = other.condition

private theorem Rule.sameAs_iff {rule other : Rule} : rule.sameAs other = true ↔ rule.Alike other := by
  simp only [sameAs, Bool.and_eq_true, decide_eq_true_eq, and_assoc]
  constructor
  · rintro ⟨haction, hpattern, hcolor, hcondition⟩
    exact ⟨haction, hpattern, hcolor, hcondition⟩
  · rintro ⟨haction, hpattern, hcolor, hcondition⟩
    exact ⟨haction, hpattern, hcolor, hcondition⟩

theorem Rule.Alike.appliesTo [Regex.Engine] {rule other : Rule} (h : rule.Alike other) (p : Properties) :
    rule.appliesTo p = other.appliesTo p := by
  simp only [Rule.appliesTo, CompiledRule.applies, CompiledRule.conditionHolds, CompiledRule.ofRule,
    h.pattern, h.condition]

/-- The first rule before an index that passes a test. -/
theorem find?_take_eq_some_iff {rules : List Rule} {j : Nat} {test : Rule → Bool} {q : Rule}
    (hj : j < rules.length) :
    (rules.take j).find? test = some q ↔
      ∃ i < j, rules[i]? = some q ∧ test q = true ∧
        ∀ k < i, ∀ other, rules[k]? = some other → test other = false := by
  rw [List.find?_eq_some_iff_getElem]
  constructor
  · rintro ⟨htest, i, hi, hq, hfirst⟩
    rw [List.length_take, Nat.min_eq_left (Nat.le_of_lt hj)] at hi
    refine ⟨i, hi, ?_, htest, fun k hk other hother => ?_⟩
    · rw [← hq, List.getElem_take, List.getElem?_eq_getElem]
    · have hnot := hfirst k hk
      rwa [List.getElem_take, (List.getElem?_eq_some_iff.1 hother).2, Bool.not_eq_true'] at hnot
  · rintro ⟨i, hi, hq, htest, hfirst⟩
    have hlt : i < (rules.take j).length := by
      rwa [List.length_take, Nat.min_eq_left (Nat.le_of_lt hj)]
    refine ⟨htest, i, hlt, ?_, fun k hk => ?_⟩
    · rw [List.getElem_take]
      exact (List.getElem?_eq_some_iff.1 hq).2
    · rw [List.getElem_take, Bool.not_eq_true']
      exact hfirst k hk _ (List.getElem?_eq_getElem _)

/-- A rule is found to be a copy exactly when a rule before it is alike, and the line that is told is that of
the first such rule. Of two rules that are alike the earlier one decides on no page, and the set decides
in the same way without it. -/
theorem copy_overrules_earlier [Regex.Engine] (r : Ruleset) :
    r.lint.diagnostics = (List.range r.rules.length).flatMap r.diagnosticsAt ∧
      (∀ j rule, r.rules[j]? = some rule → ∀ first,
        ⟨rule.line, .duplicateRule first⟩ ∈ r.diagnosticsAt j ↔
          ∃ i q, i < j ∧ r.rules[i]? = some q ∧ q.line = first ∧ q.Alike rule ∧
            ∀ k < i, ∀ other, r.rules[k]? = some other → ¬ other.Alike rule) ∧
      ∀ i j rule later, i < j → r.rules[i]? = some rule → r.rules[j]? = some later → rule.Alike later →
        ∀ p, (Matcher.ofRuleset r).winnerIndex p ≠ some i ∧ (r.without i).verdict p = r.verdict p := by
  refine ⟨r.diagnostics_lint, ?_, ?_⟩
  · intro j rule hj first
    have hlt : j < r.rules.length := (List.getElem?_eq_some_iff.1 hj).1
    rw [mem_diagnosticsAt hj, Rule.duplicateRule_mem_findings]
    simp only [find?_take_eq_some_iff hlt, Rule.sameAs_iff, ← Bool.not_eq_true]
    constructor
    · rintro ⟨q, ⟨i, hi, hq, halike, hfirst⟩, hline⟩
      exact ⟨i, q, hi, hq, hline, halike, hfirst⟩
    · rintro ⟨i, q, hi, hq, hline, halike, hfirst⟩
      exact ⟨q, ⟨i, hi, hq, halike, hfirst⟩, hline⟩
  · intro i j rule later hij hi hj halike p
    constructor
    · exact winnerIndex_ne hi fun happ => ⟨j, later, hij, hj, halike.appliesTo p ▸ happ⟩
    · exact verdict_without hij hi hj fun happ => halike.appliesTo p ▸ happ

end PagePolicy
