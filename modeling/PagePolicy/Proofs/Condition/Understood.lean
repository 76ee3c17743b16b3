import PagePolicy.Proofs.Command.LintReport
import PagePolicy.Proofs.Condition.Legible
import PagePolicy.Proofs.Regex.Flags

/-! Conditions that were read, on their own or on the lines of rules, are understood by all that looks at them. Their
names are names, and of their regular expressions nothing can be wrong but a flag that stands twice, or the body. -/

namespace PagePolicy

/-- Whether an error of a regular expression in a condition is to be expected: a flag stands twice, or the body is
malformed. -/
inductive Regex.Error.Foreseen : Regex.Error → Prop where
  | duplicate {c : Char} : c ∈ ['i', 'm', 's', 'u'] → Foreseen (.flags (.duplicate c))
  | malformed {report : String} : Foreseen (@Regex.Error.malformed report)

/-- Whether all tests of a condition are such as the rest of the program understands: properties have names, the flags
of regular expressions are known ones, if there are any, and no error of a regular expression is unforeseen. -/
structure Condition.Understood [Regex.Engine] (a : Condition) : Prop where
  names : ∀ property ∈ a.properties, ∃ first rest, property.toList = first :: rest ∧
    (first.isAlpha = true ∨ first = '_' ∨ first = '$') ∧ ∀ c ∈ rest, c.isAlphanum = true ∨ c = '_'
  flags : ∀ pattern flags, (pattern, some flags) ∈ a.regexes →
    flags ≠ "" ∧ ∀ c ∈ flags.toList, c ∈ ['i', 'm', 's', 'u']
  errors : ∀ pattern flags, (pattern, flags) ∈ a.regexes → ∀ e,
    (Regex.Literal.ofCondition pattern flags).compile = .error e → e.Foreseen

/-- Whether a remark is about a regular expression in a condition and tells of an error that is to be expected. -/
def Event.Foreseen (event : Event) : Prop :=
  ∃ (pattern : String) (e : Regex.Error), e.Foreseen ∧
    event = ⟨.trace, .conditions, s!"condition regex /{pattern}/ does not compile: {e.message}"⟩

/-! ### Single conditions -/

namespace Condition

private theorem exists_of_isName {s : List Char} (h : IsName s) :
    ∃ first rest, s = first :: rest ∧ (first.isAlpha = true ∨ first = '_' ∨ first = '$') ∧
      ∀ c ∈ rest, c.isAlphanum = true ∨ c = '_' := by
  cases s with
  | nil => exact h.elim
  | cons first rest =>
    obtain ⟨hfirst, hrest⟩ := h
    simp only [isNameStart, isNamePart, Bool.or_eq_true, decide_eq_true_eq, or_assoc] at hfirst hrest
    exact ⟨first, rest, rfl, hfirst, hrest⟩

/-- The flags that can stand after a regular expression in a condition are all known, and only one of the Unicode flags
is among them. -/
theorem foreseen_of_parse {text : String} (h : ∀ c ∈ text.toList, isFlag c = true) {e : Regex.Flags.Error}
    (herror : Regex.Flags.parse text = .error e) : (Regex.Error.flags e).Foreseen := by
  have hflag (c : Char) (hc : c ∈ text.toList) : c ∈ ['i', 'm', 's', 'u'] := isFlag_iff.1 (h c hc)
  rcases Regex.Flags.parse_eq_error_iff.1 herror with ⟨before, c, after, htext, -, habout⟩ | ⟨-, ⟨-, hv⟩, -⟩
  · have hc := hflag c (by simp [htext])
    rcases habout with ⟨-, hunknown⟩ | ⟨rfl, -⟩
    · have hknown : c ∈ Regex.Flags.letters := List.Sublist.subset (by decide) hc
      exact absurd hknown hunknown
    · exact .duplicate hc
  · exact absurd (hflag 'v' hv) (by decide)

private theorem foreseen_of_compile [Regex.Engine] {l : Regex.Literal} (h : ∀ c ∈ l.flags.toList, isFlag c = true)
    {e : Regex.Error} (herror : l.compile = .error e) : e.Foreseen := by
  rw [Regex.Literal.compile] at herror
  split at herror
  next hflags =>
    cases herror
    exact foreseen_of_parse h hflags
  next =>
    dsimp only at herror
    split at herror
    next => cases herror
    next =>
      cases herror
      exact .malformed

private theorem Legible.understood [Regex.Engine] {a : Condition} (h : a.Legible) : a.Understood where
  names := fun property hproperty => exists_of_isName (h.names property hproperty)
  flags := fun pattern flags hmem => by
    obtain ⟨hne, hflags⟩ := h.flags _ hmem flags rfl
    exact ⟨hne, fun c hc => isFlag_iff.1 (hflags c hc)⟩
  errors := fun pattern flags hmem e => by
    refine foreseen_of_compile fun c hc => ?_
    cases flags with
    | none => cases hc
    | some flags => exact (h.flags _ hmem flags rfl).2 c hc

private theorem understood_of_parse [Regex.Engine] {text : String} {a : Condition} (h : parse text = .ok a) :
    a.Understood :=
  (legible_of_parse h).understood

private theorem Understood.foreseen_of_mem_events [Regex.Engine] {a : Condition} {p : Properties} {event : Event}
    (ha : a.Understood) (h : event ∈ a.events p) : event.Foreseen := by
  obtain ⟨⟨pattern, flags⟩, hr, hevent⟩ := exists_regex_of_mem_events h
  rw [regexEvents] at hevent
  split at hevent
  next => cases hevent
  next e herror => exact ⟨pattern, e, ha.errors pattern flags hr e herror, List.mem_singleton.1 hevent⟩

end Condition

/-! ### The conditions of rules -/

/-- The condition of a rule in a text was read from the line of the rule. -/
theorem Ruleset.exists_parse_of_mem {text : String} {rule : Rule} {a : Condition}
    (h : rule ∈ (parse text).rules) (ha : rule.condition = some a) : ∃ source, Condition.parse source = .ok a := by
  obtain ⟨raw, l, -, hl, hrule⟩ := exists_line_of_mem_parse h
  have hcondition : l.condition = some a := by
    rw [hrule] at ha
    exact ha
  have hparsed := Line.condition_eq_some_iff.1 hcondition
  rcases Line.exists_ofSource_of_read hl with habsent | hmalformed | ⟨source, hsource⟩
  · cases habsent.symm.trans hparsed
  · cases hmalformed.symm.trans hparsed
  · rw [hparsed, Clause.ofSource] at hsource
    split at hsource
    next hok =>
      cases hsource
      exact ⟨source, hok⟩
    next => cases hsource

private theorem Ruleset.understood_of_mem [Regex.Engine] {text : String} {rule : Rule} {a : Condition}
    (h : rule ∈ (parse text).rules) (ha : rule.condition = some a) : a.Understood := by
  obtain ⟨source, hsource⟩ := exists_parse_of_mem h ha
  exact Condition.understood_of_parse hsource

/-- A diagnostic about a regular expression in a condition tells why this one is malformed. -/
theorem Ruleset.exists_error_of_mem_diagnostics [Regex.Engine] {r : Ruleset} {d : Diagnostic}
    {pattern : String} {e : Regex.Error} (h : d ∈ r.lint.diagnostics)
    (hfinding : d.finding = .invalidConditionRegex pattern e) :
    ∃ rule ∈ r.rules, ∃ a, rule.condition = some a ∧ ∃ flags, (pattern, flags) ∈ a.regexes ∧
      (Regex.Literal.ofCondition pattern flags).compile = .error e := by
  obtain ⟨j, rule, hj, -, hf⟩ := mem_diagnostics_iff.1 h
  rw [hfinding] at hf
  refine ⟨rule, List.mem_of_getElem? hj, ?_⟩
  rcases Rule.mem_findings.1 hf with hf | hf | hf | hf
  · simpa using Rule.mem_sourceFindings hf
  · simp [Rule.patternFindings] at hf
  · obtain ⟨a, ha, ⟨pattern', flags⟩, hmem, hregex⟩ := Rule.mem_conditionFindings.1 hf
    obtain ⟨e', herror, heq⟩ := Rule.regexFinding_eq_some.1 hregex
    cases heq
    exact ⟨a, ha, flags, hmem, herror⟩
  · simp [Rule.duplicateFindings] at hf

/-- A remark on a condition that is made on the way to a decision is on the condition of a rule. -/
theorem Matcher.exists_condition_of_mem_events [Regex.Engine] {r : Ruleset} {p : Properties} {event : Event}
    (h : event ∈ (ofRuleset r).decisionEvents p) (htopic : event.topic = .conditions) :
    ∃ rule ∈ r.rules, ∃ a, rule.condition = some a ∧ event ∈ a.events (Page.ofProperties p).properties := by
  rw [decisionEvents, ofRuleset, List.flatMap_map, List.mem_flatMap] at h
  obtain ⟨rule, hrule, hevent⟩ := h
  rw [CompiledRule.events] at hevent
  split at hevent
  next =>
    rcases List.mem_append.1 hevent with hcondition | happlies
    · cases ha : rule.condition with
      | none => simp [CompiledRule.ofRule, ha] at hcondition
      | some a =>
        refine ⟨rule, hrule, a, ha, ?_⟩
        simpa [CompiledRule.ofRule, ha] using hcondition
    · split at happlies
      next =>
        rw [List.mem_singleton.1 happlies] at htopic
        cases htopic
      next => cases happlies
  next => cases hevent

/-- A condition that a text writes is understood, whether the text is all there is or stands on the line of a rule. So
neither what is found about rules nor what is remarked on the way to a decision is ever an unknown flag in a
condition, or two flags that exclude each other. -/
theorem read_conditions_understood [Regex.Engine] (source text : String) :
    (∀ a, Condition.parse source = .ok a → a.Understood ∧ ∀ p, ∀ event ∈ a.events p, event.Foreseen) ∧
      let r := Ruleset.parse text
      (∀ rule ∈ r.rules, ∀ a, rule.condition = some a → a.Understood) ∧
        (∀ d ∈ r.lint.diagnostics, ∀ pattern e, d.finding = .invalidConditionRegex pattern e → e.Foreseen) ∧
        ∀ p, ∀ event ∈ (Matcher.ofRuleset r).decisionEvents p, event.topic = .conditions → event.Foreseen := by
  refine ⟨fun a ha => ?_, fun rule hrule a ha => ?_, fun d hd pattern e hfinding => ?_, fun p event h htopic => ?_⟩
  · have hunderstood := Condition.understood_of_parse ha
    exact ⟨hunderstood, fun p event hevent => hunderstood.foreseen_of_mem_events hevent⟩
  · exact Ruleset.understood_of_mem hrule ha
  · obtain ⟨rule, hrule, a, ha, flags, hmem, herror⟩ := Ruleset.exists_error_of_mem_diagnostics hd hfinding
    exact (Ruleset.understood_of_mem hrule ha).errors pattern flags hmem e herror
  · obtain ⟨rule, hrule, a, ha, hevent⟩ := Matcher.exists_condition_of_mem_events h htopic
    exact (Ruleset.understood_of_mem hrule ha).foreseen_of_mem_events hevent

/-- A flag that stands twice is found, and remarked when the condition is looked at. -/
theorem read_conditions_understood_twice :
    let r := Ruleset.parse "<all_urls> @if (title /c/usu)"
    let p := (Properties.ofUrl "https://a.org/").insert "title" "a"
    let d : Diagnostic := ⟨1, .invalidConditionRegex "c" (.flags (.duplicate 'u'))⟩
    d ∈ r.lint.diagnostics ∧ (Regex.Error.flags (.duplicate 'u')).Foreseen ∧
      ∃ event ∈ (Matcher.ofRuleset r).decisionEvents p, event.topic = .conditions ∧ event.Foreseen := by
  intro r p d
  let rule : Rule := ⟨.block, "<all_urls>", 1, none, some (.regex "title" "c" (some "usu"))⟩
  let remark : Event :=
    ⟨.trace, .conditions, "condition regex /c/ does not compile: duplicate regex flag 'u'"⟩
  obtain ⟨-, -, hlint, hevents⟩ := read_conditions_understood "" "<all_urls> @if (title /c/usu)"
  have hrules : r.rules = [rule] := by decide +kernel
  have hdiagnostics : r.lint.diagnostics = [d] := by decide +kernel
  have hd : d ∈ r.lint.diagnostics := by simp [hdiagnostics]
  have hremark : remark ∈ (Matcher.ofRuleset r).decisionEvents p := by
    rw [Matcher.ofRuleset, hrules]
    decide +kernel
  exact ⟨hd, hlint d hd "c" _ rfl, remark, hremark, rfl, hevents p remark hremark rfl⟩

end PagePolicy
