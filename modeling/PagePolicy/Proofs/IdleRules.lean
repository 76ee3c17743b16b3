import PagePolicy.Proofs.LastApplicable

/-! Rules that do not decide. A set of rules can do without any rule that does not decide on a page: the
verdict on that page stays the same. -/

namespace PagePolicy

def Rule.appliesTo [Regex.Engine] (p : Properties) (rule : Rule) : Bool :=
  (CompiledRule.ofRule rule).applies (Page.ofProperties p)

namespace Ruleset

def without (r : Ruleset) (i : Nat) : Ruleset :=
  { r with rules := r.rules.eraseIdx i }

/-- The set with those of its rules that pass a test. -/
def keeping (r : Ruleset) (test : Rule → Bool) : Ruleset :=
  { r with rules := r.rules.filter test }

end Ruleset

private theorem Matcher.map_fst_lastApplying [Regex.Engine] (m : Matcher) (page : Page) :
    (m.lastApplying page).map Prod.fst = (m.rules.filter (·.applies page)).getLast? := by
  obtain ⟨rules⟩ := m
  induction rules using List.reverseRecOn with
  | nil => rfl
  | append_singleton rules last ih =>
    rw [lastApplying_append, List.filter_append]
    split
    next happ => simp [happ]
    next hnot => simp [hnot, ih]

section
variable [Regex.Engine] (r : Ruleset) (p : Properties)

/-- The verdict is that of the last rule among those that apply. -/
theorem verdict_eq_getLast? :
    r.verdict p = (r.rules.filter (Rule.appliesTo p)).getLast?.map Verdict.ofRule := by
  have hlast := (Matcher.ofRuleset r).map_fst_lastApplying (Page.ofProperties p)
  have hfilter : (Matcher.ofRuleset r).rules.filter (·.applies (Page.ofProperties p)) =
      (r.rules.filter (Rule.appliesTo p)).map CompiledRule.ofRule := by
    rw [Matcher.ofRuleset, List.filter_map]
    rfl
  rw [hfilter, List.getLast?_map] at hlast
  calc
    r.verdict p =
        (((Matcher.ofRuleset r).lastApplying (Page.ofProperties p)).map Prod.fst).map
          (Verdict.ofRule ·.rule) := by
      rw [Ruleset.verdict, Matcher.verdict, Option.map_map]
      rfl
    _ = (r.rules.filter (Rule.appliesTo p)).getLast?.map Verdict.ofRule := by
      rw [hlast, Option.map_map]
      rfl

end

section
variable [Regex.Engine] {r : Ruleset} {p : Properties}

/-- Rules that do not apply can be left out. -/
theorem verdict_keeping {test : Rule → Bool}
    (h : ∀ rule ∈ r.rules, rule.appliesTo p = true → test rule = true) :
    (r.keeping test).verdict p = r.verdict p := by
  have hfilter : (r.rules.filter test).filter (Rule.appliesTo p) = r.rules.filter (Rule.appliesTo p) := by
    rw [List.filter_filter]
    refine List.filter_congr fun rule hrule => ?_
    rw [Bool.and_eq_left_iff_imp]
    exact h rule hrule
  rw [verdict_eq_getLast?, verdict_eq_getLast?, Ruleset.keeping, hfilter]

/-- The index of the rule that decides is that of the last applicable rule. -/
theorem isLastApplicable_of_winnerIndex {i : Nat} (h : (Matcher.ofRuleset r).winnerIndex p = some i) :
    ∃ rule, r.IsLastApplicable p.url (p.derive (Url.parse p.url)) i rule := by
  obtain ⟨⟨c, n⟩, hlast, rfl⟩ := Option.map_eq_some_iff.1 h
  obtain ⟨rule, hrule, -⟩ := (lastApplying_ofRuleset r p n c).1 hlast
  exact ⟨rule, hrule⟩

/-- A rule decides only if it applies and no later one does. -/
theorem winnerIndex_ne {i : Nat} {rule : Rule} (hi : r.rules[i]? = some rule)
    (h : rule.appliesTo p = true →
      ∃ (j : Nat) (later : Rule), i < j ∧ r.rules[j]? = some later ∧ later.appliesTo p = true) :
    (Matcher.ofRuleset r).winnerIndex p ≠ some i := by
  intro hwinner
  obtain ⟨_, hlast⟩ := isLastApplicable_of_winnerIndex hwinner
  obtain ⟨other, hother, happ⟩ := (appliesAt_iff r p i).1 hlast.applies
  obtain rfl : rule = other := Option.some.inj (hi.symm.trans hother)
  obtain ⟨j, later, hlt, hj, hlater⟩ := h happ
  exact Nat.not_le_of_lt hlt (hlast.greatest j ((appliesAt_iff r p j).2 ⟨later, hj, hlater⟩))

/-- A rule can be left out if a later one applies wherever it does. -/
theorem verdict_without {i j : Nat} {rule later : Rule} (hij : i < j) (hi : r.rules[i]? = some rule)
    (hj : r.rules[j]? = some later) (h : rule.appliesTo p = true → later.appliesTo p = true) :
    (r.without i).verdict p = r.verdict p := by
  have hlt : i < r.rules.length := (List.getElem?_eq_some_iff.1 hi).1
  have hsplit : r.rules = r.rules.take i ++ rule :: r.rules.drop (i + 1) := by
    rw [List.getElem?_eq_getElem hlt, Option.some.injEq] at hi
    rw [← hi, ← List.drop_eq_getElem_cons hlt, List.take_append_drop]
  have hlater : later ∈ r.rules.drop (i + 1) := by
    refine List.mem_of_getElem? (i := j - (i + 1)) ?_
    rw [List.getElem?_drop, Nat.add_sub_of_le hij, hj]
  rw [verdict_eq_getLast?, verdict_eq_getLast?, Ruleset.without, List.eraseIdx_eq_take_drop_succ]
  conv_rhs => rw [hsplit]
  rw [List.filter_append, List.filter_append, List.filter_cons]
  split
  next happ =>
    -- Where the rule applies, the last rule that does stands behind it.
    have hmem : later ∈ (r.rules.drop (i + 1)).filter (Rule.appliesTo p) :=
      List.mem_filter.2 ⟨hlater, h happ⟩
    have hlast := List.getLast?_eq_some_getLast (List.ne_nil_of_mem hmem)
    rw [List.getLast?_append, List.getLast?_append, List.getLast?_cons, hlast]
    rfl
  next => rfl

end

end PagePolicy
