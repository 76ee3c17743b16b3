import Mathlib.Data.List.Induction
import PagePolicy.Decision

/-! The rule that decides is the last one that applies. What applies is said rule by rule, with neither the
matcher nor the order of the rules. -/

namespace PagePolicy

/-- What a page has under a name: its own value, or else the part of its URL that goes by that name. -/
def Properties.filled (p : Properties) (key : String) : Option String :=
  (p.get key).or <| (Url.parse p.url).bind fun u =>
    if key = schemeName then some u.scheme
    else if key = hostName then some u.host
    else if key = pathName then some u.pathAndQuery
    else none

namespace Ruleset

/-- Whether the rule at an index applies: its pattern accepts the URL, and its condition, if it has one,
holds of the properties. -/
def AppliesAt [Regex.Engine] (r : Ruleset) (url : String) (q : Properties) (i : Nat) : Prop :=
  ∃ rule, r.rules[i]? = some rule ∧ (Pattern.compile rule.pattern).accepts (Target.ofText url) = true ∧
    ∀ a, rule.condition = some a → a.holds q = true

/-- Whether a rule stands at an index, applies there, and no later one does. -/
structure IsLastApplicable [Regex.Engine] (r : Ruleset) (url : String) (q : Properties) (i : Nat) (rule : Rule) :
    Prop where
  at_index : r.rules[i]? = some rule
  applies : r.AppliesAt url q i
  greatest : ∀ j, r.AppliesAt url q j → j ≤ i

end Ruleset

theorem Properties.get_derive (p : Properties) (key : String) :
    (p.derive (Url.parse p.url)).get key = p.filled key := by
  cases hu : Url.parse p.url with
  | none => simp [derive, filled, hu]
  | some u =>
    have hsh : schemeName ≠ hostName := by decide
    have hsp : schemeName ≠ pathName := by decide
    have hhp : hostName ≠ pathName := by decide
    simp only [derive, filled, hu, get_insertIfAbsent, Option.bind_some]
    by_cases hs : key = schemeName
    · subst hs
      cases p.get schemeName <;> simp [hsh, hsp]
    · by_cases hh : key = hostName
      · subst hh
        cases p.get hostName <;> simp [hs, hhp]
      · by_cases hp : key = pathName
        · subst hp
          cases p.get pathName <;> simp [hs, hh]
        · cases p.get key <;> simp [hs, hh, hp]

namespace Matcher

/-- One more rule at the end has the say if it applies, and changes nothing if it does not. -/
theorem lastApplying_append [Regex.Engine] (rules : List CompiledRule) (r : CompiledRule) (page : Page) :
    (Matcher.mk (rules ++ [r])).lastApplying page =
      if r.applies page then some (r, rules.length) else (Matcher.mk rules).lastApplying page := by
  simp [lastApplying, List.zipIdx_append]

private theorem getElem?_snoc {rules : List CompiledRule} {last r : CompiledRule} {j : Nat}
    (h : (rules ++ [last])[j]? = some r) : rules[j]? = some r ∨ j = rules.length ∧ r = last := by
  rcases Nat.lt_trichotomy j rules.length with hlt | rfl | hgt
  · rw [List.getElem?_append_left hlt] at h
    exact .inl h
  · rw [List.getElem?_concat_length, Option.some.injEq] at h
    exact .inr ⟨rfl, h.symm⟩
  · have := (List.getElem?_eq_some_iff.1 h).1
    rw [List.length_append, List.length_singleton] at this
    omega

/-- After all its rules a matcher holds the one of greatest index that applies. -/
theorem lastApplying_eq_some_iff [Regex.Engine] (m : Matcher) (page : Page) (r : CompiledRule) (i : Nat) :
    m.lastApplying page = some (r, i) ↔
      m.rules[i]? = some r ∧ r.applies page = true ∧
        ∀ (j : Nat) (q : CompiledRule), m.rules[j]? = some q → q.applies page = true → j ≤ i := by
  obtain ⟨rules⟩ := m
  induction rules using List.reverseRecOn with
  | nil => simp [lastApplying]
  | append_singleton rules last ih =>
    have hfront {j : Nat} {q : CompiledRule} (hj : rules[j]? = some q) :
        (rules ++ [last])[j]? = some q := by
      rw [List.getElem?_append_left (List.getElem?_eq_some_iff.1 hj).1, hj]
    rw [lastApplying_append]
    split
    next happ =>
      constructor
      · rintro ⟨⟩
        refine ⟨List.getElem?_concat_length, happ, fun j q hj _ => ?_⟩
        rcases getElem?_snoc hj with hj | ⟨rfl, -⟩
        · exact Nat.le_of_lt (List.getElem?_eq_some_iff.1 hj).1
        · exact Nat.le_refl _
      · rintro ⟨hi, -, hmax⟩
        have hle := hmax rules.length last List.getElem?_concat_length happ
        rcases getElem?_snoc hi with hi | ⟨rfl, rfl⟩
        · have := (List.getElem?_eq_some_iff.1 hi).1
          omega
        · rfl
    next hnot =>
      rw [ih]
      have hback {j : Nat} {q : CompiledRule} (hj : (rules ++ [last])[j]? = some q)
          (hq : q.applies page = true) : rules[j]? = some q := by
        rcases getElem?_snoc hj with hj | ⟨-, rfl⟩
        · exact hj
        · exact absurd hq hnot
      constructor
      · rintro ⟨hi, hr, hmax⟩
        exact ⟨hfront hi, hr, fun j q hj hq => hmax j q (hback hj hq) hq⟩
      · rintro ⟨hi, hr, hmax⟩
        exact ⟨hback hi hr, hr, fun j q hj hq => hmax j q (hfront hj) hq⟩

private theorem lastApplying_eq_none_iff [Regex.Engine] (m : Matcher) (page : Page) :
    m.lastApplying page = none ↔ ∀ r ∈ m.rules, r.applies page = false := by
  obtain ⟨rules⟩ := m
  induction rules using List.reverseRecOn with
  | nil => simp [lastApplying]
  | append_singleton rules last ih =>
    rw [lastApplying_append]
    split
    next happ => simp [happ]
    next hnot =>
      rw [Bool.not_eq_true] at hnot
      simp [ih, or_imp, forall_and, hnot]

end Matcher

section
variable [Regex.Engine] (r : Ruleset) (p : Properties)

private theorem rules_ofRuleset (i : Nat) :
    (Matcher.ofRuleset r).rules[i]? = (r.rules[i]?).map CompiledRule.ofRule := by
  rw [Matcher.ofRuleset, List.getElem?_map]

private theorem applies_ofRule (rule : Rule) :
    (CompiledRule.ofRule rule).applies (Page.ofProperties p) = true ↔
      (Pattern.compile rule.pattern).accepts (Target.ofText p.url) = true ∧
        ∀ a, rule.condition = some a → a.holds (p.derive (Url.parse p.url)) = true := by
  rw [CompiledRule.applies, Bool.and_eq_true, CompiledRule.conditionHolds, Option.all_eq_true]
  rfl

theorem appliesAt_iff (i : Nat) :
    r.AppliesAt p.url (p.derive (Url.parse p.url)) i ↔
      ∃ rule, r.rules[i]? = some rule ∧
        (CompiledRule.ofRule rule).applies (Page.ofProperties p) = true := by
  simp only [Ruleset.AppliesAt, applies_ofRule]

/-- What the matcher of a set of rules holds after all of them is the last applicable rule. -/
theorem lastApplying_ofRuleset (i : Nat) (c : CompiledRule) :
    (Matcher.ofRuleset r).lastApplying (Page.ofProperties p) = some (c, i) ↔
      ∃ rule, r.IsLastApplicable p.url (p.derive (Url.parse p.url)) i rule ∧
        c = CompiledRule.ofRule rule := by
  rw [Matcher.lastApplying_eq_some_iff, rules_ofRuleset]
  constructor
  · rintro ⟨hi, happ, hmax⟩
    obtain ⟨rule, hrule, rfl⟩ := Option.map_eq_some_iff.1 hi
    refine ⟨rule, ⟨hrule, (appliesAt_iff r p i).2 ⟨rule, hrule, happ⟩, ?_⟩, rfl⟩
    intro j hj
    obtain ⟨q, hq, hqapp⟩ := (appliesAt_iff r p j).1 hj
    exact hmax j _ (by rw [rules_ofRuleset, hq, Option.map_some]) hqapp
  · rintro ⟨rule, hlast, rfl⟩
    obtain ⟨q, hq, hqapp⟩ := (appliesAt_iff r p i).1 hlast.applies
    obtain rfl : rule = q := Option.some.inj (hlast.at_index.symm.trans hq)
    refine ⟨by rw [hq, Option.map_some], hqapp, fun j c hj hc => ?_⟩
    obtain ⟨other, hother, rfl⟩ := Option.map_eq_some_iff.1 ((rules_ofRuleset r j).symm.trans hj)
    exact hlast.greatest j ((appliesAt_iff r p j).2 ⟨other, hother, hc⟩)

/-- Without a verdict, no rule of the set applies. -/
theorem lastApplying_ofRuleset_none :
    (Matcher.ofRuleset r).lastApplying (Page.ofProperties p) = none ↔
      ∀ i, ¬ r.AppliesAt p.url (p.derive (Url.parse p.url)) i := by
  rw [Matcher.lastApplying_eq_none_iff]
  simp only [appliesAt_iff, not_exists, not_and, Bool.not_eq_true]
  constructor
  · intro h i rule hi
    exact h _ (List.mem_map_of_mem (List.mem_of_getElem? hi))
  · intro h c hc
    obtain ⟨rule, hrule, rfl⟩ := List.mem_map.1 hc
    obtain ⟨i, hi⟩ := List.getElem?_of_mem hrule
    exact h i rule hi

/-- The last applicable rule decides. A page is seen with the parts of its URL under the names that it
has no value for; there is no verdict exactly when no rule applies, and else the verdict is the
applicable rule of greatest index with its own action, which blocks exactly when that action does. The
rules decide in the same way on their own and in a matcher. -/
theorem last_applicable_rule_decides :
    ∃ q : Properties, (∀ key, q.get key = p.filled key) ∧ (Url.parse p.url = none → q = p) ∧
      (r.verdict p = none ↔ ∀ i, ¬ r.AppliesAt p.url q i) ∧
      (∀ i v, (Matcher.ofRuleset r).winnerIndex p = some i ∧ r.verdict p = some v ↔
        ∃ rule, r.IsLastApplicable p.url q i rule ∧ v = ⟨rule.action, rule⟩) ∧
      (r.isBlocked p = true ↔ ∃ i rule, r.IsLastApplicable p.url q i rule ∧ rule.action = .block) ∧
      (Matcher.ofRuleset r).verdict p = r.verdict p ∧
      (Matcher.ofRuleset r).isBlocked p = r.isBlocked p := by
  refine ⟨p.derive (Url.parse p.url), p.get_derive, ?_, ?_, ?_, ?_, rfl, rfl⟩
  · intro hu
    rw [hu, Properties.derive]
  · rw [Ruleset.verdict, Matcher.verdict, Option.map_eq_none_iff, lastApplying_ofRuleset_none]
  · intro i v
    rw [Matcher.winnerIndex, Ruleset.verdict, Matcher.verdict]
    constructor
    · rintro ⟨hi, hv⟩
      obtain ⟨⟨c, n⟩, hc, rfl⟩ := Option.map_eq_some_iff.1 hi
      rw [hc, Option.map_some, Option.some.injEq] at hv
      obtain ⟨rule, hlast, rfl⟩ := (lastApplying_ofRuleset r p n c).1 hc
      exact ⟨rule, hlast, hv.symm⟩
    · rintro ⟨rule, hlast, rfl⟩
      rw [(lastApplying_ofRuleset r p i _).2 ⟨rule, hlast, rfl⟩]
      exact ⟨rfl, rfl⟩
  · rw [Ruleset.isBlocked, Matcher.isBlocked, Matcher.verdict, Option.any_map, Option.any_eq_true]
    constructor
    · rintro ⟨⟨c, i⟩, hc, hblock⟩
      obtain ⟨rule, hlast, rfl⟩ := (lastApplying_ofRuleset r p i c).1 hc
      exact ⟨i, rule, hlast, of_decide_eq_true hblock⟩
    · rintro ⟨i, rule, hlast, hblock⟩
      exact ⟨_, (lastApplying_ofRuleset r p i _).2 ⟨rule, hlast, rfl⟩, decide_eq_true hblock⟩

end

end PagePolicy
