import Mathlib.Data.List.Basic
import PagePolicy.Proofs.IdleRules

/-! What a decision depends on: the URL of the page, and the properties that the conditions of the rules mention.
No other property has any influence, whether the page brings it along or it follows from the URL. Of the URL
itself, rules without regular expressions see the scheme, the host, the path and the query. -/

namespace PagePolicy

/-- Whether a condition of some rule mentions a property. -/
def Ruleset.Mentions (r : Ruleset) (key : String) : Prop :=
  ∃ rule ∈ r.rules, ∃ a, rule.condition = some a ∧ key ∈ a.properties

/-- The rule that decides is the same on pages to which the same rules apply. -/
theorem Matcher.lastApplying_congr [Regex.Engine] {m : Matcher} {page other : Page}
    (h : ∀ r ∈ m.rules, r.applies page = r.applies other) : m.lastApplying page = m.lastApplying other := by
  rw [lastApplying, lastApplying]
  refine List.foldl_ext _ _ _ fun last r hr => ?_
  rw [h r.1 (List.fst_mem_of_mem_zipIdx hr)]

section
variable {p q : Properties}

/-- A condition holds of the same pages if these agree on the properties that it mentions. -/
theorem Condition.holds_congr [Regex.Engine] {a : Condition} (h : ∀ key ∈ a.properties, p.get key = q.get key) :
    a.holds p = a.holds q := by
  induction a with
  | compare property op value => rw [holds, holds, h property (List.mem_singleton_self property)]
  | regex property pattern flags => rw [holds, holds, h property (List.mem_singleton_self property)]
  | not a ih => rw [holds, holds, ih h]
  | and a b iha ihb =>
    obtain ⟨ha, hb⟩ := List.forall_mem_append.1 h
    rw [holds, holds, iha ha, ihb hb]
  | or a b iha ihb =>
    obtain ⟨ha, hb⟩ := List.forall_mem_append.1 h
    rw [holds, holds, iha ha, ihb hb]

private theorem Page.get_properties (p : Properties) (key : String) :
    (Page.ofProperties p).properties.get key = p.filled key := by
  rw [← p.get_derive, Page.ofProperties, Target.ofText]

/-- What follows from the URL is filled in on both of two pages, or on neither. -/
theorem Properties.filled_congr {key : String} (hurl : p.url = q.url) (h : p.get key = q.get key) :
    p.filled key = q.filled key := by
  rw [filled, filled, hurl, h]

private theorem CompiledRule.conditionHolds_congr [Regex.Engine] {c : CompiledRule} {page other : Page}
    (h : ∀ a, c.rule.condition = some a → a.holds page.properties = a.holds other.properties) :
    c.conditionHolds page = c.conditionHolds other := by
  rw [conditionHolds, conditionHolds]
  cases hcondition : c.rule.condition with
  | none => rw [Option.all_none, Option.all_none]
  | some a => rw [Option.all_some, Option.all_some, h a hcondition]

/-- A rule applies to both of two pages, or to neither, if its pattern takes them alike and its condition mentions
nothing on which they differ once the parts of their URLs are filled in. -/
theorem Rule.appliesTo_congr_filled [Regex.Engine] {rule : Rule}
    (haccepts : (Pattern.compile rule.pattern).accepts (Target.ofText p.url) =
      (Pattern.compile rule.pattern).accepts (Target.ofText q.url))
    (hfilled : ∀ a, rule.condition = some a → ∀ key ∈ a.properties, p.filled key = q.filled key) :
    rule.appliesTo p = rule.appliesTo q := by
  have htarget : (CompiledRule.ofRule rule).pattern.accepts (Page.ofProperties p).target =
      (CompiledRule.ofRule rule).pattern.accepts (Page.ofProperties q).target := haccepts
  have hcondition : (CompiledRule.ofRule rule).conditionHolds (Page.ofProperties p) =
      (CompiledRule.ofRule rule).conditionHolds (Page.ofProperties q) := by
    refine CompiledRule.conditionHolds_congr fun a ha => Condition.holds_congr fun key hkey => ?_
    rw [Page.get_properties, Page.get_properties]
    exact hfilled a ha key hkey
  rw [appliesTo, appliesTo, CompiledRule.applies, CompiledRule.applies, htarget, hcondition]

private theorem Rule.appliesTo_congr [Regex.Engine] {rule : Rule} (hurl : p.url = q.url)
    (h : ∀ a, rule.condition = some a → ∀ key ∈ a.properties, p.get key = q.get key) :
    rule.appliesTo p = rule.appliesTo q := by
  apply appliesTo_congr_filled
  · rw [hurl]
  · intro a ha key hkey
    exact Properties.filled_congr hurl (h a ha key hkey)

/-- On two pages with one URL the same rule of a set decides, or none, if they agree on all properties that its
conditions mention. Any other properties may differ, and may be there or not. -/
theorem mentioned_properties_decide [Regex.Engine] {r : Ruleset} (hurl : p.url = q.url)
    (hmentioned : ∀ key, r.Mentions key → p.get key = q.get key) :
    (Matcher.ofRuleset r).winnerIndex p = (Matcher.ofRuleset r).winnerIndex q ∧ r.verdict p = r.verdict q := by
  have hlast : (Matcher.ofRuleset r).lastApplying (Page.ofProperties p) =
      (Matcher.ofRuleset r).lastApplying (Page.ofProperties q) := by
    refine Matcher.lastApplying_congr fun c hc => ?_
    obtain ⟨rule, hrule, rfl⟩ := List.mem_map.1 hc
    exact Rule.appliesTo_congr hurl fun a ha key hkey => hmentioned key ⟨rule, hrule, a, ha, hkey⟩
  rw [Matcher.winnerIndex, Matcher.winnerIndex, Ruleset.verdict, Ruleset.verdict, Matcher.verdict, Matcher.verdict,
    hlast]
  exact ⟨rfl, rfl⟩

end

/-- A page that brings along another scheme is blocked for its title like one that does not. -/
theorem mentioned_properties_decide_title :
    let rule : Rule := ⟨.block, "<all_urls>", 1, none, some (.compare "title" ⟨.contains, true⟩ "offer")⟩
    let p := (Properties.ofUrl "https://a.org/").insert "title" "An Offer"
    let q := p.insert "scheme" "ftp"
    p.url = q.url ∧ (∀ key, (Ruleset.mk [rule] []).Mentions key → p.get key = q.get key) ∧
      (Ruleset.mk [rule] []).verdict p = some (.ofRule rule) ∧
      (Ruleset.mk [rule] []).verdict q = some (.ofRule rule) := by
  intro rule p q
  have hurl : p.url = q.url := by simp [q, Properties.url, Properties.urlName]
  have hmentioned (key : String) (h : (Ruleset.mk [rule] []).Mentions key) : p.get key = q.get key := by
    obtain ⟨_, hrule, a, ha, hkey⟩ := h
    obtain rfl := List.mem_singleton.1 hrule
    obtain rfl := Option.some.inj ha
    obtain rfl := List.mem_singleton.1 hkey
    simp [q]
  have hverdict : (Ruleset.mk [rule] []).verdict p = some (.ofRule rule) := by decide +kernel
  exact ⟨hurl, hmentioned, hverdict, (mentioned_properties_decide hurl hmentioned).2.symm.trans hverdict⟩

/-! ### The parts of a URL -/

/-- Whether two URLs have the same scheme, host, path and query. No query is the same as an empty one. -/
structure Url.Alike (u v : Url) : Prop where
  scheme : u.scheme = v.scheme
  host : u.host = v.host
  path : u.path = v.path
  search : u.search = v.search

section
variable {p q : Properties} {u v : Url}

private theorem Url.Alike.subject (h : u.Alike v) : u.subject = v.subject := by
  rw [Url.subject, Url.subject, h.host, h.path, h.search]

private theorem Url.Alike.pathAndQuery (h : u.Alike v) : u.pathAndQuery = v.pathAndQuery := by
  rw [Url.pathAndQuery, Url.pathAndQuery, h.path, h.search]

/-- A pattern that is no regular expression takes a URL by its parts, however it is written. -/
theorem Pattern.accepts_of_alike [Regex.Engine] {text s t : String} (htext : Regex.Literal.parse text = none)
    (hs : Url.parse s = some u) (ht : Url.parse t = some v) (h : u.Alike v) :
    (compile text).accepts (Target.ofText s) = (compile text).accepts (Target.ofText t) := by
  rw [compile]
  split
  next => rfl
  next =>
    rw [htext]
    simp only [accepts, Glob.accepts, Target.ofText, hs, ht, h.scheme, h.subject]

/-- What the parts of two URLs fill in is the same where the pages bring along the same. -/
theorem Properties.filled_of_alike {key : String} (hp : Url.parse p.url = some u) (hq : Url.parse q.url = some v)
    (h : u.Alike v) (hkey : p.get key = q.get key) : p.filled key = q.filled key := by
  simp only [filled, hp, hq, hkey, Option.bind_some, h.scheme, h.host, h.pathAndQuery]

/-- The same rule decides on pages whose properties are the same but for the URL, if the two URLs have the same
parts and no rule looks at more of them: no pattern is a regular expression, and no condition mentions the
URL. User names, ports, fragments and the way in which a URL is written have no influence. -/
theorem url_parts_decide [Regex.Engine] {r : Ruleset}
    (hglob : ∀ rule ∈ r.rules, Regex.Literal.parse rule.pattern = none)
    (hmentions : ¬ r.Mentions Properties.urlName)
    (hrest : ∀ key, key ≠ Properties.urlName → p.get key = q.get key)
    (hp : Url.parse p.url = some u) (hq : Url.parse q.url = some v) (hparts : u.Alike v) :
    (Matcher.ofRuleset r).winnerIndex p = (Matcher.ofRuleset r).winnerIndex q ∧ r.verdict p = r.verdict q := by
  have happlies (rule : Rule) (hrule : rule ∈ r.rules) : rule.appliesTo p = rule.appliesTo q := by
    apply Rule.appliesTo_congr_filled
    · exact Pattern.accepts_of_alike (hglob rule hrule) hp hq hparts
    · intro a ha key hkey
      have hne : key ≠ Properties.urlName := by
        rintro rfl
        exact hmentions ⟨rule, hrule, a, ha, hkey⟩
      exact Properties.filled_of_alike hp hq hparts (hrest key hne)
  have hlast : (Matcher.ofRuleset r).lastApplying (Page.ofProperties p) =
      (Matcher.ofRuleset r).lastApplying (Page.ofProperties q) := by
    apply Matcher.lastApplying_congr
    intro c hc
    obtain ⟨rule, hrule, rfl⟩ := List.mem_map.1 hc
    exact happlies rule hrule
  constructor
  · rw [Matcher.winnerIndex, hlast, Matcher.winnerIndex]
  · rw [Ruleset.verdict, Matcher.verdict, hlast, Ruleset.verdict, Matcher.verdict]

end

/-- A user name, a port, a fragment and capital letters in the URL change nothing about a rule on the host. -/
theorem url_parts_decide_user :
    let rule : Rule := ⟨.allow, "*://*.example.org/*", 1, none, some (.compare "host" ⟨.endsWith, false⟩ "org")⟩
    let r := Ruleset.mk [rule] []
    let p := Properties.ofUrl "HTTPS://user@WWW.Example.org:444/a%2e?#top"
    let q := Properties.ofUrl "https://www.example.org/a%2e"
    (∀ rule ∈ r.rules, Regex.Literal.parse rule.pattern = none) ∧ ¬ r.Mentions Properties.urlName ∧
      (∀ key, key ≠ Properties.urlName → p.get key = q.get key) ∧
      (∃ u v, Url.parse p.url = some u ∧ Url.parse q.url = some v ∧ u.Alike v) ∧
      r.verdict p = some (.ofRule rule) ∧ r.verdict q = some (.ofRule rule) := by
  intro rule r p q
  have hglob (rule : Rule) (h : rule ∈ r.rules) : Regex.Literal.parse rule.pattern = none := by
    obtain rfl := List.mem_singleton.1 h
    decide
  have hmentions : ¬ r.Mentions Properties.urlName := by
    rintro ⟨_, hrule, a, ha, hkey⟩
    obtain rfl := List.mem_singleton.1 hrule
    obtain rfl := Option.some.inj ha
    revert hkey
    decide
  have hrest (key : String) (hkey : key ≠ Properties.urlName) : p.get key = q.get key := by
    simp [p, q, Properties.ofUrl, Properties.get, List.lookup_cons, beq_eq_false_iff_ne.2 hkey]
  have hp : Url.parse p.url = some ⟨"https", "www.example.org", "/a%2e", some ""⟩ := by decide +kernel
  have hq : Url.parse q.url = some ⟨"https", "www.example.org", "/a%2e", none⟩ := by decide +kernel
  have hparts : Url.Alike ⟨"https", "www.example.org", "/a%2e", some ""⟩
      ⟨"https", "www.example.org", "/a%2e", none⟩ := ⟨rfl, rfl, rfl, rfl⟩
  have hverdict : r.verdict q = some (.ofRule rule) := by decide +kernel
  exact ⟨hglob, hmentions, hrest, ⟨_, _, hp, hq, hparts⟩,
    (url_parts_decide hglob hmentions hrest hp hq hparts).2.trans hverdict, hverdict⟩

end PagePolicy
