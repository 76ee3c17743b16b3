import PagePolicy.Condition.Eval
import PagePolicy.Pattern.Basic
import PagePolicy.Rule.Basic

/-! The rule that decides on a page: the last one that applies. -/

namespace PagePolicy

variable [Regex.Engine]

/-- The properties of a page with those that follow from its URL, where there are none under their
names. -/
def Properties.derive (p : Properties) : Option Url → Properties
  | none => p
  | some u =>
    ((p.insertIfAbsent schemeName u.scheme).insertIfAbsent hostName u.host).insertIfAbsent pathName
      u.pathAndQuery

/-- A rule and what its pattern stands for. -/
structure CompiledRule where
  rule : Rule
  pattern : Pattern

def CompiledRule.ofRule (r : Rule) : CompiledRule :=
  ⟨r, Pattern.compile r.pattern⟩

/-- Rules whose patterns have been read, in their order. -/
structure Matcher where
  rules : List CompiledRule

structure Page where
  target : Target
  properties : Properties

def Page.ofProperties (p : Properties) : Page :=
  let target := Target.ofText p.url
  ⟨target, p.derive target.url⟩

namespace CompiledRule

/-- Whether the condition of a rule holds, if it has one. -/
def conditionHolds (r : CompiledRule) (page : Page) : Bool :=
  r.rule.condition.all (·.holds page.properties)

def applies (r : CompiledRule) (page : Page) : Bool :=
  r.pattern.accepts page.target && r.conditionHolds page

def patternEvents (r : CompiledRule) : List Event :=
  match r.pattern.error? with
  | none => []
  | some e =>
    let pattern := Text.quoted r.rule.pattern
    [⟨.debug, .decisions, s!"line {r.rule.line}: pattern {pattern} never matches: {e.message}"⟩]

/-- The remarks made on the way to whether a rule applies. Its condition is looked at only if its
pattern accepts the page. -/
def events (r : CompiledRule) (page : Page) : List Event :=
  if r.pattern.accepts page.target then
    ((r.rule.condition.map (·.events page.properties)).getD []) ++
      if r.conditionHolds page then
        let pattern := Text.quoted r.rule.pattern
        [⟨.trace, .decisions, s!"line {r.rule.line}: {r.rule.action.name} {pattern} applies"⟩]
      else []
  else []

end CompiledRule

/-- What was decided on a page: an action, and the rule that asks for it. -/
structure Verdict where
  action : Action
  rule : Rule
  deriving DecidableEq, Repr

def Verdict.ofRule (r : Rule) : Verdict :=
  ⟨r.action, r⟩

def Verdict.isBlocked (v : Verdict) : Bool :=
  v.action = .block

namespace Matcher

def ofRuleset (r : Ruleset) : Matcher :=
  ⟨r.rules.map .ofRule⟩

/-- The last rule that applies to a page, with its index. Each rule that applies overrules the ones before
it. -/
def lastApplying (m : Matcher) (page : Page) : Option (CompiledRule × Nat) :=
  m.rules.zipIdx.foldl (fun last r => if r.1.applies page then some r else last) none

/-- The verdict on a page, if some rule applies to it. -/
def verdict (m : Matcher) (p : Properties) : Option Verdict :=
  (m.lastApplying (Page.ofProperties p)).map fun r => Verdict.ofRule r.1.rule

/-- The rule that decides, which is the last one that applies. -/
def winner (m : Matcher) (p : Properties) : Option Rule :=
  (m.verdict p).map Verdict.rule

def winnerIndex (m : Matcher) (p : Properties) : Option Nat :=
  (m.lastApplying (Page.ofProperties p)).map Prod.snd

def isBlocked (m : Matcher) (p : Properties) : Bool :=
  (m.verdict p).any Verdict.isBlocked

def patternEvents (m : Matcher) : List Event :=
  m.rules.flatMap CompiledRule.patternEvents

def decisionEvents (m : Matcher) (p : Properties) : List Event :=
  let page := Page.ofProperties p
  m.rules.flatMap (·.events page)

end Matcher

namespace Ruleset

def verdict (r : Ruleset) (p : Properties) : Option Verdict :=
  (Matcher.ofRuleset r).verdict p

def winner (r : Ruleset) (p : Properties) : Option Rule :=
  (Matcher.ofRuleset r).winner p

def isBlocked (r : Ruleset) (p : Properties) : Bool :=
  (Matcher.ofRuleset r).isBlocked p

/-- The remarks on a decision whose patterns are read for it alone. -/
def decisionEvents (r : Ruleset) (p : Properties) : List Event :=
  let m := Matcher.ofRuleset r
  m.patternEvents ++ m.decisionEvents p

end Ruleset

end PagePolicy
