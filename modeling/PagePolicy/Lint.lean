import PagePolicy.Pattern.Basic
import PagePolicy.Rule.Line

/-! Findings about rules that will not work as they are written. -/

namespace PagePolicy

variable [Regex.Engine]

inductive Severity where
  | warning
  | error
  deriving DecidableEq, Repr

def Severity.name : Severity → String
  | warning => "warning"
  | error => "error"

inductive Finding where
  | malformedCondition
  | invalidCondition (e : Condition.ParseError)
  | invalidPattern (e : Regex.Error)
  | invalidConditionRegex (pattern : String) (e : Regex.Error)
  | unrecognizedDirective
  /-- An earlier rule, on the line `first`, is the same. -/
  | duplicateRule (first : Nat)
  deriving DecidableEq, Repr

namespace Finding

/-- How grave a finding is. Where a condition or a regular expression is lost, it is an error. -/
def severity : Finding → Severity
  | invalidCondition _ | invalidPattern _ | invalidConditionRegex _ _ => .error
  | malformedCondition | unrecognizedDirective | duplicateRule _ => .warning

def message : Finding → String
  | malformedCondition =>
    "`@if` is not followed by `(...)` at the end of the line; it is matched as part of the pattern"
  | invalidCondition e =>
    s!"condition does not parse ({e.message}); the rule applies unconditionally"
  | invalidPattern e => s!"regex pattern never matches: {e.message}"
  | invalidConditionRegex pattern e => s!"condition regex /{pattern}/ never matches: {e.message}"
  | unrecognizedDirective =>
    "line starts with '@' but is neither an allow (@@) nor a highlight (@N) rule; it is a block pattern"
  | duplicateRule first => s!"duplicate of the rule on line {first}"

end Finding

/-- A finding about the rule on a line. -/
structure Diagnostic where
  line : Nat
  finding : Finding
  deriving DecidableEq, Repr

def Diagnostic.severity (d : Diagnostic) : Severity :=
  d.finding.severity

def Diagnostic.message (d : Diagnostic) : String :=
  s!"line {d.line}: {d.severity.name}: {d.finding.message}"

/-! ### The findings about one rule -/

/-- The findings about the line that a rule was read from. -/
def Line.findings (l : Line) : List Finding :=
  (if l.unrecognized then [.unrecognizedDirective] else []) ++
    match l.clause with
    | .invalid _ e => [.invalidCondition e]
    | .malformed => [.malformedCondition]
    | .absent | .parsed _ => []

namespace Rule

/-- The findings about the text of a rule. A rule may come without a line of its own. -/
def sourceFindings (lines : Ruleset) (r : Rule) : List Finding :=
  match (lines.line? r.line).bind Line.read with
  | some l => l.findings
  | none =>
    if Text.occursIn Line.conditionMark r.pattern.toList then [.malformedCondition] else []

def patternFindings (r : Rule) : List Finding :=
  ((Pattern.compile r.pattern).error?.map Finding.invalidPattern).toList

def regexFinding (pattern : String) (flags : Option String) : Option Finding :=
  match (Regex.Literal.ofCondition pattern flags).compile with
  | .ok _ => none
  | .error e => some (.invalidConditionRegex pattern e)

def conditionFindings (r : Rule) : List Finding :=
  match r.condition with
  | none => []
  | some a => a.regexes.filterMap fun (pattern, flags) => regexFinding pattern flags

/-- The finding that one of the rules before a rule is the same. -/
def duplicateFindings (earlier : List Rule) (r : Rule) : List Finding :=
  ((earlier.find? (·.sameAs r)).map fun first => Finding.duplicateRule first.line).toList

def findings (lines : Ruleset) (earlier : List Rule) (r : Rule) : List Finding :=
  r.sourceFindings lines ++ r.patternFindings ++ r.conditionFindings ++ r.duplicateFindings earlier

end Rule

/-! ### Reports -/

/-- The diagnostics about some rules, and how many rules there are. -/
structure LintReport where
  diagnostics : List Diagnostic
  total : Nat
  block : Nat
  allow : Nat
  highlight : Nat
  deriving DecidableEq, Repr

namespace LintReport

def count (r : LintReport) (s : Severity) : Nat :=
  r.diagnostics.countP (·.severity = s)

def hasErrors (r : LintReport) : Bool :=
  r.diagnostics.any (·.severity = .error)

end LintReport

namespace Ruleset

def countAction (r : Ruleset) (a : Action) : Nat :=
  r.rules.countP (·.action = a)

/-- The diagnostics about rules that follow other rules. -/
def diagnosticsAfter (lines : Ruleset) (earlier : List Rule) : List Rule → List Diagnostic
  | [] => []
  | r :: rest =>
    (r.findings lines earlier).map (⟨r.line, ·⟩) ++ diagnosticsAfter lines (earlier ++ [r]) rest

def lint (r : Ruleset) : LintReport where
  diagnostics := diagnosticsAfter r [] r.rules
  total := r.rules.length
  block := r.countAction .block
  allow := r.countAction .allow
  highlight := r.countAction .highlight

end Ruleset

end PagePolicy
