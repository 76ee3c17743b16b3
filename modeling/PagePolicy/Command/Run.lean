import PagePolicy.Command.Basic
import PagePolicy.Command.JsonValue
import PagePolicy.Condition.Printer
import PagePolicy.Decision
import PagePolicy.Lint
import PagePolicy.Rule.Text

/-! What the commands answer. -/

namespace PagePolicy

variable [Regex.Engine]

/-- What a command writes and how it ends. -/
structure Outcome where
  output : List String
  /-- What went wrong, if something did. -/
  failure : Option String
  deriving DecidableEq, Repr

def Outcome.exitCode (o : Outcome) : Nat :=
  if o.failure.isSome then 1 else 0

def Outcome.complaint (o : Outcome) : List String :=
  (o.failure.map fun failure => s!"Error: {failure}").toList

/-! ### Rules and decisions -/

def Rule.toJson (r : Rule) : JsonValue :=
  .object
    ([("action", .text r.action.name), ("pattern", .text r.pattern), ("line", .number r.line)] ++
      (r.color.map fun color => ("highlight_color", JsonValue.number color)).toList ++
      (r.condition.map fun a => ("condition", JsonValue.text a.text)).toList)

structure CheckResult where
  url : String
  verdict : Option Verdict

namespace CheckResult

def toJson (r : CheckResult) : JsonValue :=
  .object
    [("url", .text r.url), ("blocked", .bool (r.verdict.any Verdict.isBlocked)),
      ("action", (r.verdict.map fun v => JsonValue.text v.action.name).getD .null),
      ("rule", (r.verdict.map fun v => v.rule.toJson).getD .null)]

def ruleText (r : Rule) : String :=
  let color := (r.color.map fun color => s!", color {color}").getD ""
  let condition := (r.condition.map fun a => s!" @if ({a.text})").getD ""
  s!"(line {r.line}: {r.pattern}{color}{condition})"

def text (r : CheckResult) : String :=
  match r.verdict with
  | some ⟨_, rule⟩ => s!"{r.url}  {rule.action.name}  {ruleText rule}"
  | none => s!"{r.url}  no match"

end CheckResult

namespace CheckOptions

def propertiesOf (o : CheckOptions) (url : String) : Properties :=
  let p := Properties.ofUrl url
  let p := match o.title with
    | some title => p.insert Properties.titleName title
    | none => p
  o.properties.foldl (fun p (name, value) => p.insert name value) p

def result (o : CheckOptions) (m : Matcher) (url : String) : CheckResult :=
  ⟨url, m.verdict (o.propertiesOf url)⟩

/-- What rules decide about the URLs, in their order. -/
def results (o : CheckOptions) (r : Ruleset) : List CheckResult :=
  let m := Matcher.ofRuleset r
  o.urls.map (o.result m)

/-- The lines about results, or all of them as JSON. -/
def shown (o : CheckOptions) (results : List CheckResult) : List String :=
  if o.json then [(JsonValue.list (results.map CheckResult.toJson)).render]
  else results.map CheckResult.text

def loadedLine (o : CheckOptions) (r : Ruleset) (milliseconds : String) : String :=
  let counts := s!"{r.lines.length} lines, {r.rules.length} rules"
  s!"Loaded '{o.rules}': {counts} ({milliseconds}ms)"

end CheckOptions

def LintReport.lines (file : String) (r : LintReport) : List String :=
  r.diagnostics.map (fun d => s!"{file}: {d.message}") ++
    (if r.diagnostics = [] then [] else [""]) ++
    [s!"Ruleset '{file}'", s!"  Rules:       {r.total}", s!"  Block:       {r.block}",
      s!"  Allow:       {r.allow}", s!"  Highlight:   {r.highlight}",
      s!"  Errors:      {r.count .error}", s!"  Warnings:    {r.count .warning}"]

namespace Command

def runOn (r : Ruleset) (milliseconds : String) : Command → Outcome
  | check o =>
    ⟨(if o.verbose then [o.loadedLine r milliseconds] else []) ++ o.shown (o.results r), none⟩
  | lint file =>
    let report := r.lint
    ⟨report.lines file, if report.hasErrors then some s!"{file} has lint errors" else none⟩
  | dump _ => ⟨[(JsonValue.list (r.rules.map Rule.toJson)).render], none⟩

/-- What a command answers, given what its file holds and the time that reading it took. -/
def run (c : Command) (content : Except ReadError String) (milliseconds : String) : Outcome :=
  match content with
  | .error e => ⟨[], some s!"Failed to read '{c.file}': {e.message}"⟩
  | .ok text => c.runOn (Ruleset.parse text) milliseconds

end Command

end PagePolicy
