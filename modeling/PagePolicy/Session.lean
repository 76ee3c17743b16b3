import PagePolicy.Decision
import PagePolicy.Lint

/-! Sessions with a set of rules and the properties of one page after another. -/

namespace PagePolicy

/-- A set of rules, its patterns having been read, and the properties of the page at hand. -/
structure Session where
  ruleset : Ruleset
  matcher : Matcher
  properties : Properties

inductive Session.Step where
  | new (url : String)
  | insert (name value : String)
  | insertIfAbsent (name value : String)
  | get (name : String)
  | url
  | decide
  | blocked
  | line (number : Nat)
  | lint

inductive Session.Answer where
  | properties (p : Properties)
  | value (v : Option String)
  | url (u : String)
  | decision (index : Option Nat) (winner : Option Rule)
  | blocked (b : Bool)
  | line (l : Option String)
  | report (r : LintReport)

namespace Session

variable [Regex.Engine]

/-- The session at its start. The page has an empty URL. -/
def start (r : Ruleset) : Session :=
  ⟨r, .ofRuleset r, .ofUrl ""⟩

def Step.apply (p : Properties) : Step → Properties
  | new u => .ofUrl u
  | insert name value => p.insert name value
  | insertIfAbsent name value => p.insertIfAbsent name value
  | _ => p

def after (s : Session) (step : Step) : Session :=
  { s with properties := step.apply s.properties }

def answer (s : Session) : Step → Answer
  | .new u => .properties (.ofUrl u)
  | .insert name value => .properties (s.properties.insert name value)
  | .insertIfAbsent name value => .properties (s.properties.insertIfAbsent name value)
  | .get name => .value (s.properties.get name)
  | .url => .url s.properties.url
  | .decide => .decision (s.matcher.winnerIndex s.properties) (s.matcher.winner s.properties)
  | .blocked => .blocked (s.matcher.isBlocked s.properties)
  | .line number => .line (s.ruleset.line? number)
  | .lint => .report s.ruleset.lint

def answers (s : Session) : List Step → List Answer
  | [] => []
  | step :: steps => s.answer step :: (s.after step).answers steps

/-- The remarks on steps taken one after another. -/
def events (s : Session) : List Step → List Event
  | [] => []
  | step :: steps =>
    let remarks := match step with
      | .decide | .blocked => s.matcher.decisionEvents s.properties
      | _ => []
    remarks ++ (s.after step).events steps

end Session

end PagePolicy
