import PagePolicy.Condition.Basic

/-! Rules, and sets of rules in an order that decides. -/

namespace PagePolicy

inductive Action where
  | block
  | allow
  | highlight
  deriving DecidableEq, Repr

def Action.name : Action → String
  | block => "block"
  | allow => "allow"
  | highlight => "highlight"

structure Rule where
  action : Action
  pattern : String
  line : Nat
  color : Option Nat
  condition : Option Condition
  deriving DecidableEq, Repr

/-- Whether two rules differ in nothing but the line they stand on. -/
def Rule.sameAs (r q : Rule) : Bool :=
  r.action = q.action && r.pattern = q.pattern && r.color = q.color && r.condition = q.condition

/-- Rules in their order, and the lines of the text they stand in. -/
structure Ruleset where
  rules : List Rule
  lines : List String
  deriving DecidableEq, Repr

/-- The line with a number. The first line has the number one. -/
def Ruleset.line? (r : Ruleset) : Nat → Option String
  | 0 => none
  | n + 1 => r.lines[n]?

end PagePolicy
