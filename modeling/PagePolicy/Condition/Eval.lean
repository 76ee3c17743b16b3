import PagePolicy.Condition.Basic
import PagePolicy.Event
import PagePolicy.Properties
import PagePolicy.Text.Lowercase
import PagePolicy.Text.Search

/-! Whether conditions hold. -/

namespace PagePolicy

def CompareKind.holds (actual expected : List Char) : CompareKind → Bool
  | equals => actual = expected
  | startsWith => expected.isPrefixOf actual
  | endsWith => expected.isSuffixOf actual
  | contains => Text.occursIn expected actual

/-- Whether a text compares as asked with an expected one, in lower case if the case is ignored. -/
def CompareOp.holds (op : CompareOp) (actual expected : String) : Bool :=
  if op.ignoreCase then
    op.kind.holds (Text.lowercase actual.toList) (Text.lowercase expected.toList)
  else op.kind.holds actual.toList expected.toList

namespace Condition

variable [Regex.Engine]

/-- Whether a regular expression occurs in a value. A malformed one occurs nowhere. -/
def regexHolds (pattern : String) (flags : Option String) (actual : String) : Bool :=
  match (Regex.Literal.ofCondition pattern flags).compile with
  | .ok a => a.occursIn actual.toList
  | .error _ => false

/-- Whether a condition holds. A test of a property that is absent does not. -/
def holds (p : Properties) : Condition → Bool
  | compare property op value => (p.get property).any fun actual => op.holds actual value
  | regex property pattern flags => (p.get property).any (regexHolds pattern flags)
  | not a => !a.holds p
  | and a b => a.holds p && b.holds p
  | or a b => a.holds p || b.holds p

def regexEvents (pattern : String) (flags : Option String) : List Event :=
  match (Regex.Literal.ofCondition pattern flags).compile with
  | .ok _ => []
  | .error e =>
    [⟨.trace, .conditions, s!"condition regex /{pattern}/ does not compile: {e.message}"⟩]

/-- The remarks made on the way to whether a condition holds: its second part is looked at only if the
first one does not decide. -/
def events (p : Properties) : Condition → List Event
  | compare _ _ _ => []
  | regex property pattern flags =>
    if p.contains property then regexEvents pattern flags else []
  | not a => a.events p
  | and a b => a.events p ++ if a.holds p then b.events p else []
  | or a b => a.events p ++ if a.holds p then [] else b.events p

end Condition

end PagePolicy
