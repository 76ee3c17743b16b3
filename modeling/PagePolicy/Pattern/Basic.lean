import PagePolicy.Pattern.Glob
import PagePolicy.Regex.Literal

/-! Patterns of rules. -/

namespace PagePolicy

/-- What a pattern stands for: every URL, the texts in which a regular expression occurs, or the texts
that a glob accepts. -/
inductive Pattern where
  | all
  | regex (compiled : Except Regex.Error Regex)
  | glob (g : Glob)

namespace Pattern

variable [Regex.Engine]

def allUrls : List String := ["<all_urls>", "*://*/*"]

def compile (text : String) : Pattern :=
  if text ∈ allUrls then .all
  else match Regex.Literal.parse text with
    | some l => .regex l.compile
    | none => .glob (.ofPattern text.toList)

/-- Whether a pattern accepts a target. A malformed regular expression accepts none. -/
def accepts (p : Pattern) (t : Target) : Bool :=
  match p with
  | all => true
  | regex (.ok a) => a.occursIn t.raw.toList
  | regex (.error _) => false
  | glob g => g.accepts t

/-- Why a pattern accepts no target, if it is malformed. -/
def error? : Pattern → Option Regex.Error
  | regex (.error e) => some e
  | _ => none

end Pattern

end PagePolicy
