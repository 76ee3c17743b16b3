/-! Remarks on what happens while rules are read and applied. -/

namespace PagePolicy

inductive Level where
  | warning
  | debug
  | trace
  deriving DecidableEq, Repr

inductive Topic where
  | rules
  | decisions
  | conditions
  deriving DecidableEq, Repr

structure Event where
  level : Level
  topic : Topic
  message : String
  deriving DecidableEq, Repr

end PagePolicy
