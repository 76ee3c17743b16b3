/-! The commands of the program. -/

namespace PagePolicy

/-- What pages are checked with, and how the result is shown. -/
structure CheckOptions where
  rules : String
  title : Option String
  /-- Names and values, of which a later one replaces an earlier one of its name. -/
  properties : List (String × String)
  json : Bool
  verbose : Bool
  urls : List String
  deriving DecidableEq, Repr

/-- The commands, each of which reads one file of rules. -/
inductive Command where
  | check (options : CheckOptions)
  | lint (rules : String)
  | dump (rules : String)
  deriving DecidableEq, Repr

def Command.file : Command → String
  | check options => options.rules
  | lint rules => rules
  | dump rules => rules

inductive ReadError where
  /-- The system refuses, for a reason that has a number. -/
  | refused (reason : String) (number : Nat)
  | notText
  deriving DecidableEq, Repr

def ReadError.message : ReadError → String
  | refused reason number => s!"{reason} (os error {number})"
  | notText => "stream did not contain valid UTF-8"

end PagePolicy
