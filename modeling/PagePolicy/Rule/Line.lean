import PagePolicy.Condition.Parser
import PagePolicy.Rule.Basic
import PagePolicy.Text.Search

/-! Lines of the text of rules, taken apart. -/

namespace PagePolicy

inductive Clause where
  | absent
  | parsed (a : Condition)
  /-- The condition in parentheses is none, and is left out. -/
  | invalid (source : String) (e : Condition.ParseError)
  /-- There are no parentheses around all of it, and it stays a part of the pattern. -/
  | malformed
  deriving DecidableEq, Repr

def Clause.ofSource (source : String) : Clause :=
  match Condition.parse source with
  | .ok a => .parsed a
  | .error e => .invalid source e

structure Line where
  action : Action
  color : Option Nat
  pattern : String
  clause : Clause
  /-- Whether the line starts with an at sign that gives it no action. -/
  unrecognized : Bool
  deriving DecidableEq, Repr

namespace Line

open Text

/-- The characters that mean nothing around the parts of a line: blanks and the byte order mark. -/
def isSpace (c : Char) : Bool :=
  isBlank c || c = '\uFEFF'

/-- The greatest number of a color, which takes 64 bits. -/
def maxColor : Nat := 18446744073709551615

/-- The color that digits write. A greater number than the greatest color is the greatest color. -/
def colorOf (digits : List Char) : Nat :=
  min (digits.foldl (fun n c => 10 * n + (c.toNat - '0'.toNat)) 0) maxColor

/-- The color of a line after its at sign, and the pattern after the color. -/
def splitColor (s : List Char) : Option (Nat × List Char) :=
  let digits := s.takeWhile Char.isDigit
  let rest := s.dropWhile Char.isDigit
  let pattern := rest.dropWhile isSpace
  if digits = [] ∨ pattern = rest ∨ pattern = [] then none
  else some (colorOf digits, trim isSpace pattern)

def conditionMark : List Char := " @if ".toList

def insideParens (s : List Char) : Option (List Char) :=
  match s with
  | '(' :: inner => if inner.getLast? = some ')' then some inner.dropLast else none
  | _ => none

def splitClause (s : List Char) : List Char × Clause :=
  match splitAtFirst conditionMark s with
  | none => (s, .absent)
  | some (pattern, clause) =>
    match insideParens (trim isBlank clause) with
    | none => (s, .malformed)
    | some source =>
      (trim isBlank pattern, Clause.ofSource (String.ofList (trim isBlank source)))

/-- The line with an action whose pattern, with the clause after it, is given. -/
def withAction (action : Action) (color : Option Nat) (unrecognized : Bool) (s : List Char) : Line :=
  let (pattern, clause) := splitClause s
  ⟨action, color, String.ofList pattern, clause, unrecognized⟩

/-- The parts of a line that is neither empty nor a comment. -/
def read (raw : String) : Option Line :=
  match trim isSpace raw.toList with
  | [] => none
  | '#' :: _ => none
  | '@' :: '@' :: s => some (withAction .allow none false (trim isSpace s))
  | '@' :: s =>
    match splitColor s with
    | some (color, pattern) => some (withAction .highlight (some color) false pattern)
    | none => some (withAction .block none true ('@' :: s))
  | s => some (withAction .block none false s)

def condition (l : Line) : Option Condition :=
  match l.clause with
  | .parsed a => some a
  | _ => none

def rule (number : Nat) (l : Line) : Rule :=
  ⟨l.action, l.pattern, number, l.color, l.condition⟩

end Line

end PagePolicy
