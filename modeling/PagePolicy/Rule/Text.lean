import PagePolicy.Event
import PagePolicy.Rule.Line

/-! Rules written as text, one on a line. -/

namespace PagePolicy

def Rule.ofLine (raw : String) (number : Nat) : Option Rule :=
  (Line.read raw).map (Line.rule number)

def Line.events (raw : String) (number : Nat) : List Event :=
  match (Line.read raw).map Line.clause with
  | some (.invalid source e) =>
    let cause := s!"condition ({source}) does not parse: {e.message}"
    [⟨.warning, .rules, s!"line {number}: {cause}; rule applies unconditionally"⟩]
  | some .malformed =>
    [⟨.debug, .rules, s!"line {number}: `@if` clause kept as literal pattern text"⟩]
  | _ => []

namespace Ruleset

/-- The lines of a text, of which there is at least one. -/
def linesOf (text : String) : List String :=
  (List.splitOn '\n' text.toList).map String.ofList

/-- The rules that lines write, the first of which has a given number. -/
def rulesFrom (number : Nat) (lines : List String) : List Rule :=
  (lines.zipIdx number).filterMap fun (raw, n) => Rule.ofLine raw n

def parse (text : String) : Ruleset :=
  ⟨rulesFrom 1 (linesOf text), linesOf text⟩

def parseEvents (text : String) : List Event :=
  let r := parse text
  let count := s!"parsed {r.rules.length} rules from {r.lines.length} lines"
  ((r.lines.zipIdx 1).flatMap fun (raw, n) => Line.events raw n) ++ [⟨.debug, .rules, count⟩]

end Ruleset

end PagePolicy
