import PagePolicy.Regex.CharClass

/-! Regular expressions and the places in a text at which they can begin and end. -/

namespace PagePolicy

inductive WordEdge where
  | boundary
  | interior
  | start
  | stop
  | startHalf
  | stopHalf
  deriving DecidableEq, Repr

inductive Assertion where
  | textStart
  | textEnd
  | lineStart
  | lineEnd
  /-- A carriage return and a line feed in a row end one line. -/
  | returnedLineStart
  | returnedLineEnd
  | word (edge : WordEdge)
  | asciiWord (edge : WordEdge)
  deriving DecidableEq, Repr

/-- Whether a place is such an edge, given whether word characters stand before and after it. -/
def WordEdge.holds (before after : Bool) : WordEdge → Bool
  | boundary => before != after
  | interior => before == after
  | start => !before && after
  | stop => before && !after
  | startHalf => !before
  | stopHalf => !after

def Assertion.holds (before after : Option Char) : Assertion → Bool
  | textStart => before.isNone
  | textEnd => after.isNone
  | lineStart => before.all (· = '\n')
  | lineEnd => after.all (· = '\n')
  | returnedLineStart => before.all fun c => c = '\n' || (c = '\r' && after != some '\n')
  | returnedLineEnd => after.all fun c => c = '\r' || (c = '\n' && before != some '\r')
  | word edge =>
    edge.holds (before.any CharClass.wordCharacters.contains)
      (after.any CharClass.wordCharacters.contains)
  | asciiWord edge =>
    edge.holds (before.any CharClass.asciiWordCharacters.contains)
      (after.any CharClass.asciiWordCharacters.contains)

/-- Regular expressions. A loop takes its body at least `least` and at most `most` times. -/
inductive Regex where
  | empty
  | one (k : CharClass)
  | assert (a : Assertion)
  | seq (a b : Regex)
  | alt (a b : Regex)
  | loop (a : Regex) (least : Nat) (most : Option Nat)

namespace Regex

/-- `Matches a before text after` holds when `a` matches `text` between `before` and `after`. -/
inductive Matches : Regex → List Char → List Char → List Char → Prop where
  | empty {l r} : Matches empty l [] r
  | one {k c l r} (h : k.contains c = true) : Matches (one k) l [c] r
  | assert {a l r} (h : a.holds l.getLast? r.head? = true) : Matches (assert a) l [] r
  | seq {a b l u v r} (ha : Matches a l u (v ++ r)) (hb : Matches b (l ++ u) v r) :
      Matches (seq a b) l (u ++ v) r
  | altLeft {a b l u r} (h : Matches a l u r) : Matches (alt a b) l u r
  | altRight {a b l u r} (h : Matches b l u r) : Matches (alt a b) l u r
  | loopEnd {a most l r} : Matches (loop a 0 most) l [] r
  | loopNext {a least most l u v r} (hmost : most ≠ some 0) (ha : Matches a l u (v ++ r))
      (hl : Matches (loop a (least - 1) (most.map (· - 1))) (l ++ u) v r) :
      Matches (loop a least most) l (u ++ v) r

/-- A regular expression occurs in a text when it matches some part of it. -/
def OccursIn (a : Regex) (s : List Char) : Prop :=
  ∃ l u r, s = l ++ u ++ r ∧ Matches a l u r

def anyLine : Regex :=
  loop (one (.allBut ['\n'])) 0 none

end Regex

end PagePolicy
