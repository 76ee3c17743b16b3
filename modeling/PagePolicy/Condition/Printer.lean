import PagePolicy.Condition.Basic

/-! Conditions written as text, with no more parentheses than needed. -/

namespace PagePolicy.Condition

/-- A text between double quotes. Quotes and backslashes in it are escaped. -/
def enquote (s : List Char) : List Char :=
  '"' :: s.flatMap (fun c => if c = '"' ∨ c = '\\' then ['\\', c] else [c]) ++ ['"']

/-- A text in parentheses, if it needs them. -/
def parenthesise (needed : Bool) (s : List Char) : List Char :=
  if needed then '(' :: s ++ [')'] else s

def isOr : Condition → Bool
  | or _ _ => true
  | _ => false

def isJoined : Condition → Bool
  | and _ _ | or _ _ => true
  | _ => false

/-- The characters of a condition. Alternatives bind weaker than conjunctions, and both group to the
left. -/
def print : Condition → List Char
  | compare property op value => property.toList ++ op.symbol.toList ++ enquote value.toList
  | regex property pattern flags =>
    property.toList ++ "=~/".toList ++ pattern.toList ++ '/' :: (flags.getD "").toList
  | not a => '!' :: parenthesise a.isJoined a.print
  | and a b =>
    parenthesise a.isOr a.print ++ " & ".toList ++ parenthesise b.isJoined b.print
  | or a b => a.print ++ " | ".toList ++ parenthesise b.isOr b.print

def text (a : Condition) : String :=
  String.ofList a.print

end PagePolicy.Condition
