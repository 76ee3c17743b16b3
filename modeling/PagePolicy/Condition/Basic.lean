import PagePolicy.Regex.Literal

/-! Conditions on the properties of a page. -/

namespace PagePolicy

inductive CompareKind where
  | equals
  | startsWith
  | endsWith
  | contains
  deriving DecidableEq, Repr

def CompareKind.symbol : CompareKind → String
  | equals => "="
  | startsWith => "^="
  | endsWith => "$="
  | contains => "*="

def CompareKind.ofSymbol? (symbol : List Char) : Option CompareKind :=
  [equals, startsWith, endsWith, contains].find? fun kind => kind.symbol.toList = symbol

/-- A comparison that may take capital and small letters as equal. -/
structure CompareOp where
  kind : CompareKind
  ignoreCase : Bool
  deriving DecidableEq, Repr

namespace CompareOp

/-- The sign of a comparison, with the letter that has it ignore the case of letters. -/
def symbol (op : CompareOp) : String :=
  op.kind.symbol ++ if op.ignoreCase then "i" else ""

/-- The comparison that a text writes. Its letter can be a capital. -/
def parse (text : String) : Option CompareOp :=
  let letters := text.toList.map Char.toLower
  if letters.getLast? = some 'i' then
    (CompareKind.ofSymbol? letters.dropLast).map fun kind => ⟨kind, true⟩
  else (CompareKind.ofSymbol? letters).map fun kind => ⟨kind, false⟩

end CompareOp

/-- Conditions on properties, which have names and texts as values. -/
inductive Condition where
  | compare (property : String) (op : CompareOp) (value : String)
  /-- A regular expression to be found in the value, with its flags if it has any. -/
  | regex (property pattern : String) (flags : Option String)
  | not (a : Condition)
  | and (a b : Condition)
  | or (a b : Condition)
  deriving DecidableEq, Repr

namespace Condition

/-- The condition on a regular expression. No flags are written as the empty text. -/
def ofRegex (property pattern flags : String) : Condition :=
  .regex property pattern (if flags = "" then none else some flags)

def regexes : Condition → List (String × Option String)
  | compare _ _ _ => []
  | regex _ pattern flags => [(pattern, flags)]
  | not a => a.regexes
  | and a b => a.regexes ++ b.regexes
  | or a b => a.regexes ++ b.regexes

/-- The names of the properties that a condition depends on, from left to right. -/
def properties : Condition → List String
  | compare property _ _ => [property]
  | regex property _ _ => [property]
  | not a => a.properties
  | and a b => a.properties ++ b.properties
  | or a b => a.properties ++ b.properties

end Condition

/-- A regular expression of a condition, with the flags it has. -/
def Regex.Literal.ofCondition (pattern : String) (flags : Option String) : Regex.Literal :=
  ⟨pattern, flags.getD ""⟩

end PagePolicy
