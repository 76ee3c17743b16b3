import PagePolicy.Regex.Escape

/-! Classes of characters written in brackets. -/

namespace PagePolicy.Regex

open Text (Reading Reader)

/-- The operations on classes within brackets, all of one rank and read from the left. -/
inductive SetOperation where
  | inter
  | diff
  | symmDiff
  deriving DecidableEq, Repr

def SetOperation.apply : SetOperation → CharClass → CharClass → CharClass
  | inter => .inter
  | diff => .diff
  | symmDiff => .symmDiff

/-! ### Nesting -/

/-- What a text was read as, and how deep its notation is nested. -/
structure Nested (α : Type) where
  value : α
  depth : Nat

/-- Notation that has no parts. -/
def Nested.leaf {α : Type} (a : α) : Nested α :=
  ⟨a, 0⟩

/-- How deep parts in a row are nested, given how deep each of them is. A part that stands alone is no row. -/
def rowDepth : List Nat → Nat
  | [] => 0
  | [n] => n
  | ns => ns.foldr max 0 + 1

/-! ### Items -/

/-- The class of a whole pair of brackets: its complement is taken after letters have been joined by
their other cases. -/
def closeClass (mode : Mode) (negated : Bool) (k : CharClass) : Option CharClass :=
  let k := CharClass.signed negated (mode.folded k)
  if mode.admits k then some k else none

def rangeEnd (mode : Mode) : Primitive → Option Char
  | .character c | .byte c => if mode.unicode || c.toNat < 0x80 then some c else none
  | _ => none

/-- The class of an item that is no range. -/
def itemClass (mode : Mode) : Primitive → Option CharClass
  | .characterClass k => some k
  | p => (rangeEnd mode p).map .single

/-- A single character or an escape, the first character having been read. -/
def bracketItem (mode : Mode) (c : Char) : Reader Primitive :=
  if c = '\\' then escape mode else pure (.character c)

/-- A range or an item, the first character having been read. A dash before a closing bracket or
another dash makes no range. -/
def bracketRange (mode : Mode) (c : Char) : Reader CharClass := do
  let first ← bracketItem mode c
  skipSpace mode
  match ← .remaining with
  | '-' :: s =>
    if peekPastSpace mode s = some ']' ∨ peekPastSpace mode s = some '-' then
      .ofOption (itemClass mode first)
    else
      let _ ← nextSpaced mode
      let last ← bracketItem mode (← .next)
      let low ← .ofOption (rangeEnd mode first)
      let high ← .ofOption (rangeEnd mode last)
      .require (low ≤ high)
      return .ranges [(low, high)]
  | _ => .ofOption (itemClass mode first)

/-- A class of ASCII characters whose name stands between colons, the bracket having been read, and
whether its complement is meant. -/
def namedClass : Reader (Bool × CharClass) := do
  .expect ':'
  let negated ← .accept ['^']
  let name ← .run (· != ':')
  .expect ':'
  .expect ']'
  let k ← .ofOption (CharClass.named.lookup (String.ofList name))
  return (negated, k)

/-- Items in brackets: the class of all of them, and how deep each is nested. -/
structure Items where
  k : CharClass
  depths : List Nat

def Items.add (items : Items) (item : Nested CharClass) : Items :=
  ⟨.union items.k item.value, item.depth :: items.depths⟩

/-- What stands right after an opening bracket: whether a complement is meant, then dashes or one
closing bracket that stand for themselves. -/
def bracketOpening (mode : Mode) : Reader (Bool × Items) := do
  skipSpace mode
  let negated ← .accept ['^']
  skipSpace mode
  let dashes ← runSpaced mode (· = '-')
  if !dashes.isEmpty then return (negated, ⟨.single '-', dashes.map fun _ => 0⟩)
  else if ← .accept [']'] then
    skipSpace mode
    return (negated, ⟨.single ']', [0]⟩)
  else return (negated, ⟨.none, []⟩)

def setOperation? : List Char → Option SetOperation
  | '&' :: '&' :: _ => some .inter
  | '-' :: '-' :: _ => some .diff
  | '~' :: '~' :: _ => some .symmDiff
  | _ => none

/-- The class of items and of what an operation before them has on its left. -/
def joinItems (mode : Mode) (left : Option (SetOperation × Nested CharClass)) (items : Items) :
    Nested CharClass :=
  match left with
  | some (operation, a) =>
    ⟨operation.apply (mode.folded a.value) (mode.folded items.k), max a.depth (rowDepth items.depths) + 1⟩
  | none => ⟨items.k, rowDepth items.depths⟩

/-- The class of brackets as an item of others. -/
def closeBrackets (mode : Mode) (negated : Bool) (a : Nested CharClass) : Option (Nested CharClass) :=
  (closeClass mode negated a.value).map (⟨·, a.depth + 1⟩)

/-- The class up to the closing bracket, `items` having been read since the last operation and `left`
being that operation with the class before it. -/
def bracketItems (mode : Mode) (left : Option (SetOperation × Nested CharClass)) (items : Items)
    (s : List Char) : Option (Reading (Nested CharClass) s) :=
  have hs := length_dropSpace_le mode s
  match h : dropSpace mode s with
  | [] => none
  | c :: rest =>
    have hrest : rest.length < s.length := by
      rw [h, List.length_cons] at hs
      exact hs
    if c = ']' then some ⟨joinItems mode left items, rest, Nat.le_of_lt hrest⟩
    else if c = '[' then
      match namedClass rest with
      | some ⟨(negated, k), rest', h'⟩ =>
        have := Nat.lt_of_le_of_lt h' hrest
        (closeClass mode negated k).bind fun k =>
          (bracketItems mode left (items.add (.leaf k)) rest').map (.widen (Nat.le_of_lt this))
      | none =>
        match bracketOpening mode rest with
        | none => none
        | some ⟨(negated, inner), rest', h'⟩ =>
          have := Nat.lt_of_le_of_lt h' hrest
          match bracketItems mode none inner rest' with
          | none => none
          | some ⟨a, rest'', h''⟩ =>
            have := Nat.lt_of_le_of_lt h'' this
            (closeBrackets mode negated a).bind fun a =>
              (bracketItems mode left (items.add a) rest'').map (.widen (Nat.le_of_lt this))
    else match setOperation? (c :: rest) with
      | some operation =>
        have : rest.tail.length < s.length :=
          Nat.lt_of_le_of_lt (by rw [List.length_tail]; exact Nat.sub_le _ _) hrest
        (bracketItems mode (some (operation, joinItems mode left items)) ⟨.none, []⟩ rest.tail).map
          (.widen (Nat.le_of_lt this))
      | none =>
        match bracketRange mode c rest with
        | none => none
        | some ⟨k, rest', h'⟩ =>
          have := Nat.lt_of_le_of_lt h' hrest
          (bracketItems mode left (items.add (.leaf k)) rest').map (.widen (Nat.le_of_lt this))
  termination_by s.length

/-- A class in brackets, the opening bracket having been read. -/
def bracket (mode : Mode) : Reader (Nested CharClass) := do
  let (negated, items) ← bracketOpening mode
  let a ← bracketItems mode none items
  .ofOption (closeBrackets mode negated a)

end PagePolicy.Regex
