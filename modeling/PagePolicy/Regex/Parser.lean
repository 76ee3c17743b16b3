import PagePolicy.Regex.Bracket
import PagePolicy.Unicode.Letter

/-! Regular expressions written as text. A match is found in time linear in the text, so there is no
notation for what surrounds a match or for what a group has matched before. -/

namespace PagePolicy.Regex

open Text (Reading Reader)

/-- Whether a character can start the name of a group, or stand in it. -/
def isGroupNameChar (first : Bool) (c : Char) : Bool :=
  c = '_' || Unicode.letters.contains c ||
    (!first && (c = '.' || c = '[' || c = ']' || Unicode.numerals.contains c))

def isGroupName : List Char → Bool
  | [] => false
  | c :: s => isGroupNameChar true c && s.all (isGroupNameChar false)

/-- What an opening parenthesis begins. -/
inductive GroupHead where
  /-- Settings for the rest of the group around it. -/
  | directive (mode : Mode)
  | group (mode : Mode) (name : Option (List Char))

def acceptNameSign : Reader Bool := do
  if ← .accept ['?', 'P', '<'] then return true
  else .accept ['?', '<']

/-- The start of a group, its parenthesis having been read. No name is given twice. -/
def groupHead (mode : Mode) (names : List (List Char)) : Reader GroupHead := do
  skipSpace mode
  if ← acceptNameSign then
    let name ← .run (· != '>')
    .expect '>'
    .require (isGroupName name && !names.contains name)
    return .group mode (some name)
  else if ← .accept ['?'] then
    let letters ← .run fun c => c != ':' && c != ')'
    let mode ← .ofOption (mode.apply letters)
    if ← .accept [':'] then return .group mode none
    else
      .expect ')'
      .require !letters.isEmpty
      return .directive mode
  else return .group mode none

def maxBound : Nat := 4294967295

/-- A bound of a loop, with blanks around it. -/
def bound (mode : Mode) : Reader Nat := do
  let _ ← .run Text.isBlank
  let digits ← runSpaced mode Char.isDigit
  let _ ← runSpaced mode Text.isBlank
  let n := digits.foldl (fun n c => 10 * n + (c.toNat - '0'.toNat)) 0
  .require (!digits.isEmpty && n ≤ maxBound)
  return n

/-- The bounds of a loop, their brace having been read. A question mark after them changes nothing
about whether there is a match. -/
def bounds (mode : Mode) : Reader (Nat × Option Nat) := do
  skipSpace mode
  let least ← bound mode
  let most ←
    if ← .accept [','] then
      skipSpace mode
      match ← .remaining with
      | '}' :: _ => pure none
      | _ => some <$> bound mode
    else pure (some least)
  .expect '}'
  .require (most.all (least ≤ ·))
  skipSpace mode
  let _ ← .accept ['?']
  return (least, most)

def loopSigns : List Char := ['?', '*', '+', '{']

def loopBounds (mode : Mode) : Char → Reader (Nat × Option Nat)
  | '{' => bounds mode
  | sign => do
    let _ ← .accept ['?']
    return match sign with
      | '?' => (0, some 1)
      | '*' => (0, none)
      | _ => (1, none)

/-- The regular expression for a primitive outside of brackets. -/
def ofPrimitive (mode : Mode) : Primitive → Option Regex
  | .character c => some (mode.character c)
  | .byte c => if mode.unicode || c.toNat < 0x80 then some (mode.character c) else none
  | .characterClass k => some (one k)
  | .assertion a => some (assert a)

/-- A regular expression that is no group and no loop, its first character having been read. -/
def single (mode : Mode) (c : Char) : Reader (Nested Regex) :=
  match c with
  | '[' => do
    let k ← bracket mode
    return ⟨one k.value, k.depth⟩
  | '.' => .ofOption (mode.dot.map .leaf)
  | '^' => pure (.leaf (assert mode.lineStart))
  | '$' => pure (.leaf (assert mode.lineEnd))
  | '\\' => do .ofOption ((ofPrimitive mode (← escape mode)).map .leaf)
  | _ => pure (.leaf (mode.character c))

/-- What has been read of an alternative, backwards. A part that is a directive matches nothing and
cannot be repeated. -/
abbrev Parts : Type :=
  List (Option (Nested Regex))

def joinParts (parts : Parts) : Nested Regex where
  value := parts.foldl (fun a part => seq (part.elim empty Nested.value) a) empty
  depth := rowDepth (parts.map (·.elim 0 Nested.depth))

def addAlternative (done : Option (Nested Regex)) (last : Nested Regex) : Nested Regex :=
  match done with
  | some a => ⟨alt a.value last.value, max a.depth last.depth⟩
  | none => last

/-- The alternatives before the last one, and that one, as one. Only several are nested deeper than
the deepest of them. -/
def joinAlternatives (done : Option (Nested Regex)) (parts : Parts) : Nested Regex :=
  let a := addAlternative done (joinParts parts)
  if done.isSome then ⟨a.value, a.depth + 1⟩ else a

/-- The next character after blanks and comments, and what follows it. -/
structure Step (s : List Char) where
  char : Char
  rest : List Char
  shorter : rest.length < s.length

def step (mode : Mode) (s : List Char) : Option (Step s) :=
  match h : dropSpace mode s with
  | [] => none
  | c :: rest => some ⟨c, rest, by
      have hs := length_dropSpace_le mode s
      rw [h, List.length_cons] at hs
      exact hs⟩

/-- A reading after which a closing parenthesis is next, with the parenthesis. -/
def dropParen {α : Type} {s : List Char} : Reading α s → Option (Reading α s)
  | ⟨a, ')' :: rest, h⟩ => some ⟨a, rest, Nat.le_of_succ_le h⟩
  | _ => none

/-- Reads to the end of a group or of the text: `done` are the alternatives before the present one
and `parts` what has been read of that. Returns all names given to groups so far. -/
def alternatives (mode : Mode) (names : List (List Char)) (done : Option (Nested Regex))
    (parts : Parts) (s : List Char) : Option (Reading (Nested Regex × List (List Char)) s) :=
  match step mode s with
  | none => some ⟨(joinAlternatives done parts, names), [], Nat.zero_le _⟩
  | some ⟨c, rest, hrest⟩ =>
    if c = ')' then some ⟨(joinAlternatives done parts, names), c :: rest, hrest⟩
    else if c = '|' then
      (alternatives mode names (some (addAlternative done (joinParts parts))) [] rest).map
        (.widen (Nat.le_of_lt hrest))
    else if c = '(' then
      match groupHead mode names rest with
      | none => none
      | some ⟨.directive mode', rest', h'⟩ =>
        have := Nat.lt_of_le_of_lt h' hrest
        (alternatives mode' names done (none :: parts) rest').map (.widen (Nat.le_of_lt this))
      | some ⟨.group mode' name, rest', h'⟩ =>
        have := Nat.lt_of_le_of_lt h' hrest
        match (alternatives mode' (name.toList ++ names) none [] rest').bind dropParen with
        | none => none
        | some ⟨(a, names'), rest'', h''⟩ =>
          have := Nat.lt_of_le_of_lt h'' this
          (alternatives mode names' done (some ⟨a.value, a.depth + 1⟩ :: parts) rest'').map
            (.widen (Nat.le_of_lt this))
    else if c ∈ loopSigns then
      match parts with
      | some a :: parts' =>
        match loopBounds mode c rest with
        | none => none
        | some ⟨(least, most), rest', h'⟩ =>
          have := Nat.lt_of_le_of_lt h' hrest
          (alternatives mode names done (some ⟨loop a.value least most, a.depth + 1⟩ :: parts')
            rest').map (.widen (Nat.le_of_lt this))
      | _ => none
    else
      match single mode c rest with
      | none => none
      | some ⟨a, rest', h'⟩ =>
        have := Nat.lt_of_le_of_lt h' hrest
        (alternatives mode names done (some a :: parts) rest').map (.widen (Nat.le_of_lt this))
  termination_by s.length
  decreasing_by all_goals assumption

/-- What a whole text writes, however deep it is nested. -/
def read (mode : Mode) (s : List Char) : Option (Nested Regex) :=
  match alternatives mode [] none [] s with
  | some ⟨(a, _), [], _⟩ => some a
  | _ => none

def nestLimit : Nat := 250

def parse (mode : Mode) (s : List Char) : Option Regex :=
  ((read mode s).filter (·.depth ≤ nestLimit)).map Nested.value

end PagePolicy.Regex
