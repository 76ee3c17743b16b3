import PagePolicy.Unicode.Decomposition

/-! Normalization Form C: canonical decomposition, ordering of marks, composition. -/

namespace PagePolicy.Unicode

/-! ### The least code points of the tables -/

def firstDecomposed : Nat := 0xC0
/-- The least code point that composes with one after it. -/
def firstComposing : Nat := 0x3C
/-- The least mark. No code point below it composes with one before it. -/
def firstMark : Nat := 0x300

def combiningClass (code : Nat) : Nat :=
  if code < firstMark then 0 else (combiningClassTable.values code).headD 0

/-! ### Hangul syllables, which are composed by calculation -/

def hangulBase : Nat := 0xAC00
def leadBase : Nat := 0x1100
def vowelBase : Nat := 0x1161
/-- The code point before the first trailing consonant. -/
def tailBase : Nat := 0x11A7

def hangulLetters? (code : Nat) : Option (List Nat) :=
  if hangulBase ≤ code ∧ code < hangulBase + 19 * 21 * 28 then
    let n := code - hangulBase
    let letters := [leadBase + n / 588, vowelBase + n % 588 / 28]
    some (if n % 28 = 0 then letters else letters ++ [tailBase + n % 28])
  else none

/-- The Hangul syllable that a syllable without a tail or a consonant makes with the next letter. -/
def hangulSyllable? (first second : Nat) : Option Nat :=
  if leadBase ≤ first ∧ first < leadBase + 19 ∧ vowelBase ≤ second ∧ second < vowelBase + 21 then
    some (hangulBase + (first - leadBase) * 588 + (second - vowelBase) * 28)
  else if (hangulLetters? first).any (·.length = 2) ∧
      tailBase < second ∧ second < tailBase + 28 then
    some (first + (second - tailBase))
  else none

/-! ### The three steps -/

def decompose (code : Nat) : List Nat :=
  if code < firstDecomposed then [code]
  else match hangulLetters? code with
    | some letters => letters
    | none =>
      match decompositionTable.find? code with
      | some e => e.values
      | none => [code]

/-- Puts a mark after code points given backwards, but before marks of higher class. -/
def insertMark (code : Nat) : List Nat → List Nat
  | [] => [code]
  | last :: before =>
    if combiningClass code ≠ 0 ∧ combiningClass code < combiningClass last then
      last :: insertMark code before
    else code :: last :: before

def orderMarks (codes : List Nat) : List Nat :=
  (codes.foldl (fun before code => insertMark code before) []).reverse

/-- The composition that a list of following code points and compositions gives for one. -/
def lookupPair (second : Nat) : List Nat → Option Nat
  | code :: composed :: rest => if code = second then some composed else lookupPair second rest
  | _ => none

def composePair? (first second : Nat) : Option Nat :=
  if first < firstComposing ∨ second < firstMark then none
  else hangulSyllable? first second <|> lookupPair second (compositionTable.values first)

/-- Composes code points that follow `starter` and the marks after it, given backwards, which do not
compose with it. A mark of the same class is in the way. -/
def composeAfter (starter : Nat) (marks : List Nat) : List Nat → List Nat
  | [] => starter :: marks.reverse
  | code :: rest =>
    let reachable := marks.head?.all fun mark => combiningClass mark < combiningClass code
    match if reachable then composePair? starter code else none with
    | some composed => composeAfter composed marks rest
    | none =>
      if combiningClass code = 0 then starter :: marks.reverse ++ composeAfter code [] rest
      else composeAfter starter (code :: marks) rest

/-- Composes code points, the marks before the first starter left alone. -/
def compose (codes : List Nat) : List Nat :=
  let isMark := fun code => combiningClass code != 0
  match codes.dropWhile isMark with
  | [] => codes
  | starter :: rest => codes.takeWhile isMark ++ composeAfter starter [] rest

/-- Normalization Form C of a text. ASCII characters stay as they are. -/
def normalize (s : List Char) : List Char :=
  if s.all (·.toNat < 0x80) then s
  else (compose (orderMarks (s.flatMap fun c => decompose c.toNat))).map Char.ofNat

end PagePolicy.Unicode
