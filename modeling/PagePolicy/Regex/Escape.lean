import PagePolicy.Regex.Mode
import PagePolicy.Regex.Property
import PagePolicy.Text.Blank
import PagePolicy.Text.Reader
import PagePolicy.Text.Search

/-! Blanks, comments and escapes in the text of a regular expression. -/

namespace PagePolicy.Regex

open Text (Reading Reader)

/-! ### Blanks and comments -/

def dropComments (inComment : Bool) : List Char → List Char
  | [] => []
  | c :: s =>
    if inComment then dropComments (c != '\n') s
    else if Text.isBlank c then dropComments false s
    else if c = '#' then dropComments true s
    else c :: s

private theorem length_dropComments_le (inComment : Bool) (s : List Char) :
    (dropComments inComment s).length ≤ s.length := by
  induction s generalizing inComment with
  | nil => exact Nat.le_refl _
  | cons c s ih =>
    rw [dropComments]
    split
    · exact Nat.le_succ_of_le (ih _)
    · split
      · exact Nat.le_succ_of_le (ih _)
      · split
        · exact Nat.le_succ_of_le (ih _)
        · exact Nat.le_refl _

/-- The text after blanks and comments, where they mean nothing. -/
def dropSpace (mode : Mode) (s : List Char) : List Char :=
  if mode.spaced then dropComments false s else s

theorem length_dropSpace_le (mode : Mode) (s : List Char) :
    (dropSpace mode s).length ≤ s.length := by
  rw [dropSpace]
  split
  · exact length_dropComments_le _ _
  · exact Nat.le_refl _

def skipSpace (mode : Mode) : Reader Unit := fun s =>
  some ⟨(), dropSpace mode s, length_dropSpace_le mode s⟩

/-- The first character that is neither a blank nor, for the first time, the sign of a comment. -/
def peekPastSpace (mode : Mode) (s : List Char) : Option Char :=
  if mode.spaced then
    match s.dropWhile Text.isBlank with
    | '#' :: rest => (rest.dropWhile Text.isBlank).head? <|> s.head?
    | rest => rest.head? <|> s.head?
  else s.head?

/-- The next character, after which blanks and comments are passed over. -/
def nextSpaced (mode : Mode) : Reader Char := do
  let c ← .next
  skipSpace mode
  return c

/-- The longest run of characters of a class, with blanks and comments after each passed over. -/
def runSpaced (mode : Mode) (p : Char → Bool) (s : List Char) : Option (Reading (List Char) s) :=
  match s with
  | [] => some ⟨[], [], Nat.le_refl _⟩
  | c :: s =>
    if p c then
      have hs := length_dropSpace_le mode s
      have : (dropSpace mode s).length < (c :: s).length := Nat.lt_succ_of_le hs
      (runSpaced mode p (dropSpace mode s)).map fun more =>
        ⟨c :: more.value, more.rest, Nat.le_trans more.length_le (Nat.le_succ_of_le hs)⟩
    else some ⟨[], c :: s, Nat.le_refl _⟩
  termination_by s.length
  decreasing_by exact this

/-! ### Escapes -/

/-- What an escape or a single character stands for. -/
inductive Primitive where
  | character (c : Char)
  /-- A byte in two hexadecimal digits: the same as a character only if both are of ASCII. -/
  | byte (c : Char)
  | characterClass (k : CharClass)
  | assertion (a : Assertion)

def isHexDigit (c : Char) : Bool :=
  c.isDigit || ('a' ≤ c && c ≤ 'f') || ('A' ≤ c && c ≤ 'F')

/-- The character whose code point a text writes in hexadecimal digits. -/
def characterOfHex? (digits : List Char) : Option Char :=
  let code := Unicode.hexNumber digits
  if !digits.isEmpty && code.isValidChar then some (Char.ofNat code) else none

def hexDigits (mode : Mode) : Nat → Reader (List Char)
  | 0 => pure []
  | n + 1 => do
    let c ← nextSpaced mode
    .require (isHexDigit c)
    return c :: (← hexDigits mode n)

/-- A code point in hexadecimal digits: so many of them, or any number in braces. -/
def codePoint (mode : Mode) (count : Nat) : Reader Primitive := do
  skipSpace mode
  if ← .accept ['{'] then
    skipSpace mode
    let digits ← runSpaced mode isHexDigit
    .expect '}'
    skipSpace mode
    return .character (← .ofOption (characterOfHex? digits))
  else
    let c ← .ofOption (characterOfHex? (← hexDigits mode count))
    return if count = 2 then .byte c else .character c

/-- The class that the text between braces names, and whether its complement is meant. -/
def propertyClass? (text : List Char) : Option (Bool × CharClass) :=
  match Text.splitAtFirst ['!', '='] text with
  | some (property, value) => (CharClass.ofValue? property value).map (true, ·)
  | none =>
    match Text.splitAtFirst [':'] text <|> Text.splitAtFirst ['='] text with
    | some (property, value) => (CharClass.ofValue? property value).map (false, ·)
    | none => (CharClass.ofName? text).map (false, ·)

/-- The name of a property: one letter, or a text in braces. -/
def propertyName (mode : Mode) : Reader (Bool × CharClass) := do
  skipSpace mode
  if ← .accept ['{'] then
    skipSpace mode
    let name ← runSpaced mode (· != '}')
    .expect '}'
    .ofOption (propertyClass? name)
  else
    let c ← nextSpaced mode
    .ofOption ((CharClass.ofName? [c]).map (false, ·))

def property (mode : Mode) (negated : Bool) : Reader Primitive := do
  let (opposite, k) ← propertyName mode
  .require mode.unicode
  return .characterClass (.signed (negated != opposite) (mode.folded k))

/-- A class that a letter stands for, or the complement of one. -/
def letterClass (mode : Mode) (negated : Bool) (k : CharClass) : Reader Primitive := do
  let k := CharClass.signed negated k
  .require (mode.admits k)
  return .characterClass k

def isEdgeLetter (c : Char) : Bool :=
  c.isAlpha || c = '-'

/-- Whether the name of an edge of a word is next, in braces, and not the bounds of a loop. -/
def startsEdgeName (mode : Mode) : List Char → Bool
  | '{' :: s => (dropSpace mode s).head?.all isEdgeLetter
  | _ => false

def edgeNamed? (name : List Char) : Option WordEdge :=
  match String.ofList name with
  | "start" => some .start
  | "end" => some .stop
  | "start-half" => some .startHalf
  | "end-half" => some .stopHalf
  | _ => none

/-- An edge of a word, with its name in braces or without one. -/
def wordEdge (mode : Mode) : Reader WordEdge := do
  if startsEdgeName mode (← .remaining) then
    .expect '{'
    skipSpace mode
    let name ← runSpaced mode isEdgeLetter
    .expect '}'
    .ofOption (edgeNamed? name)
  else return .boundary

/-- What an escape stands for, the backslash having been read. Characters of ASCII other than
letters, digits and angle brackets stand for themselves. -/
def escape (mode : Mode) : Reader Primitive := do
  let c ← .next
  match c with
  | 'x' => codePoint mode 2
  | 'u' => codePoint mode 4
  | 'U' => codePoint mode 8
  | 'p' => property mode false
  | 'P' => property mode true
  | 'd' => letterClass mode false mode.digits
  | 'D' => letterClass mode true mode.digits
  | 's' => letterClass mode false mode.blanks
  | 'S' => letterClass mode true mode.blanks
  | 'w' => letterClass mode false mode.wordCharacters
  | 'W' => letterClass mode true mode.wordCharacters
  | 'a' => return .character '\x07'
  | 'f' => return .character '\x0C'
  | 't' => return .character '\t'
  | 'n' => return .character '\n'
  | 'r' => return .character '\r'
  | 'v' => return .character '\x0B'
  | 'A' => return .assertion .textStart
  | 'z' => return .assertion .textEnd
  | 'b' => return .assertion (mode.word (← wordEdge mode))
  | 'B' => return .assertion (mode.word .interior)
  | '<' => return .assertion (mode.word .start)
  | '>' => return .assertion (mode.word .stop)
  | _ =>
    .require (c.toNat < 0x80 && !c.isAlphanum)
    return .character c

end PagePolicy.Regex
