import PagePolicy.Host.Punycode
import PagePolicy.Text.Blank
import PagePolicy.Unicode.Composition
import PagePolicy.Unicode.Direction
import PagePolicy.Unicode.HostMapping
import PagePolicy.Unicode.Joining

/-! Labels of domain names: the characters they may hold and their form in ASCII. -/

namespace PagePolicy.Host

def forbidden : List Char :=
  ['%', '#', '/', ':', '<', '>', '?', '@', '[', '\\', ']', '^', '|']

/-- Whether a label may hold a character. Capital letters have been replaced by then. -/
def isLabelChar (c : Char) : Bool :=
  if c.toNat < 0x80 then
    0x20 < c.toNat && c.toNat < 0x7F && !c.isUpper && c != '.' && !forbidden.contains c
  else Unicode.keptInHost.contains c

/-! ### Joiners -/

/-- The joiner that asks two letters to stand apart. -/
def nonJoiner : Char := '\u200C'

/-- The joiner that asks two letters to stand together. -/
def joiner : Char := '\u200D'

/-- The combining class of signs that take the vowel from a letter. -/
def viramaClass : Nat := 9

/-- Whether letters around a place would join there, `before` being given backwards. -/
def joinsAcross (before after : List Char) : Bool :=
  ((before.dropWhile Unicode.transparentToJoining.contains).head?.any fun c =>
    Unicode.leftJoining.contains c || Unicode.dualJoining.contains c) &&
  ((after.dropWhile Unicode.transparentToJoining.contains).head?.any fun c =>
    Unicode.rightJoining.contains c || Unicode.dualJoining.contains c)

/-- Whether every joiner stands where it makes a difference, `before` being given backwards. -/
def joinersApt (before : List Char) : List Char → Bool
  | [] => true
  | c :: s =>
    (if c = joiner ∨ c = nonJoiner then
        before.head?.any (fun d => Unicode.combiningClass d.toNat = viramaClass) ||
          (c = nonJoiner && joinsAcross before s)
      else true) &&
      joinersApt (c :: before) s

/-! ### Directions -/

inductive Direction where
  | left
  | right
  | arabicLetter
  | arabicNumber
  | europeanNumber
  | neutral
  | nonspacing
  | separator
  deriving DecidableEq, Repr

def direction (c : Char) : Direction :=
  if Unicode.rightToLeftTable.contains c then .right
  else if Unicode.arabicLetterTable.contains c then .arabicLetter
  else if Unicode.arabicNumberTable.contains c then .arabicNumber
  else if Unicode.europeanNumberTable.contains c then .europeanNumber
  else if Unicode.neutralTable.contains c then .neutral
  else if Unicode.nonspacingTable.contains c then .nonspacing
  else if Unicode.separatorTable.contains c then .separator
  else .left

def runsLeftward (label : List Char) : Bool :=
  label.any fun c =>
    0x80 ≤ c.toNat && [Direction.right, .arabicLetter, .arabicNumber].contains (direction c)

/-- Whether a label reads the same in a text of either direction. -/
def wellDirected (label : List Char) : Bool :=
  let all := label.map direction
  let last := ((all.reverse.dropWhile (· = .nonspacing)).head?).getD .separator
  match all with
  | [] => true
  | .left :: _ =>
    all.all ([.left, .europeanNumber, .neutral, .nonspacing].contains ·) &&
      [.left, .europeanNumber].contains last
  | .right :: _ | .arabicLetter :: _ =>
    all.all ([.right, .arabicLetter, .arabicNumber, .europeanNumber, .neutral,
        .nonspacing].contains ·) &&
      [.right, .arabicLetter, .arabicNumber, .europeanNumber].contains last &&
      !(all.contains .europeanNumber && all.contains .arabicNumber)
  | _ => false

/-! ### Labels -/

def maxLabelLength : Nat := 1000

/-- The greatest length of a label in ASCII that stands for one not in ASCII, its mark apart. -/
def maxEncodedLength : Nat := 2000

def fitLabel (label : List Char) : Bool :=
  label.length ≤ maxLabelLength && label.all isLabelChar &&
    !label.head?.any Unicode.marks.contains && joinersApt [] label

def decodeLabel (encoded : List Char) : Option (List Char) := do
  guard (encoded.length ≤ maxEncodedLength)
  let label ← Punycode.decode encoded
  if label.any (0x80 ≤ ·.toNat) && Unicode.normalize label = label && fitLabel label then
    some label
  else none

/-- A label as it is meant and as it is written in ASCII. -/
structure Label where
  text : List Char
  ascii : List Char
  deriving DecidableEq, Repr

def Label.ofText? (s : List Char) : Option Label :=
  match s with
  | 'x' :: 'n' :: '-' :: '-' :: encoded =>
    if s.all (·.toNat < 0x80) then (decodeLabel encoded).map (⟨·, s⟩) else none
  | _ =>
    if s.all (·.toNat < 0x80) then if s.all isLabelChar then some ⟨s, s⟩ else none
    else if fitLabel s then some ⟨s, ['x', 'n', '-', '-'] ++ Punycode.encode s⟩
    else none

end PagePolicy.Host
