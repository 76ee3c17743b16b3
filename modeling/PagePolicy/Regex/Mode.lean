import PagePolicy.Regex.Basic

/-! The settings under which the text of a regular expression is read. -/

namespace PagePolicy.Regex

/-- How the text of a regular expression is read. -/
structure Mode where
  ignoreCase : Bool := false
  multiLine : Bool := false
  dotAll : Bool := false
  /-- Characters are those of Unicode, not those of ASCII alone. -/
  unicode : Bool := true
  /-- A carriage return and a line feed in a row end one line. -/
  returnEndsLine : Bool := false
  /-- Blanks mean nothing, and comments run from `#` to the end of the line. -/
  spaced : Bool := false
  deriving DecidableEq, Repr

namespace Mode

/-- Switches the setting that a letter names on or off. Loops are as greedy as they like: only
whether there is a match is asked. -/
def set (mode : Mode) (on : Bool) : Char → Option Mode
  | 'i' => some { mode with ignoreCase := on }
  | 'm' => some { mode with multiLine := on }
  | 's' => some { mode with dotAll := on }
  | 'u' => some { mode with unicode := on }
  | 'R' => some { mode with returnEndsLine := on }
  | 'x' => some { mode with spaced := on }
  | 'U' => some mode
  | _ => none

/-- The settings after a directive such as `is-x`: letters before the sign are switched on, letters
after it off, and none occurs twice. -/
def apply (mode : Mode) (directive : List Char) : Option Mode :=
  let on := directive.takeWhile (· != '-')
  let off := directive.drop on.length
  if off = ['-'] ∨ ¬directive.Nodup then none
  else do off.tail.foldlM (set · false) (← on.foldlM (set · true) mode)

/-- A class as it is meant, regardless of case or not. -/
def folded (mode : Mode) (k : CharClass) : CharClass :=
  if mode.ignoreCase then if mode.unicode then .anyCase k else .anyAsciiCase k else k

/-- Whether a class may be used: where characters are those of ASCII alone, it holds no other. -/
def admits (mode : Mode) (k : CharClass) : Bool :=
  mode.unicode || (List.range 0x80).all fun n => !k.contains (Char.ofNat (0x80 + n))

def character (mode : Mode) (c : Char) : Regex :=
  one (mode.folded (.single c))

def dot (mode : Mode) : Option Regex :=
  if !mode.unicode then none
  else if mode.dotAll then some (one .all)
  else if mode.returnEndsLine then some (one (.allBut ['\r', '\n']))
  else some (one (.allBut ['\n']))

def lineStart (mode : Mode) : Assertion :=
  if !mode.multiLine then .textStart
  else if mode.returnEndsLine then .returnedLineStart
  else .lineStart

def lineEnd (mode : Mode) : Assertion :=
  if !mode.multiLine then .textEnd
  else if mode.returnEndsLine then .returnedLineEnd
  else .lineEnd

def word (mode : Mode) (edge : WordEdge) : Assertion :=
  if mode.unicode then .word edge else .asciiWord edge

def digits (mode : Mode) : CharClass :=
  if mode.unicode then .digits else .asciiDigits

def blanks (mode : Mode) : CharClass :=
  if mode.unicode then .blanks else .asciiBlanks

def wordCharacters (mode : Mode) : CharClass :=
  if mode.unicode then .wordCharacters else .asciiWordCharacters

end Mode

end PagePolicy.Regex
