/-! Flags of regular expressions. -/

namespace PagePolicy.Regex

inductive Flag where
  | ignoreCase
  | multiLine
  | dotAll
  | unicode
  | unicodeSets
  | global
  | sticky
  | indices
  deriving DecidableEq, Repr

def Flag.ofChar? : Char → Option Flag
  | 'i' => some .ignoreCase
  | 'm' => some .multiLine
  | 's' => some .dotAll
  | 'u' => some .unicode
  | 'v' => some .unicodeSets
  | 'g' => some .global
  | 'y' => some .sticky
  | 'd' => some .indices
  | _ => none

def Flag.bit : Flag → Nat
  | ignoreCase => 1
  | multiLine => 2
  | dotAll => 4
  | unicode => 8
  | unicodeSets => 16
  | global => 32
  | sticky => 64
  | indices => 128

/-- A set of flags, as the sum of their bits. -/
structure Flags where
  bits : Nat
  deriving DecidableEq, Repr

namespace Flags

def none : Flags := ⟨0⟩

def contains (flags : Flags) (f : Flag) : Bool :=
  flags.bits &&& f.bit != 0

def insert (flags : Flags) (f : Flag) : Flags :=
  ⟨flags.bits ||| f.bit⟩

inductive Error where
  | invalid (letter : Char)
  | duplicate (letter : Char)
  | conflicting
  deriving DecidableEq, Repr

def addLetters (flags : Flags) : List Char → Except Error Flags
  | [] => .ok flags
  | c :: s =>
    match Flag.ofChar? c with
    | Option.none => .error (.invalid c)
    | some f =>
      if flags.contains f then .error (.duplicate c) else (flags.insert f).addLetters s

/-- The set of flags that a text writes. The two Unicode flags exclude each other. -/
def parse (text : String) : Except Error Flags := do
  let flags ← Flags.none.addLetters text.toList
  if flags.contains .unicode && flags.contains .unicodeSets then .error .conflicting
  else .ok flags

end Flags

end PagePolicy.Regex
