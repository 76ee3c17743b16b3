/-! Readers of texts from left to right. A reader never lengthens the text it reads. -/

namespace PagePolicy.Text

/-- What a reader made of the start of a text, and the rest of that text. -/
structure Reading (α : Type) (s : List Char) where
  value : α
  rest : List Char
  length_le : rest.length ≤ s.length

/-- A reading of the rest of a text is a reading of the text. -/
def Reading.widen {α : Type} {s t : List Char} (h : t.length ≤ s.length) (a : Reading α t) :
    Reading α s :=
  ⟨a.value, a.rest, Nat.le_trans a.length_le h⟩

/-- Readers of the start of a text, which fail where it is not what they expect. -/
def Reader (α : Type) : Type :=
  (s : List Char) → Option (Reading α s)

namespace Reader

instance : Monad Reader where
  pure a := fun s => some ⟨a, s, Nat.le_refl _⟩
  bind p f := fun s =>
    (p s).bind fun a => (f a.value a.rest).map (Reading.widen a.length_le)

def fail {α : Type} : Reader α := fun _ => none

/-- Takes the value there is, and fails if there is none. -/
def ofOption {α : Type} : Option α → Reader α
  | some a => pure a
  | none => fail

/-- Fails unless a condition holds. -/
def require (condition : Bool) : Reader Unit :=
  if condition then pure () else fail

def remaining : Reader (List Char) := fun s => some ⟨s, s, Nat.le_refl _⟩

def next : Reader Char
  | [] => none
  | c :: s => some ⟨c, s, Nat.le_succ _⟩

/-- The longest run of characters of a class. -/
def run (p : Char → Bool) : Reader (List Char) := fun s =>
  some ⟨s.takeWhile p, s.dropWhile p, (List.dropWhile_suffix p).length_le⟩

/-- Passes over a text if it is next, and tells whether it was. -/
def accept (text : List Char) : Reader Bool := fun s =>
  if text.isPrefixOf s then some ⟨true, s.drop text.length, by simp⟩
  else some ⟨false, s, Nat.le_refl _⟩

/-- Passes over a character, which must be next. -/
def expect (c : Char) : Reader Unit := do
  let d ← next
  require (c = d)

end Reader

end PagePolicy.Text
