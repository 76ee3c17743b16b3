import PagePolicy.Regex.Basic

/-! The search for a regular expression in a text, for all places of the text at once. -/

namespace PagePolicy.Regex

/-- The places of a text at which a condition on the characters around them holds, as a set of bits:
bit `i` is the place before the character with index `i`. -/
def placesWhere (p : Option Char → Option Char → Bool) (before : Option Char) :
    List Char → Nat
  | [] => (p before none).toNat
  | c :: s => (p before (some c)).toNat + 2 * placesWhere p (some c) s

/-- How a regular expression leads from place to place in a text. -/
inductive Moves where
  | stay (places : Nat)
  | advance (places : Nat)
  | seq (a b : Moves)
  | alt (a b : Moves)
  /-- At least `least` rounds and at most `extra` more. -/
  | loop (a : Moves) (least extra : Nat)

/-- Applies a function a number of times, but stops where it changes nothing. -/
def repeatUntilSteady (f : Nat → Nat) : Nat → Nat → Nat
  | 0, places => places
  | n + 1, places =>
    let next := f places
    if next = places then places else repeatUntilSteady f n next

def Moves.run : Moves → Nat → Nat
  | stay allowed, places => places &&& allowed
  | advance allowed, places => (places &&& allowed) <<< 1
  | seq a b, places => b.run (a.run places)
  | alt a b, places => a.run places ||| b.run places
  | loop a least extra, places =>
    repeatUntilSteady (fun reached => reached ||| a.run reached) extra
      (repeatUntilSteady (fun reached => a.run reached) least places)

def allPlaces (s : List Char) : Nat :=
  placesWhere (fun _ _ => true) none s

/-- The moves of a regular expression in a text. As many rounds of a loop as there are places reach
whatever more rounds reach. -/
def moves (s : List Char) : Regex → Moves
  | empty => .stay (allPlaces s)
  | one k => .advance (placesWhere (fun _ after => after.any k.contains) none s)
  | assert a => .stay (placesWhere (fun before after => a.holds before after) none s)
  | seq a b => .seq (a.moves s) (b.moves s)
  | alt a b => .alt (a.moves s) (b.moves s)
  | loop a least most =>
    .loop (a.moves s) least ((most.map (· - least)).getD (s.length + 1))

def occursIn (a : Regex) (s : List Char) : Bool :=
  (a.moves s).run (allPlaces s) != 0

end PagePolicy.Regex
