import PagePolicy.Text.Search

/-! Internet addresses, of version 4 and version 6. -/

namespace PagePolicy.Host

def digitOf? (base : Nat) (c : Char) : Option Nat :=
  let d := if c.isDigit then c.toNat - 48
    else if 'a' ≤ c ∧ c ≤ 'f' then c.toNat - 87
    else if 'A' ≤ c ∧ c ≤ 'F' then c.toNat - 55
    else base
  if d < base then some d else none

/-- The number that digits write, from the first on. -/
def number? (base : Nat) (s : List Char) : Option Nat :=
  s.foldlM (fun n c => (digitOf? base c).map (base * n + ·)) 0

/-! ### Version 4 -/

/-- The number that a part of an address writes: hexadecimal after `0x`, octal after `0`. -/
def partNumber? : List Char → Option Nat
  | [] => none
  | '0' :: 'x' :: s | '0' :: 'X' :: s => number? 16 s
  | ['0'] => some 0
  | '0' :: s => number? 8 s
  | s => number? 10 s

/-- The parts of an address between its dots, one dot at the end being of no account. -/
def addressParts (s : List Char) : List (List Char) :=
  let parts := List.splitOn '.' s
  if parts.getLast? = some [] then parts.dropLast else parts

/-- Whether a host is meant as an address: its last part is a number. -/
def endsInNumber (s : List Char) : Bool :=
  match (addressParts s).getLast? with
  | none => false
  | some part =>
    !part.isEmpty && (part.all Char.isDigit || (partNumber? part).isSome)

/-- The address that a host is: up to four numbers, the last of which fills all bytes left. -/
def readV4 (s : List Char) : Option Nat := do
  let parts := addressParts s
  let numbers ← parts.mapM partNumber?
  let last ← numbers.getLast?
  let before := numbers.dropLast
  let unit := Nat.pow 256 (4 - before.length)
  if 4 < parts.length ∨ before.any (255 < ·) ∨ unit ≤ last then none
  else some (before.foldl (fun n part => 256 * n + part) 0 * unit + last)

def showV4 (address : Nat) : List Char :=
  ['.'].intercalate
    ([16777216, 65536, 256, 1].map fun unit => Nat.toDigits 10 (address / unit % 256))

/-! ### Version 6 -/

/-- The number that a part of an address of version 4 inside one of version 6 writes: decimal, at
most 255, without needless zeros. -/
def innerNumber? (s : List Char) : Option Nat := do
  let n ← number? 10 s
  if s.isEmpty ∨ 255 < n ∨ (s.head? = some '0' ∧ 1 < s.length) then none else some n

def innerPieces? (s : List Char) : Option (List Nat) := do
  match ← (List.splitOn '.' s).mapM innerNumber? with
  | [a, b, c, d] => some [a * 256 + b, c * 256 + d]
  | _ => none

/-- Reads pieces of an address: `pieces` are those before, and `gap` the number of pieces before the
end of the gap. -/
def readPieces (pieces : List Nat) (gap : Option Nat) (s : List Char) :
    Option (List Nat × Option Nat) :=
  if s = [] then some (pieces, gap)
  else if pieces.length = 8 then none
  else
    let digits := (s.take 4).takeWhile fun c => (digitOf? 16 c).isSome
    match h : s.drop digits.length with
    | [] => (number? 16 digits).map fun n => (pieces ++ [n], gap)
    | '.' :: _ =>
      if digits = [] ∨ 6 < pieces.length then none
      else (innerPieces? s).map fun inner => (pieces ++ inner, gap)
    | ':' :: rest =>
      have : rest.length < s.length := by
        have hd : (s.drop digits.length).length ≤ s.length := by
          rw [List.length_drop]; exact Nat.sub_le _ _
        rw [h] at hd
        exact hd
      if digits = [] then
        if gap.isSome then none
        else readPieces (pieces ++ [0]) (some (pieces.length + 1)) rest
      else if rest = [] then none
      else do readPieces (pieces ++ [← number? 16 digits]) gap rest
    | _ => none
  termination_by s.length

/-- The eight pieces of an address. The gap `::` stands for at least one piece of zero. -/
def readV6 (s : List Char) : Option (List Nat) := do
  let (pieces, gap) ← match s with
    | ':' :: ':' :: rest => readPieces [0] (some 1) rest
    | ':' :: _ | [] | [_] => none
    | _ => readPieces [] none s
  match gap with
  | some n => some (pieces.take n ++ List.replicate (8 - pieces.length) 0 ++ pieces.drop n)
  | none => if pieces.length = 8 then some pieces else none

def leadingZeros (pieces : List Nat) : Nat :=
  (pieces.takeWhile (· = 0)).length

/-- The place and length of the longest run of zeros, the first of its length. -/
def longestZeros (pieces : List Nat) : Nat × Nat :=
  (List.range pieces.length).foldl (fun best i =>
    let n := leadingZeros (pieces.drop i)
    if best.2 < n then (i, n) else best) (0, 0)

def showPieces (pieces : List Nat) : List Char :=
  [':'].intercalate (pieces.map (Nat.toDigits 16))

/-- The text of an address of version 6. A gap stands for the longest run of zeros. -/
def showV6 (pieces : List Nat) : List Char :=
  let (start, length) := longestZeros pieces
  if length < 2 then showPieces pieces
  else showPieces (pieces.take start) ++ [':', ':'] ++ showPieces (pieces.drop (start + length))

end PagePolicy.Host
