/-! Punycode: code points written in the letters, digits and hyphens of ASCII. -/

namespace PagePolicy.Host.Punycode

def base : Nat := 36

/-- The least and the greatest threshold. -/
def leastThreshold : Nat := 1
def greatestThreshold : Nat := 26

def firstCode : Nat := 0x80

def maxNumber : Nat := 0xFFFFFFFF

def digitChar (d : Nat) : Char :=
  if d < 26 then Char.ofNat (97 + d) else Char.ofNat (22 + d)

def digit? (c : Char) : Option Nat :=
  if 'a' ≤ c ∧ c ≤ 'z' then some (c.toNat - 97)
  else if 'A' ≤ c ∧ c ≤ 'Z' then some (c.toNat - 65)
  else if '0' ≤ c ∧ c ≤ '9' then some (c.toNat - 22)
  else none

/-- The threshold at a position: a digit below it ends a number. -/
def threshold (bias position : Nat) : Nat :=
  if position ≤ bias + leastThreshold then leastThreshold
  else if bias + greatestThreshold ≤ position then greatestThreshold
  else position - bias

theorem threshold_pos (bias position : Nat) : 0 < threshold bias position := by
  unfold threshold leastThreshold greatestThreshold
  split
  · exact Nat.one_pos
  · split <;> omega

theorem threshold_lt_base (bias position : Nat) : threshold bias position < base := by
  unfold threshold leastThreshold greatestThreshold base
  split
  · omega
  · split <;> omega

/-- The positions by which a difference is too great for the thresholds, and what remains of it. -/
def scale (delta position : Nat) : Nat × Nat :=
  if 455 < delta then scale (delta / 35) (position + base) else (delta, position)
  termination_by delta

/-- The bias after a difference, when so many code points are in place. -/
def adapt (delta count : Nat) (isFirst : Bool) : Nat :=
  let delta := if isFirst then delta / 700 else delta / 2
  let (delta, position) := scale (delta + delta / count) 0
  position + base * delta / (delta + 38)

def firstBias : Nat := 72

/-! ### Writing -/

/-- A number as digits, the lowest first. -/
def writeNumber (bias position n : Nat) : List Char :=
  let t := threshold bias position
  if t ≤ n then
    digitChar (t + (n - t) % (base - t)) ::
      writeNumber bias (position + base) ((n - t) / (base - t))
  else [digitChar n]
  termination_by n
  decreasing_by
    have hpos := threshold_pos bias position
    have hdiv := Nat.div_le_self (n - threshold bias position) (base - threshold bias position)
    omega

/-- How far the writing of a text has come. -/
structure Progress where
  delta : Nat
  bias : Nat
  /-- The number of code points in place. -/
  count : Nat
  isFirst : Bool
  /-- The digits written, backwards. -/
  digits : List Char

/-- Writes the places of one code point among the code points of the text. -/
def writeCode (code : Nat) (p : Progress) (c : Nat) : Progress :=
  if c < code then { p with delta := p.delta + 1 }
  else if c = code then
    { delta := 0
      bias := adapt p.delta (p.count + 1) p.isFirst
      count := p.count + 1
      isFirst := false
      digits := (writeNumber p.bias base p.delta).reverse ++ p.digits }
  else p

/-- Writes the places of all code points of an ascending list, of which `code` is the first that
could come next. -/
def writeCodes (codes : List Nat) (code : Nat) (p : Progress) : List Nat → List Char
  | [] => p.digits.reverse
  | next :: rest =>
    let p := { p with delta := p.delta + (next - code) * (p.count + 1) }
    let p := codes.foldl (writeCode next) p
    writeCodes codes (next + 1) { p with delta := p.delta + 1 } rest

def encode (s : List Char) : List Char :=
  let codes := s.map Char.toNat
  let basic := s.filter fun c => c.toNat < firstCode
  let others := ((codes.filter fun c => firstCode ≤ c).mergeSort (· ≤ ·)).eraseDups
  let start := if basic.isEmpty then [] else basic ++ ['-']
  start ++ writeCodes codes firstCode ⟨0, firstBias, basic.length, true, []⟩ others

/-! ### Reading -/

/-- Adds the number at the start of a text to `n`, the weight of its first digit being `weight`. -/
def readNumber (bias position weight n : Nat) : List Char → Option (Nat × List Char)
  | [] => none
  | c :: s =>
    match digit? c with
    | none => none
    | some d =>
      if maxNumber < weight ∨ maxNumber < n + d * weight then none
      else if d < threshold bias position then some (n + d * weight, s)
      else
        readNumber bias (position + base) (weight * (base - threshold bias position))
          (n + d * weight) s

private theorem length_of_readNumber {bias position weight n : Nat} {s : List Char} {r : Nat × List Char}
    (h : readNumber bias position weight n s = some r) : r.2.length < s.length := by
  induction s generalizing position weight n with
  | nil => simp [readNumber] at h
  | cons c s ih =>
    rw [readNumber] at h
    split at h
    · cases h
    · split at h
      · cases h
      · split at h
        · cases h
          exact Nat.lt_succ_self _
        · exact Nat.lt_succ_of_lt (ih h)

/-- Reads the places of code points not yet in place: the next is `code` or above, at `place` or
later. -/
def readCodes (code place bias : Nat) (codes : List Nat) (s : List Char) : Option (List Nat) :=
  if s = [] then some codes
  else
    match _h : readNumber bias base 1 place s with
    | none => none
    | some (n, rest) =>
      let count := codes.length + 1
      let code := code + n / count
      if code.isValidChar then
        readCodes code (n % count + 1) (adapt (n - place) count (place = 0))
          (codes.insertIdx (n % count) code) rest
      else none
  termination_by s.length
  decreasing_by exact length_of_readNumber _h

def decode (s : List Char) : Option (List Char) :=
  let digits := (s.reverse.takeWhile (· ≠ '-')).reverse
  let basic := s.take (s.length - digits.length - 1)
  let digits := if basic.isEmpty then s else digits
  if basic.all (·.toNat < firstCode) then
    (readCodes firstCode 0 firstBias (basic.map Char.toNat) digits).map (·.map Char.ofNat)
  else none

end PagePolicy.Host.Punycode
