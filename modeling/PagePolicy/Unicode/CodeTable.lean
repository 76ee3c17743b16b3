import PagePolicy.Text.Search

/-! Tables over code points, written as text and searched by bisection. -/

namespace PagePolicy.Unicode

def hexDigit (c : Char) : Nat :=
  if c.isDigit then c.toNat - 48 else if 'a' ≤ c then c.toNat - 87 else c.toNat - 55

def hexNumber (digits : List Char) : Nat :=
  digits.foldl (fun n c => 16 * n + hexDigit c) 0

/-- The code points from `first` to `last` and the values they carry. -/
structure Entry where
  first : Nat
  last : Nat
  values : List Nat
  deriving DecidableEq, Repr, Inhabited

/-- The entry that a word writes: `41`, `41-5A`, `41-5A:61` or `C0:41,300`. -/
def Entry.ofWord (word : List Char) : Entry :=
  let fields := List.splitOn ':' word
  let values := match fields with
    | [_, values] => (List.splitOn ',' values).map hexNumber
    | _ => []
  match List.splitOn '-' (fields.headD []) with
  | [first, last] => ⟨hexNumber first, hexNumber last, values⟩
  | bounds => ⟨hexNumber (bounds.headD []), hexNumber (bounds.headD []), values⟩

/-- Entries that do not overlap, in ascending order. -/
structure CodeTable where
  entries : Array Entry
  deriving Inhabited

structure NamedTable where
  names : List String
  table : CodeTable

namespace CodeTable

/-- The words of a text, with spaces or line feeds between them. -/
def wordsOf (text : List Char) : List (List Char) :=
  ((List.splitOn '\n' text).flatMap (List.splitOn ' ')).filter (· ≠ [])

def ofText (text : String) : CodeTable :=
  ⟨((wordsOf text.toList).map Entry.ofWord).toArray⟩

/-- The table that the words of several texts write, each of them short enough for proofs to compute with. -/
def ofTexts (texts : List String) : CodeTable :=
  ⟨((texts.flatMap (wordsOf ·.toList)).map Entry.ofWord).toArray⟩

/-- The entry for a code point among those with an index from `low` to below `high`. -/
def findFrom (t : CodeTable) (code low high : Nat) : Option Entry :=
  if _ : low < high then
    let middle := (low + high) / 2
    match t.entries[middle]? with
    | none => none
    | some e =>
      if code < e.first then t.findFrom code low middle
      else if e.last < code then t.findFrom code (middle + 1) high
      else some e
  else none
  termination_by high - low

def find? (t : CodeTable) (code : Nat) : Option Entry :=
  t.findFrom code 0 t.entries.size

def contains (t : CodeTable) (c : Char) : Bool :=
  (t.find? c.toNat).isSome

/-- The values of a code point, where all code points of an entry share its values. -/
def values (t : CodeTable) (code : Nat) : List Nat :=
  ((t.find? code).map Entry.values).getD []

/-- The image of a code point, where the single value of an entry is the image of its first code
point and the images run on from there. -/
def image? (t : CodeTable) (code : Nat) : Option (List Nat) :=
  (t.find? code).map fun e => match e.values with
    | [target] => [target + (code - e.first)]
    | targets => targets

end CodeTable

end PagePolicy.Unicode
