import PagePolicy.Unicode.Case
import PagePolicy.Unicode.Category
import PagePolicy.Unicode.Property

/-! Classes of characters. -/

namespace PagePolicy

/-- A class of characters, given by ranges, tables and the operations of sets. -/
inductive CharClass where
  | ranges (bounds : List (Char × Char))
  | table (t : Unicode.CodeTable)
  | union (a b : CharClass)
  | inter (a b : CharClass)
  | diff (a b : CharClass)
  | symmDiff (a b : CharClass)
  | complement (a : CharClass)
  | anyCase (a : CharClass)
  | anyAsciiCase (a : CharClass)

namespace CharClass

def caseVariants (c : Char) : List Char :=
  c :: ((Unicode.caseTable.image? c.toNat).getD []).map Char.ofNat

/-- An ASCII letter in both cases, any other character alone. -/
def asciiCaseVariants (c : Char) : List Char :=
  [c.toLower, c.toUpper]

def contains : CharClass → Char → Bool
  | ranges bounds, c => bounds.any fun (first, last) => first ≤ c && c ≤ last
  | table t, c => t.contains c
  | union a b, c => a.contains c || b.contains c
  | inter a b, c => a.contains c && b.contains c
  | diff a b, c => a.contains c && !b.contains c
  | symmDiff a b, c => a.contains c != b.contains c
  | complement a, c => !a.contains c
  | anyCase a, c => (caseVariants c).any a.contains
  | anyAsciiCase a, c => (asciiCaseVariants c).any a.contains

def none : CharClass := ranges []

def single (c : Char) : CharClass := ranges [(c, c)]

def all : CharClass := complement none

def allBut (excluded : List Char) : CharClass :=
  complement (ranges (excluded.map fun c => (c, c)))

/-- A class or, if so wanted, its complement. -/
def signed (negated : Bool) (k : CharClass) : CharClass :=
  if negated then complement k else k

theorem contains_single {c d : Char} : (single c).contains d = true ↔ d = c := by
  simp only [single, contains, List.any_cons, List.any_nil, Bool.or_false, Bool.and_eq_true,
    decide_eq_true_eq]
  exact ⟨fun h => Char.le_antisymm h.2 h.1, by rintro rfl; exact ⟨Char.le_refl _, Char.le_refl _⟩⟩

def digits : CharClass := table Unicode.Category.decimalNumberTable

def blanks : CharClass :=
  ranges [('\t', '\r'), (' ', ' '), ('\u0085', '\u0085'), ('\u00A0', '\u00A0'),
    ('\u1680', '\u1680'), ('\u2000', '\u200A'), ('\u2028', '\u2029'), ('\u202F', '\u202F'),
    ('\u205F', '\u205F'), ('\u3000', '\u3000')]

/-- The characters of words: letters, marks, digits, connectors and join controls. -/
def wordCharacters : CharClass :=
  [Unicode.Category.nonspacingMarkTable, Unicode.Category.spacingMarkTable,
    Unicode.Category.enclosingMarkTable, Unicode.Category.decimalNumberTable,
    Unicode.Category.connectorPunctuationTable, Unicode.joinControl].foldl
    (fun k t => union k (table t)) (table Unicode.alphabetic)

def asciiDigits : CharClass := ranges [('0', '9')]

def asciiBlanks : CharClass := ranges [('\t', '\r'), (' ', ' ')]

def asciiWordCharacters : CharClass := ranges [('0', '9'), ('A', 'Z'), ('_', '_'), ('a', 'z')]

def named : List (String × CharClass) :=
  [("alnum", ranges [('0', '9'), ('A', 'Z'), ('a', 'z')]),
   ("alpha", ranges [('A', 'Z'), ('a', 'z')]),
   ("ascii", ranges [('\x00', '\x7F')]),
   ("blank", ranges [('\t', '\t'), (' ', ' ')]),
   ("cntrl", ranges [('\x00', '\x1F'), ('\x7F', '\x7F')]),
   ("digit", asciiDigits),
   ("graph", ranges [('!', '~')]),
   ("lower", ranges [('a', 'z')]),
   ("print", ranges [(' ', '~')]),
   ("punct", ranges [('!', '/'), (':', '@'), ('[', '\x60'), ('\x7B', '~')]),
   ("space", asciiBlanks),
   ("upper", ranges [('A', 'Z')]),
   ("word", asciiWordCharacters),
   ("xdigit", ranges [('0', '9'), ('A', 'F'), ('a', 'f')])]

end CharClass

end PagePolicy
