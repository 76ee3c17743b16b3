import PagePolicy.Condition.Token
import PagePolicy.Text.Blank
import PagePolicy.Text.Bytes

/-! The reading of texts as tokens. -/

namespace PagePolicy.Condition

open Text

/-- The start of a text up to a closing character, and the rest from there on. A backslash keeps the
character after it from closing. Without a closing character there is no rest. -/
def splitClosed (close : Char) : List Char → List Char × List Char
  | [] => ([], [])
  | '\\' :: c :: s =>
    let (body, rest) := splitClosed close s
    ('\\' :: c :: body, rest)
  | c :: s =>
    if c = close then ([], c :: s)
    else
      let (body, rest) := splitClosed close s
      (c :: body, rest)

theorem splitClosed_append (close : Char) (s : List Char) :
    (splitClosed close s).1 ++ (splitClosed close s).2 = s := by
  fun_induction splitClosed close s <;> simp_all

/-- A text without the backslashes that escape the characters after them. -/
def unescape : List Char → List Char
  | [] => []
  | ['\\'] => []
  | '\\' :: c :: s => c :: unescape s
  | c :: s => c :: unescape s

def isFlag (c : Char) : Bool :=
  c = 'i' || c = 'm' || c = 's' || c = 'u'

def isNameStart (c : Char) : Bool :=
  c.isAlpha || c = '_' || c = '$'

def isNamePart (c : Char) : Bool :=
  c.isAlphanum || c = '_'

/-- What was read at the start of a text: a token, the characters it was written in, and the rest. -/
structure Scan where
  token : Token
  source : List Char
  rest : List Char

/-- The text in quotes whose first quote has been read. -/
def scanText (quote : Char) (s : List Char) : Scan :=
  let (body, rest) := splitClosed quote s
  let token := Token.text (String.ofList (unescape body))
  match rest with
  | [] => ⟨token, quote :: body, []⟩
  | close :: rest => ⟨token, quote :: (body ++ [close]), rest⟩

/-- The regular expression whose first slash has been read, with its flags. -/
def scanRegex (s : List Char) : Scan :=
  let (body, rest) := splitClosed '/' s
  match rest with
  | [] => ⟨.regex (String.ofList body) "", '/' :: body, []⟩
  | close :: rest =>
    ⟨.regex (String.ofList body) (String.ofList (rest.takeWhile isFlag)),
      '/' :: (body ++ close :: rest.takeWhile isFlag), rest.dropWhile isFlag⟩

/-- Moves one of the given letters, if it is next, to the end of a sign. -/
def splitSuffix (letters sign : List Char) : List Char → List Char × List Char
  | [] => (sign, [])
  | c :: s => if c ∈ letters then (sign ++ [c], s) else (sign, c :: s)

/-- The sign of a comparison at the start of a text, or nothing, and the rest. -/
def splitSign : List Char → List Char × List Char
  | '=' :: s => splitSuffix ['~', 'i', 'I'] ['='] s
  | '^' :: '=' :: s => splitSuffix ['i', 'I'] ['^', '='] s
  | '$' :: '=' :: s => splitSuffix ['i', 'I'] ['$', '='] s
  | '*' :: '=' :: s => splitSuffix ['i', 'I'] ['*', '='] s
  | s => ([], s)

/-- The name with the given first character, and the sign of a comparison if one follows. Blanks after
the name belong to the token. -/
def scanName (first : Char) (s : List Char) : Scan :=
  let name := first :: s.takeWhile isNamePart
  let afterName := s.dropWhile isNamePart
  let blanks := afterName.takeWhile isBlank
  let (sign, rest) := splitSign (afterName.dropWhile isBlank)
  let token :=
    if sign = [] then Token.identifier (String.ofList name)
    else Token.operator (String.ofList name) (String.ofList sign)
  ⟨token, name ++ blanks ++ sign, rest⟩

/-- The token at the start of a text that does not start with a blank. -/
def scan : List Char → Scan
  | [] => ⟨.endOfInput, [], []⟩
  | c :: s =>
    if c = '(' then ⟨.leftParen, [c], s⟩
    else if c = ')' then ⟨.rightParen, [c], s⟩
    else if c = '!' then ⟨.not, [c], s⟩
    else if c = '&' then ⟨.and, [c], s⟩
    else if c = '|' then ⟨.or, [c], s⟩
    else if c = '"' ∨ c = '\'' then scanText c s
    else if c = '/' then scanRegex s
    else if isNameStart c then scanName c s
    else ⟨.unknown c, [c], s⟩

/-- The token after the blanks at the start of a text that begins at an offset, and the rest. -/
def nextLexeme (offset : Nat) (s : List Char) : Lexeme × List Char :=
  let start := offset + byteLength (s.takeWhile isBlank)
  let found := scan (s.dropWhile isBlank)
  (⟨found.token, start, start + byteLength found.source⟩, found.rest)

/-- The token at or after an offset of a text. There is none, and the end of input stands there, if no
character starts at the offset. -/
def lexemeAt (text : String) (offset : Nat) : Lexeme :=
  match dropBytes? text.toList offset with
  | none => ⟨.endOfInput, offset, offset⟩
  | some s => (nextLexeme offset s).1

/-! ### No character is lost -/

private theorem splitSuffix_append (letters sign s : List Char) :
    (splitSuffix letters sign s).1 ++ (splitSuffix letters sign s).2 = sign ++ s := by
  fun_cases splitSuffix letters sign s <;> simp_all

private theorem splitSign_append (s : List Char) : (splitSign s).1 ++ (splitSign s).2 = s := by
  fun_cases splitSign s <;> simp [splitSuffix_append]

private theorem scanText_source (quote : Char) (s : List Char) :
    (scanText quote s).source ++ (scanText quote s).rest = quote :: s := by
  have h := splitClosed_append quote s
  fun_cases scanText quote s <;> simp_all

private theorem scanRegex_source (s : List Char) :
    (scanRegex s).source ++ (scanRegex s).rest = '/' :: s := by
  have h := splitClosed_append '/' s
  fun_cases scanRegex s <;> simp_all

private theorem scanName_source (first : Char) (s : List Char) :
    (scanName first s).source ++ (scanName first s).rest = first :: s := by
  simp only [scanName, List.append_assoc, splitSign_append, List.takeWhile_append_dropWhile,
    List.cons_append]

/-- A token and the rest make up the text. -/
theorem scan_source (s : List Char) : (scan s).source ++ (scan s).rest = s := by
  fun_cases scan s <;>
    simp_all [scanText_source, scanRegex_source, scanName_source]

theorem scan_source_ne_nil {s : List Char} (h : s ≠ []) : (scan s).source ≠ [] := by
  fun_cases scan s with
  | case1 => exact absurd rfl h
  | case7 c s => fun_cases scanText c s <;> exact List.cons_ne_nil _ _
  | case8 s => fun_cases scanRegex s <;> exact List.cons_ne_nil _ _
  | _ => exact List.cons_ne_nil _ _

theorem length_scan_rest {s : List Char} (h : s ≠ []) : (scan s).rest.length < s.length := by
  have hs := congrArg List.length (scan_source s)
  have := List.length_pos_iff.2 (scan_source_ne_nil h)
  rw [List.length_append] at hs
  omega

/-- Only nothing but blanks is the end of input. -/
theorem length_nextLexeme_rest {offset : Nat} {s : List Char}
    (h : (nextLexeme offset s).1.token ≠ .endOfInput) : (nextLexeme offset s).2.length < s.length := by
  have hs : s.dropWhile isBlank ≠ [] := by
    intro hs
    exact h (by simp [nextLexeme, hs, scan])
  exact Nat.lt_of_lt_of_le (length_scan_rest hs) (List.dropWhile_suffix _).length_le

/-- The tokens of a text that begins at an offset, and the offset of the end of input. -/
def lexemesFrom (offset : Nat) (s : List Char) : List Lexeme × Nat :=
  let found := nextLexeme offset s
  if _h : found.1.token = .endOfInput then ([], found.1.start)
  else
    let (lexemes, finish) := lexemesFrom found.1.stop found.2
    (found.1 :: lexemes, finish)
  termination_by s.length
  decreasing_by exact length_nextLexeme_rest _h

/-- The tokens of a text, and the offset of the end of input. -/
def lexemes (s : List Char) : List Lexeme × Nat :=
  lexemesFrom 0 s

end PagePolicy.Condition
