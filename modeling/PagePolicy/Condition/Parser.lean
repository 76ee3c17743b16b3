import PagePolicy.Condition.Basic
import PagePolicy.Condition.Lexer
import PagePolicy.Properties

/-! The reading of conditions. Alternatives `|` bind weaker than conjunctions `&`, both group to the left,
and the negation `!` binds strongest. -/

namespace PagePolicy.Condition

inductive Expectation where
  | condition
  | closingParen
  | comparison
  | quotedString
  | regex
  | regexAfterIdentifier
  deriving DecidableEq, Repr

def Expectation.describe : Expectation → String
  | condition => "a condition"
  | closingParen => "')'"
  | comparison => "a comparison operator"
  | quotedString => "a quoted string"
  | regex => "a regex literal"
  | regexAfterIdentifier => "a regex literal after identifier"

/-- Why a text writes no condition. Positions are offsets in bytes. -/
inductive ParseError where
  | empty
  | unexpected (position : Nat) (expected : Expectation) (found : String)
  | unclosedGroup (position : Nat)
  | trailingInput (position : Nat) (found : String)
  | unknownCharacter (position : Nat) (c : Char)
  deriving DecidableEq, Repr

def ParseError.message : ParseError → String
  | empty => "empty expression"
  | unexpected position expected found =>
    s!"expected {expected.describe} at offset {position}, found {found}"
  | unclosedGroup position => s!"unclosed '(' at offset {position}"
  | trailingInput position found =>
    s!"unexpected {found} at offset {position} after a complete expression"
  | unknownCharacter position c =>
    s!"unrecognized character {Text.quotedChar c} at offset {position}"

def unexpectedToken (position : Nat) (expected : Expectation) : Token → ParseError
  | .unknown c => .unknownCharacter position c
  | token => .unexpected position expected token.describe

/-- The error where the next token, or the end of input at the offset `finish`, is not the expected
one. -/
def unexpected (finish : Nat) (expected : Expectation) : List Lexeme → ParseError
  | [] => unexpectedToken finish expected .endOfInput
  | l :: _ => unexpectedToken l.start expected l.token

/-- A condition read from the start of some tokens, and the tokens after it. -/
structure Parsed (tokens : List Lexeme) where
  condition : Condition
  rest : List Lexeme
  shorter : rest.length < tokens.length

def parseRegex (finish : Nat) (expected : Expectation) (property : String) (first : Lexeme) :
    (rest : List Lexeme) → Except ParseError (Parsed (first :: rest))
  | ⟨.regex pattern flags, _, _⟩ :: rest =>
    .ok ⟨ofRegex property pattern flags, rest, Nat.lt_succ_of_lt (Nat.lt_succ_self _)⟩
  | rest => .error (unexpected finish expected rest)

def parseComparison (finish : Nat) (property : String) (op : CompareOp) (first : Lexeme) :
    (rest : List Lexeme) → Except ParseError (Parsed (first :: rest))
  | ⟨.text value, _, _⟩ :: rest =>
    .ok ⟨compare property op value, rest, Nat.lt_succ_of_lt (Nat.lt_succ_self _)⟩
  | rest => .error (unexpected finish .quotedString rest)

def closeGroup (first : Lexeme) {rest : List Lexeme} (group : Parsed rest) :
    Except ParseError (Parsed (first :: rest)) :=
  match _h : group.rest with
  | [] => .error (.unclosedGroup first.start)
  | close :: after =>
    if close.token = .rightParen then
      .ok ⟨group.condition, after, by
        have hshorter := group.shorter
        rw [_h, List.length_cons] at hshorter
        rw [List.length_cons]
        omega⟩
    else .error (unexpectedToken close.start .closingParen close.token)

inductive Connective where
  | or
  | and
  deriving DecidableEq, Repr

def Connective.token : Connective → Token
  | or => .or
  | and => .and

def Connective.join : Connective → Condition → Condition → Condition
  | or => Condition.or
  | and => Condition.and

/-- By how many steps a connective binds weaker than a negation. -/
def Connective.weakness : Connective → Nat
  | or => 2
  | and => 1

/-- A chain with one more condition, which stood after the connective. -/
def Parsed.join {tokens later : List Lexeme} {l : Lexeme} (k : Connective) (first : Parsed tokens)
    (h : first.rest = l :: later) (second : Parsed later) : Parsed tokens where
  condition := k.join first.condition second.condition
  rest := second.rest
  shorter := by
    have hfirst := first.shorter
    have hsecond := second.shorter
    rw [h, List.length_cons] at hfirst
    omega

mutual

/-- Conditions joined by a connective, of which there may be just one. -/
def parseChain (finish : Nat) (k : Connective) (tokens : List Lexeme) :
    Except ParseError (Parsed tokens) :=
  match parseOperand finish k tokens with
  | .error e => .error e
  | .ok first => parseMore finish k first
  termination_by 5 * tokens.length + 2 * k.weakness
  decreasing_by
    · cases k <;> simp [Connective.weakness]
    · have hshorter := first.shorter
      omega

def parseMore (finish : Nat) (k : Connective) {tokens : List Lexeme} (first : Parsed tokens) :
    Except ParseError (Parsed tokens) :=
  match h : first.rest with
  | [] => .ok first
  | l :: later =>
    if l.token = k.token then
      match parseOperand finish k later with
      | .error e => .error e
      | .ok second => parseMore finish k (first.join k h second)
    else .ok first
  termination_by 5 * first.rest.length
  decreasing_by
    · rw [h, List.length_cons]
      cases k <;> simp only [Connective.weakness] <;> omega
    · have hshorter : (first.join k h second).rest.length < later.length := second.shorter
      rw [h, List.length_cons]
      omega

def parseOperand (finish : Nat) (k : Connective) (tokens : List Lexeme) :
    Except ParseError (Parsed tokens) :=
  match k with
  | .or => parseChain finish .and tokens
  | .and => parseUnit finish tokens
  termination_by 5 * tokens.length + (2 * k.weakness - 1)
  decreasing_by
    · simp [Connective.weakness]
    · simp [Connective.weakness]

/-- A negation, a group in parentheses or a single test. A regular expression on its own tests the
URL. -/
def parseUnit (finish : Nat) (tokens : List Lexeme) : Except ParseError (Parsed tokens) :=
  match tokens with
  | [] => .error (unexpected finish .condition [])
  | l :: rest =>
    match l.token with
    | .not =>
      match parseUnit finish rest with
      | .error e => .error e
      | .ok a => .ok ⟨.not a.condition, a.rest, Nat.lt_succ_of_lt a.shorter⟩
    | .leftParen =>
      match parseChain finish .or rest with
      | .error e => .error e
      | .ok group => closeGroup l group
    | .operator property sign =>
      if sign = "=~" then parseRegex finish .regex property l rest
      else
        match CompareOp.parse sign with
        | none => .error (.unexpected l.start .comparison s!"`{sign}`")
        | some op => parseComparison finish property op l rest
    | .identifier property => parseRegex finish .regexAfterIdentifier property l rest
    | .regex pattern flags =>
      .ok ⟨ofRegex Properties.urlName pattern flags, rest, Nat.lt_succ_self _⟩
    | token => .error (unexpectedToken l.start .condition token)
  termination_by 5 * tokens.length
  decreasing_by
    · rw [List.length_cons]
      omega
    · rw [List.length_cons, Connective.weakness]
      omega

end

/-- The condition that tokens write, the end of input being at the offset `finish`. -/
def ofLexemes (finish : Nat) (tokens : List Lexeme) : Except ParseError Condition :=
  match parseChain finish .or tokens with
  | .error e => .error e
  | .ok a =>
    match a.rest with
    | [] => .ok a.condition
    | ⟨.unknown c, start, _⟩ :: _ => .error (.unknownCharacter start c)
    | ⟨token, start, _⟩ :: _ => .error (.trailingInput start token.describe)

def parse (text : String) : Except ParseError Condition :=
  match lexemes text.toList with
  | ([], _) => .error .empty
  | (tokens, finish) => ofLexemes finish tokens

end PagePolicy.Condition
