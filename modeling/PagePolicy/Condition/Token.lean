import PagePolicy.Text.Quoted

/-! The tokens of conditions. -/

namespace PagePolicy.Condition

inductive Token where
  | leftParen
  | rightParen
  | not
  | and
  | or
  | identifier (name : String)
  /-- A text that stood in quotes. -/
  | text (value : String)
  /-- A regular expression that stood between slashes. -/
  | regex (pattern flags : String)
  /-- The name of a property and the sign of a comparison. -/
  | operator (property sign : String)
  /-- A character that begins no other token. -/
  | unknown (c : Char)
  | endOfInput
  deriving DecidableEq, Repr

def Token.describe : Token → String
  | leftParen => "'('"
  | rightParen => "')'"
  | not => "'!'"
  | and => "'&'"
  | or => "'|'"
  | identifier name => s!"identifier `{name}`"
  | text value => s!"string {Text.quoted value}"
  | regex pattern flags => s!"regex /{pattern}/{flags}"
  | operator property sign => s!"operator `{property}{sign}`"
  | unknown c => s!"character {Text.quotedChar c}"
  | endOfInput => "end of input"

/-- A token of a text, and the offsets in bytes at which it starts and stops. -/
structure Lexeme where
  token : Token
  start : Nat
  stop : Nat
  deriving DecidableEq, Repr

end PagePolicy.Condition
