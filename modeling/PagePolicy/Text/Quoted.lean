import PagePolicy.Unicode.Visible

/-! Texts and characters in quotes, as messages show them. -/

namespace PagePolicy.Text

/-- Characters that leave a mark of their own: no controls, separators or unassigned ones. -/
def isVisible (c : Char) : Bool :=
  if c.toNat < 0x7F then 0x20 ≤ c.toNat else Unicode.visible.contains c

/-- The code point of a character in braces, in hexadecimal digits. -/
def codeEscape (c : Char) : String :=
  "\\u\x7b" ++ String.ofList (Nat.toDigits 16 c.toNat) ++ "\x7d"

/-- A character inside the quotes `quote`. -/
def quoteChar (quote c : Char) : String :=
  if c = quote ∨ c = '\\' then String.ofList ['\\', c]
  else if c = '\x00' then "\\0"
  else if c = '\t' then "\\t"
  else if c = '\n' then "\\n"
  else if c = '\r' then "\\r"
  else if isVisible c then String.singleton c
  else codeEscape c

def quoted (s : String) : String :=
  "\"" ++ String.join (s.toList.map (quoteChar '"')) ++ "\""

def quotedChar (c : Char) : String :=
  "'" ++ quoteChar '\'' c ++ "'"

end PagePolicy.Text
