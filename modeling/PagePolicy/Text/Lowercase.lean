import PagePolicy.Unicode.Letter

/-! Texts in lower case letters. -/

namespace PagePolicy.Text

/-- A character in lower case, where the characters around it do not matter. -/
def lowerChar (c : Char) : List Char :=
  if c.toNat < 0x80 then [c.toLower]
  else if c = '\u0130' then ['i', '\u0307']
  else match Unicode.lowercaseTable.image? c.toNat with
    | some codes => codes.map Char.ofNat
    | none => [c]

/-- Whether the first character that is not case-ignorable has case. -/
def startsCased (s : List Char) : Bool :=
  match s.dropWhile Unicode.caseIgnorable.contains with
  | c :: _ => Unicode.cased.contains c
  | [] => false

/-- The lower case of a text that follows `before`, given backwards. A capital sigma at the end of a
word becomes a final sigma. -/
def lowercaseAfter (before : List Char) : List Char → List Char
  | [] => []
  | c :: s =>
    let lower :=
      if c = 'Σ' then [if startsCased before && !startsCased s then 'ς' else 'σ'] else lowerChar c
    lower ++ lowercaseAfter (c :: before) s

def lowercase (s : List Char) : List Char :=
  lowercaseAfter [] s

end PagePolicy.Text
