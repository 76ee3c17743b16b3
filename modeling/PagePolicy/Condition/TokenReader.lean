import PagePolicy.Condition.Lexer

/-! Reading tokens one after another, with the way back to places left earlier. -/

namespace PagePolicy.Condition

/-- A text, the offset at which the next token is read, and offsets to go back to. -/
structure TokenReader where
  text : String
  cursor : Nat
  saved : List Nat

namespace TokenReader

def ofText (text : String) : TokenReader :=
  ⟨text, 0, []⟩

inductive Step where
  | next
  | save
  | restore
  | moveTo (offset : Nat)

def peek (r : TokenReader) : Lexeme :=
  lexemeAt r.text r.cursor

/-- The reader after a step. Without a saved offset, it goes back to the start. -/
def after (r : TokenReader) : Step → TokenReader
  | .next => { r with cursor := r.peek.stop }
  | .save => { r with saved := r.cursor :: r.saved }
  | .restore => { r with cursor := r.saved.headD 0, saved := r.saved.tail }
  | .moveTo offset => { r with cursor := offset }

/-- The text that is still to be read, if a character starts at the cursor or the text ends there. -/
def remaining (r : TokenReader) : Option String :=
  (Text.dropBytes? r.text.toList r.cursor).map String.ofList

end TokenReader

/-- The tokens from an offset of a text on, and the end of input after them. -/
def lexemesAt (text : String) (offset : Nat) : List Lexeme :=
  match Text.dropBytes? text.toList offset with
  | none => [⟨.endOfInput, offset, offset⟩]
  | some s =>
    let (lexemes, finish) := lexemesFrom offset s
    lexemes ++ [⟨.endOfInput, finish, finish⟩]

end PagePolicy.Condition
