import PagePolicy.Condition.TokenReader

/-! The tokens of a text as one list. Reading tokens one after another from byte offset to byte offset
gives the same list, and what a token holds has the form that its kind asks for. -/

namespace PagePolicy.Condition

open Text

def tokens (s : List Char) : List Token :=
  (lexemesFrom 0 s).1.map Lexeme.token

/-! ### What a scan gives -/

theorem scanText_token (quote : Char) (s : List Char) :
    (scanText quote s).token = .text (String.ofList (unescape (splitClosed quote s).1)) := by
  fun_cases scanText quote s with
  | _ => simp_all only; rfl

theorem scanText_rest (quote : Char) (s : List Char) :
    (scanText quote s).rest = (splitClosed quote s).2.tail := by
  fun_cases scanText quote s with
  | _ => simp_all only; rfl

theorem scanRegex_token (s : List Char) :
    (scanRegex s).token = .regex (String.ofList (splitClosed '/' s).1)
      (String.ofList ((splitClosed '/' s).2.tail.takeWhile isFlag)) := by
  fun_cases scanRegex s with
  | _ => simp_all only; rfl

theorem scanRegex_rest (s : List Char) :
    (scanRegex s).rest = (splitClosed '/' s).2.tail.dropWhile isFlag := by
  fun_cases scanRegex s with
  | _ => simp_all only; rfl

theorem scanName_token (first : Char) (s : List Char) :
    let name := String.ofList (first :: s.takeWhile isNamePart)
    let sign := (splitSign ((s.dropWhile isNamePart).dropWhile isBlank)).1
    (scanName first s).token =
      if sign = [] then .identifier name else .operator name (String.ofList sign) := rfl

theorem scan_token_ne_endOfInput {s : List Char} (h : s ≠ []) : (scan s).token ≠ .endOfInput := by
  fun_cases scan s with
  | case1 => exact absurd rfl h
  | case7 => rw [scanText_token]; exact Token.noConfusion
  | case8 => rw [scanRegex_token]; exact Token.noConfusion
  | case9 => rw [scanName_token]; split <;> exact Token.noConfusion
  | _ => exact Token.noConfusion

/-! ### One token after another -/

theorem lexemesFrom_blank {s : List Char} (n : Nat) (h : s.dropWhile isBlank = []) :
    lexemesFrom n s = ([], (nextLexeme n s).1.start) := by
  have hend : (nextLexeme n s).1.token = .endOfInput := by simp [nextLexeme, h, scan]
  rw [lexemesFrom, dif_pos hend]

theorem lexemesFrom_step {s : List Char} (n : Nat) (h : s.dropWhile isBlank ≠ []) :
    lexemesFrom n s =
      let later := lexemesFrom (nextLexeme n s).1.stop (nextLexeme n s).2
      ((nextLexeme n s).1 :: later.1, later.2) := by
  have hend : (nextLexeme n s).1.token ≠ .endOfInput := scan_token_ne_endOfInput h
  rw [lexemesFrom, dif_neg hend]

theorem lexemesFrom_nil {s : List Char} (n : Nat) (h : s.dropWhile isBlank = []) :
    (lexemesFrom n s).1 = [] := by
  rw [lexemesFrom_blank n h]

theorem lexemesFrom_cons {s : List Char} (n : Nat) (h : s.dropWhile isBlank ≠ []) :
    (lexemesFrom n s).1 =
      (nextLexeme n s).1 :: (lexemesFrom (nextLexeme n s).1.stop (nextLexeme n s).2).1 := by
  rw [lexemesFrom_step n h]

/-- What holds of a text without tokens, and of a text once it holds of what follows its first token,
holds of all texts. -/
theorem lexing_induction {P : List Char → Prop} (blank : ∀ s, s.dropWhile isBlank = [] → P s)
    (step : ∀ s, s.dropWhile isBlank ≠ [] → P (scan (s.dropWhile isBlank)).rest → P s)
    (s : List Char) : P s := by
  induction hn : s.length using Nat.strongRecOn generalizing s with
  | ind n ih =>
    by_cases hs : s.dropWhile isBlank = []
    · exact blank s hs
    · have hshort : (scan (s.dropWhile isBlank)).rest.length < n := by
        rw [← hn]
        exact Nat.lt_of_lt_of_le (length_scan_rest hs) (List.dropWhile_suffix _).length_le
      exact step s hs (ih _ hshort _ rfl)

/-- A token of a text that stands further back in another one. -/
def Lexeme.shift (n : Nat) (l : Lexeme) : Lexeme :=
  ⟨l.token, n + l.start, n + l.stop⟩

theorem nextLexeme_add (m n : Nat) (s : List Char) :
    nextLexeme (m + n) s = ((nextLexeme n s).1.shift m, (nextLexeme n s).2) := by
  simp only [nextLexeme, Lexeme.shift, Nat.add_assoc]

/-- A text that begins at a larger offset has the same tokens, at offsets that are as much larger. -/
theorem lexemesFrom_add (m n : Nat) (s : List Char) :
    lexemesFrom (m + n) s = ((lexemesFrom n s).1.map (.shift m), m + (lexemesFrom n s).2) := by
  induction s using lexing_induction generalizing n with
  | blank s hs =>
    rw [lexemesFrom_blank _ hs, lexemesFrom_blank _ hs, nextLexeme_add]
    rfl
  | step s hs ih =>
    rw [lexemesFrom_step _ hs, lexemesFrom_step _ hs, nextLexeme_add]
    exact congrArg (fun later => ((nextLexeme n s).1.shift m :: later.1, later.2)) (ih _)

/-- The offset at which a text begins does not change its tokens. -/
theorem lexemesFrom_tokens (n : Nat) (s : List Char) :
    (lexemesFrom n s).1.map Lexeme.token = tokens s := by
  rw [← Nat.add_zero n, lexemesFrom_add, List.map_map]
  rfl

theorem tokens_nil : tokens [] = [] := by
  rw [tokens, lexemesFrom_nil 0 rfl, List.map_nil]

/-- The tokens of a text are the first one and those of the rest. -/
theorem tokens_eq_cons {s : List Char} (h : s.dropWhile isBlank ≠ []) :
    tokens s = (scan (s.dropWhile isBlank)).token :: tokens (scan (s.dropWhile isBlank)).rest := by
  rw [tokens, lexemesFrom_cons 0 h, List.map_cons, lexemesFrom_tokens]
  rfl

theorem tokens_eq_nil_iff (s : List Char) : tokens s = [] ↔ s.dropWhile isBlank = [] := by
  constructor
  · intro h
    refine Decidable.byContradiction fun hne => ?_
    rw [tokens_eq_cons hne] at h
    exact List.cons_ne_nil _ _ h
  · intro h
    rw [tokens, lexemesFrom_nil 0 h, List.map_nil]

theorem tokens_cons {c : Char} (s : List Char) (h : isBlank c = false) :
    tokens (c :: s) = (scan (c :: s)).token :: tokens (scan (c :: s)).rest := by
  have hdrop : (c :: s).dropWhile isBlank = c :: s := by simp [h]
  rw [tokens_eq_cons (by rw [hdrop]; exact List.cons_ne_nil _ _), hdrop]

theorem tokens_blank {c : Char} (s : List Char) (h : isBlank c = true) : tokens (c :: s) = tokens s := by
  have hdrop : (c :: s).dropWhile isBlank = s.dropWhile isBlank := by simp [h]
  by_cases hs : s.dropWhile isBlank = []
  · rw [(tokens_eq_nil_iff s).2 hs, tokens_eq_nil_iff, hdrop, hs]
  · rw [tokens_eq_cons hs, tokens_eq_cons (by rw [hdrop]; exact hs), hdrop]

/-! ### Tokens read from offset to offset -/

/-- The tokens that a reader comes to, one after another, until the end of input. -/
inductive TokenReader.Yields : TokenReader → List Token → Prop where
  | done {r : TokenReader} : r.peek.token = .endOfInput → Yields r []
  | next {r : TokenReader} {later : List Token} : r.peek.token ≠ .endOfInput →
      Yields (r.after .next) later → Yields r (r.peek.token :: later)

/-- Whether a text is what remains of the text of a reader from its cursor on. -/
structure TokenReader.StandsAt (r : TokenReader) (before s : List Char) : Prop where
  text_eq : r.text.toList = before ++ s
  cursor_eq : r.cursor = byteLength before

theorem TokenReader.StandsAt.ofText (text : String) : (ofText text).StandsAt [] text.toList :=
  ⟨rfl, rfl⟩

namespace TokenReader.StandsAt
variable {r : TokenReader} {before s : List Char}

theorem peek_eq (h : r.StandsAt before s) : r.peek = (nextLexeme r.cursor s).1 := by
  simp only [peek, lexemeAt, h.text_eq, h.cursor_eq, dropBytes?_byteLength]

/-- After the next token a reader stands at the rest of the text. -/
theorem next (h : r.StandsAt before s) :
    (r.after .next).StandsAt (before ++ (s.takeWhile isBlank ++ (scan (s.dropWhile isBlank)).source))
      (scan (s.dropWhile isBlank)).rest where
  text_eq := by
    simp only [after, h.text_eq, List.append_assoc, scan_source, List.takeWhile_append_dropWhile]
  cursor_eq := by
    simp only [after, h.peek_eq, nextLexeme, h.cursor_eq, byteLength_append, Nat.add_assoc]

theorem peek_endOfInput_iff (h : r.StandsAt before s) :
    r.peek.token = .endOfInput ↔ s.dropWhile isBlank = [] := by
  rw [h.peek_eq]
  constructor
  · intro hend
    exact Decidable.byContradiction fun hne => scan_token_ne_endOfInput hne hend
  · intro hs
    simp [nextLexeme, hs, scan]

private theorem yields (h : r.StandsAt before s) : r.Yields (tokens s) := by
  induction s using lexing_induction generalizing r before with
  | blank s hs =>
    rw [(tokens_eq_nil_iff s).2 hs]
    exact .done (h.peek_endOfInput_iff.2 hs)
  | step s hs ih =>
    have hpeek : (scan (s.dropWhile isBlank)).token = r.peek.token := by rw [h.peek_eq]; rfl
    rw [tokens_eq_cons hs, hpeek]
    exact .next (mt h.peek_endOfInput_iff.1 hs) (ih h.next)

/-- A reader comes to the tokens of the text that remains, and to no others. -/
theorem yields_iff (h : r.StandsAt before s) (found : List Token) :
    r.Yields found ↔ found = tokens s := by
  constructor
  · intro hy
    induction hy generalizing before s with
    | done hend => exact ((tokens_eq_nil_iff s).2 (h.peek_endOfInput_iff.1 hend)).symm
    | next hne _ ih =>
      have hs := mt h.peek_endOfInput_iff.2 hne
      rw [tokens_eq_cons hs, ih h.next, h.peek_eq]
      rfl
  · rintro rfl
    exact h.yields

end TokenReader.StandsAt

end PagePolicy.Condition
