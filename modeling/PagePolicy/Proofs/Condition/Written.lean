import PagePolicy.Proofs.Condition.Legible
import PagePolicy.Proofs.Condition.Spans
import PagePolicy.Proofs.Text.Trimmed

/-! How the regular expressions of conditions are written. What is read between the slashes is what stands there, up to
the first slash that no backslash escapes, and what is read as flags are all the flags after that slash. -/

namespace PagePolicy.Condition

open Text

/-- The ways to write a regular expression, and what can stand after it. -/
inductive WritesRegex (body flags : List Char) : (source rest : List Char) → Prop where
  /-- Between slashes, of which only the last one can end the body, and with all the flags that follow. -/
  | closed {rest : List Char} (bare : hasBareSlash body = false) (paired : endsInBackslash body = false)
      (known : ∀ c ∈ flags, c ∈ ['i', 'm', 's', 'u']) (longest : ∀ c ∈ rest.head?, c ∉ ['i', 'm', 's', 'u']) :
      WritesRegex body flags ('/' :: (body ++ '/' :: flags)) rest
  /-- Up to the end of the text, where there is no slash to end it. -/
  | unclosed (bare : hasBareSlash body = false) (plain : flags = []) : WritesRegex body flags ('/' :: body) []

/-- Whether a regular expression is written between two offsets of a text. -/
def RegexBetween (s : List Char) (start stop : Nat) (body flags : List Char) : Prop :=
  ∃ before source rest, s = before ++ (source ++ rest) ∧ byteLength before = start ∧
    start + byteLength source = stop ∧ WritesRegex body flags source rest

/-! ### The body -/

private theorem splitClosed_unclosed {body : List Char} (h : hasBareSlash body = false) :
    splitClosed '/' body = (body, []) := by
  induction body using escapes_induction with
  | nil => rfl
  | lone => rfl
  | pair c s ih => rw [splitClosed_pair, ih h]
  | plain c s hc ih =>
    rw [hasBareSlash_plain hc, Bool.or_eq_false_iff, decide_eq_false_iff_not] at h
    rw [splitClosed_plain hc s h.1, ih h.2]

/-- What is left of the text starts with the character that closes the body. -/
theorem head?_splitClosed (close : Char) (s : List Char) : ∀ c ∈ (splitClosed close s).2.head?, c = close := by
  fun_induction splitClosed close s with
  | case1 => rintro c ⟨⟩
  | case2 c s body rest hsplit ih =>
    rw [hsplit] at ih
    exact ih
  | case3 s =>
    rintro c ⟨⟩
    rfl
  | case4 c s _ _ body rest hsplit ih =>
    rw [hsplit] at ih
    exact ih

/-- The body of a regular expression goes up to the first slash that can end it, or up to the end of the text. -/
theorem splitClosed_eq_iff {s body rest : List Char} :
    splitClosed '/' s = (body, rest) ↔ s = body ++ rest ∧ hasBareSlash body = false ∧
      (rest = [] ∨ endsInBackslash body = false ∧ ∃ later, rest = '/' :: later) := by
  constructor
  · intro h
    have happend := splitClosed_append '/' s
    have hbare := hasBareSlash_splitClosed s
    have hhead := head?_splitClosed '/' s
    have hpaired := splitClosed_rest_of_endsInBackslash (s := s)
    rw [h] at happend hbare hhead hpaired
    refine ⟨happend.symm, hbare, ?_⟩
    cases rest with
    | nil => exact .inl rfl
    | cons c later =>
      obtain rfl := hhead c rfl
      exact .inr ⟨Bool.eq_false_iff.2 fun hend => List.cons_ne_nil _ _ (hpaired hend), later, rfl⟩
  · rintro ⟨rfl, hbare, rfl | ⟨hpaired, later, rfl⟩⟩
    · rw [List.append_nil, splitClosed_unclosed hbare]
    · exact splitClosed_closed later hbare hpaired

/-! ### The token -/

section
variable {s body later : List Char}

private theorem scanRegex_closed (h : splitClosed '/' s = (body, '/' :: later)) :
    scanRegex s = ⟨.regex (String.ofList body) (String.ofList (later.takeWhile isFlag)),
      '/' :: (body ++ '/' :: later.takeWhile isFlag), later.dropWhile isFlag⟩ := by
  rw [scanRegex, h]

private theorem scanRegex_unclosed (h : splitClosed '/' s = (body, [])) :
    scanRegex s = ⟨.regex (String.ofList body) "", '/' :: body, []⟩ := by
  rw [scanRegex, h]

end

/-- A regular expression that was read is written as it was read. -/
theorem writesRegex_of_scanRegex {s : List Char} {pattern flags : String}
    (h : (scanRegex s).token = .regex pattern flags) :
    WritesRegex pattern.toList flags.toList (scanRegex s).source (scanRegex s).rest := by
  rcases hsplit : splitClosed '/' s with ⟨body, rest⟩
  obtain ⟨-, hbare, rfl | ⟨hpaired, later, rfl⟩⟩ := splitClosed_eq_iff.1 hsplit
  · rw [scanRegex_unclosed hsplit] at h ⊢
    cases h
    rw [String.toList_ofList]
    exact .unclosed hbare rfl
  · rw [scanRegex_closed hsplit] at h ⊢
    cases h
    rw [String.toList_ofList, String.toList_ofList]
    refine .closed hbare hpaired (fun c hc => ?_) fun c hc => ?_
    · exact isFlag_iff.1 (List.mem_takeWhile_imp hc)
    · exact mt isFlag_iff.2 (Bool.eq_false_iff.1 (head?_dropWhile isFlag later c hc))

private theorem writesRegex_of_scan {s : List Char} {pattern flags : String}
    (h : (scan s).token = .regex pattern flags) :
    WritesRegex pattern.toList flags.toList (scan s).source (scan s).rest := by
  revert h
  fun_cases scan s with
  | case7 =>
    rw [scanText_token]
    rintro ⟨⟩
  | case8 later => exact writesRegex_of_scanRegex
  | case9 =>
    rw [scanName_token]
    split <;> rintro ⟨⟩
  | _ => rintro ⟨⟩

/-- A regular expression is read as it is written. -/
theorem scan_of_writesRegex {body flags source rest : List Char} (h : WritesRegex body flags source rest) :
    scan (source ++ rest) = ⟨.regex (String.ofList body) (String.ofList flags), source, rest⟩ := by
  cases h with
  | closed hbare hpaired hknown hlongest =>
    obtain ⟨htake, hdrop⟩ := splitWhile (fun c hc => isFlag_iff.2 (hknown c hc))
      fun c hc => Bool.eq_false_iff.2 (mt isFlag_iff.1 (hlongest c hc))
    have hscan := scanRegex_closed (splitClosed_closed (flags ++ rest) hbare hpaired)
    rw [htake, hdrop] at hscan
    rw [List.cons_append, List.append_assoc, List.cons_append]
    exact hscan
  | unclosed hbare hplain =>
    rw [List.append_nil, hplain]
    exact scanRegex_unclosed (splitClosed_unclosed hbare)

/-! ### The text -/

private theorem WritesRegex.head?_eq {body flags source rest : List Char} (h : WritesRegex body flags source rest) :
    (source ++ rest).head? = some '/' := by
  cases h with
  | closed => rfl
  | unclosed => rfl

section
variable {text : String} {offset start stop : Nat} {pattern flags : String}

private theorem written_of_lexemeAt (h : lexemeAt text offset = ⟨.regex pattern flags, start, stop⟩) :
    (∃ blanks, Between text.toList offset start blanks ∧ ∀ c ∈ blanks, isBlank c = true) ∧
      RegexBetween text.toList start stop pattern.toList flags.toList := by
  have hend : (lexemeAt text offset).token ≠ .endOfInput := by
    rw [h]
    exact Token.noConfusion
  obtain ⟨before, blanks, s, htext, hoffset, hblanks, hlexeme⟩ := exists_scan_of_lexemeAt hend
  obtain ⟨htoken, hstart, hstop⟩ := Lexeme.mk.inj (h.symm.trans hlexeme)
  refine ⟨⟨blanks, ⟨before, s, htext, hoffset, hstart.symm⟩, hblanks⟩, ?_⟩
  refine ⟨before ++ blanks, (scan s).source, (scan s).rest, ?_, ?_, ?_, writesRegex_of_scan htoken.symm⟩
  · rw [scan_source, htext, List.append_assoc]
  · rw [byteLength_append, hoffset, hstart]
  · rw [hstart, hstop]

private theorem lexemeAt_of_written
    (hgap : ∃ blanks, Between text.toList offset start blanks ∧ ∀ c ∈ blanks, isBlank c = true)
    (hregex : RegexBetween text.toList start stop pattern.toList flags.toList) :
    lexemeAt text offset = ⟨.regex pattern flags, start, stop⟩ := by
  obtain ⟨blanks, ⟨before, after, htext, rfl, rfl⟩, hblanks⟩ := hgap
  obtain ⟨before', source, rest, htext', hlength, rfl, hwrites⟩ := hregex
  have hsplit : before ++ blanks ++ after = before' ++ (source ++ rest) := by
    rw [List.append_assoc, ← htext, htext']
  obtain rfl := eq_of_byteLength_eq hsplit (by rw [byteLength_append, hlength])
  have hslash : ∀ c ∈ (source ++ rest).head?, isBlank c = false := by
    rw [hwrites.head?_eq]
    rintro c ⟨⟩
    rfl
  rw [lexemeAt_eq_scan htext hblanks hslash, scan_of_writesRegex hwrites, String.ofList_toList,
    String.ofList_toList]

end

/-- A regular expression is read exactly where one is written behind blanks, and as it is written there. This goes for
all regular expressions among the tokens that a condition is made of. -/
theorem regex_read_as_written (text : String) :
    (∀ offset pattern flags start stop, lexemeAt text offset = ⟨.regex pattern flags, start, stop⟩ ↔
        (∃ blanks, Between text.toList offset start blanks ∧ ∀ c ∈ blanks, isBlank c = true) ∧
          RegexBetween text.toList start stop pattern.toList flags.toList) ∧
      ∀ l ∈ (lexemes text.toList).1, ∀ pattern flags, l.token = .regex pattern flags →
        RegexBetween text.toList l.start l.stop pattern.toList flags.toList := by
  constructor
  · intro offset pattern flags start stop
    exact ⟨written_of_lexemeAt, fun h => lexemeAt_of_written h.1 h.2⟩
  · rintro ⟨token, start, stop⟩ hl pattern flags rfl
    have hpasses := (TokenReader.StandsAt.ofText text).passes
    obtain ⟨offset, hoffset⟩ := hpasses.exists_lexemeAt (List.mem_append_left _ hl)
    exact (written_of_lexemeAt hoffset).2

/-- A slash that is escaped closes nothing, and a letter that is no flag ends the flags. -/
theorem regex_read_as_written_unclosed :
    let text := "x=~/é\\//mid & /a\\/\\"
    (lexemeAt text 14 = ⟨.regex "a\\/\\" "", 15, 20⟩ ∧
      RegexBetween text.toList 15 20 "a\\/\\".toList "".toList) ∧
      (⟨.regex "é\\/" "mi", 3, 11⟩ : Lexeme) ∈ (lexemes text.toList).1 ∧
        RegexBetween text.toList 3 11 "é\\/".toList "mi".toList := by
  intro text
  obtain ⟨hread, hlexemes⟩ := regex_read_as_written text
  have hunclosed : lexemeAt text 14 = ⟨.regex "a\\/\\" "", 15, 20⟩ := by decide +kernel
  have hclosed : (⟨.regex "é\\/" "mi", 3, 11⟩ : Lexeme) ∈ (lexemes text.toList).1 := by
    have hfound : (lexemes text.toList).1[1]? = some ⟨.regex "é\\/" "mi", 3, 11⟩ := by decide +kernel
    exact List.mem_of_getElem? hfound
  exact ⟨⟨hunclosed, ((hread _ _ _ _ _).1 hunclosed).2⟩, hclosed, hlexemes _ hclosed _ _ rfl⟩

end PagePolicy.Condition
