import PagePolicy.Proofs.Condition.Tokens
import PagePolicy.Proofs.Text.Offsets
import PagePolicy.Proofs.Text.Trimmed

/-! Where the tokens of a text stand. Each one starts after the blanks at the place where the one before it
stops, and is not empty, so that the tokens come to an end and no character is lost between them. -/

namespace PagePolicy.Condition

open Text

/-- The name of the property that a token begins with, if it is a name or a comparison. -/
def Token.property? : Token → Option String
  | identifier name => some name
  | operator property _ => some property
  | _ => none

/-- Whether a token of a text is the one that is read from an offset on. Nothing but blanks stands before
it. The end of input is where the text ends, and every other token advances. A name is the piece of the text
that the token starts with. -/
structure Lexeme.Follows (s : List Char) (offset : Nat) (l : Lexeme) : Prop where
  gap : ∃ blanks, Between s offset l.start blanks ∧ ∀ c ∈ blanks, isBlank c = true
  span : ∃ source, Between s l.start l.stop source
  ends : l.token = .endOfInput → l.start = byteLength s ∧ l.stop = byteLength s
  advances : l.token ≠ .endOfInput → l.start < l.stop
  name : ∀ property ∈ l.token.property?, ∃ stop ≤ l.stop, Between s l.start stop property.toList

/-! ### One token -/

/-- A token that begins with a name was read as a name. -/
theorem exists_scanName {s : List Char} (h : (scan s).token.property? ≠ none) :
    ∃ first later, s = first :: later ∧ scan s = scanName first later := by
  revert h
  fun_cases scan s with
  | case7 c s =>
    rw [scanText_token]
    exact fun h => absurd rfl h
  | case8 s =>
    rw [scanRegex_token]
    exact fun h => absurd rfl h
  | case9 c s => exact fun _ => ⟨c, s, rfl, rfl⟩
  | _ => exact fun h => absurd rfl h

/-- Such a token is written from its name on. -/
theorem property_prefix_scan {s : List Char} {property : String}
    (h : property ∈ (scan s).token.property?) : property.toList <+: (scan s).source := by
  obtain ⟨first, later, rfl, hscan⟩ := exists_scanName fun hnone => nomatch hnone.symm.trans h
  rw [hscan] at h ⊢
  have hname : property = String.ofList (first :: later.takeWhile isNamePart) := by
    rw [scanName_token] at h
    split at h
    · exact (Option.some.inj h).symm
    · exact (Option.some.inj h).symm
  rw [hname, String.toList_ofList]
  exact ⟨_, (List.append_assoc ..).symm⟩

private theorem byteLength_pos {s : List Char} (h : s ≠ []) : 0 < byteLength s := by
  cases s with
  | nil => exact absurd rfl h
  | cons c s => exact Nat.add_pos_left (Char.utf8Size_pos c) _

/-- What is read at the start of a text that begins at an offset follows what stands before it. -/
theorem follows_nextLexeme (before s : List Char) :
    (nextLexeme (byteLength before) s).1.Follows (before ++ s) (byteLength before) := by
  have hsplit : s = s.takeWhile isBlank ++ s.dropWhile isBlank := List.takeWhile_append_dropWhile.symm
  have hscan := scan_source (s.dropWhile isBlank)
  have hlength : byteLength (before ++ s.takeWhile isBlank) = (nextLexeme (byteLength before) s).1.start :=
    byteLength_append ..
  have htext : before ++ s = before ++ s.takeWhile isBlank ++
      ((scan (s.dropWhile isBlank)).source ++ (scan (s.dropWhile isBlank)).rest) := by
    rw [hscan, List.append_assoc, ← hsplit]
  constructor
  case gap =>
    exact ⟨_, ⟨before, _, congrArg (before ++ ·) hsplit, rfl, rfl⟩, List.all_eq_true.1 List.all_takeWhile⟩
  case span => exact ⟨_, _, _, htext, hlength, rfl⟩
  case ends =>
    intro hend
    have hdrop : s.dropWhile isBlank = [] :=
      Decidable.byContradiction fun h => scan_token_ne_endOfInput h hend
    rw [hdrop, List.append_nil] at hsplit
    rw [← hsplit] at hlength
    refine ⟨hlength.symm, ?_⟩
    rw [hlength, nextLexeme, hdrop]
    rfl
  case advances =>
    intro hend
    have hdrop : s.dropWhile isBlank ≠ [] := fun h => hend (by simp [nextLexeme, h, scan])
    exact Nat.lt_add_of_pos_right (byteLength_pos (scan_source_ne_nil hdrop))
  case name =>
    intro property hproperty
    obtain ⟨later, hlater⟩ := property_prefix_scan hproperty
    refine ⟨(nextLexeme (byteLength before) s).1.start + byteLength property.toList, ?_, ?_⟩
    · refine Nat.add_le_add_left ?_ _
      rw [← hlater, byteLength_append]
      exact Nat.le_add_right _ _
    · refine ⟨_, later ++ (scan (s.dropWhile isBlank)).rest, ?_, hlength, rfl⟩
      rw [htext, ← hlater, List.append_assoc property.toList]

/-- A token and the blanks before it stand within the text, and no character is cut. -/
theorem Lexeme.Follows.within {s : List Char} {offset : Nat} {l : Lexeme} (h : l.Follows s offset) :
    offset ≤ l.start ∧ l.start ≤ l.stop ∧ l.stop ≤ byteLength s ∧
      IsBoundary s l.start ∧ IsBoundary s l.stop := by
  obtain ⟨blanks, hgap, -⟩ := h.gap
  obtain ⟨source, hspan⟩ := h.span
  exact ⟨hgap.le, hspan.le, hspan.stop_boundary.le, hspan.start_boundary, hspan.stop_boundary⟩

/-- What is read from an offset on is a token of the text behind some blanks. -/
theorem exists_scan_of_lexemeAt {text : String} {offset : Nat}
    (h : (lexemeAt text offset).token ≠ .endOfInput) :
    ∃ before blanks s, text.toList = before ++ (blanks ++ s) ∧ byteLength before = offset ∧
      (∀ c ∈ blanks, isBlank c = true) ∧
      lexemeAt text offset = ⟨(scan s).token, offset + byteLength blanks,
        offset + byteLength blanks + byteLength (scan s).source⟩ := by
  rw [lexemeAt] at h ⊢
  split at h
  next => exact absurd rfl h
  next s hs =>
    obtain ⟨before, htext, hoffset⟩ := dropBytes?_eq_some_iff.1 hs
    refine ⟨before, s.takeWhile isBlank, s.dropWhile isBlank, ?_, hoffset, ?_, rfl⟩
    · rw [htext, List.takeWhile_append_dropWhile]
    · exact List.all_eq_true.1 List.all_takeWhile

/-- A token of the text behind some blanks is what is read from the start of these blanks on. -/
theorem lexemeAt_eq_scan {text : String} {before blanks s : List Char}
    (htext : text.toList = before ++ (blanks ++ s)) (hblanks : ∀ c ∈ blanks, isBlank c = true)
    (hs : ∀ c ∈ s.head?, isBlank c = false) :
    lexemeAt text (byteLength before) = ⟨(scan s).token, byteLength before + byteLength blanks,
      byteLength before + byteLength blanks + byteLength (scan s).source⟩ := by
  obtain ⟨htake, hdrop⟩ := splitWhile hblanks hs
  rw [lexemeAt, htext, dropBytes?_byteLength]
  simp only [nextLexeme, htake, hdrop]

/-! ### All tokens -/

/-- The tokens that a reader comes to, up to the end of input and with it. -/
inductive TokenReader.Passes : TokenReader → List Lexeme → Prop where
  | last {r : TokenReader} : r.peek.token = .endOfInput → Passes r [r.peek]
  | next {r : TokenReader} {later : List Lexeme} : r.peek.token ≠ .endOfInput →
      Passes (r.after .next) later → Passes r (r.peek :: later)

/-- A reader comes to what is read from some offsets of its text on. -/
theorem TokenReader.Passes.exists_lexemeAt {r : TokenReader} {found : List Lexeme} (h : r.Passes found)
    {l : Lexeme} (hl : l ∈ found) : ∃ offset, lexemeAt r.text offset = l := by
  induction h with
  | last => exact ⟨_, (List.mem_singleton.1 hl).symm⟩
  | next _ _ ih =>
    rcases List.mem_cons.1 hl with rfl | hl
    · exact ⟨_, rfl⟩
    · exact ih hl

/-- The end of input at an offset. -/
def Lexeme.endAt (n : Nat) : Lexeme :=
  ⟨.endOfInput, n, n⟩

/-- Whether a text that begins at an offset is made up of tokens and of blanks before them, and of nothing
else. The last token is the end of input, and it takes no space. -/
inductive Tiles : Nat → List Char → List Lexeme → Prop where
  | last {n : Nat} {blanks : List Char} : (∀ c ∈ blanks, isBlank c = true) →
      Tiles n blanks [.endAt (n + byteLength blanks)]
  | next {n start stop : Nat} {blanks source rest : List Char} {token : Token} {later : List Lexeme} :
      (∀ c ∈ blanks, isBlank c = true) → source ≠ [] → token ≠ .endOfInput →
        n + byteLength blanks = start → start + byteLength source = stop → Tiles stop rest later →
        Tiles n (blanks ++ (source ++ rest)) (⟨token, start, stop⟩ :: later)

private theorem Tiles.length_le {n : Nat} {s : List Char} {found : List Lexeme} (h : Tiles n s found) :
    found.length ≤ s.length + 1 := by
  induction h with
  | last => exact Nat.le_add_left _ _
  | next _ hsource _ _ _ _ ih =>
    have hpos := List.length_pos_iff.2 hsource
    simp only [List.length_cons, List.length_append]
    omega

/-- The tokens of a text that begins at an offset, and the end of input after them. -/
def lexemesToEnd (n : Nat) (s : List Char) : List Lexeme :=
  (lexemesFrom n s).1 ++ [.endAt (lexemesFrom n s).2]

section
variable {s : List Char} (n : Nat)

private theorem lexemesToEnd_blank (h : s.dropWhile isBlank = []) :
    lexemesToEnd n s = [(nextLexeme n s).1] := by
  rw [lexemesToEnd, lexemesFrom_blank n h]
  simp [nextLexeme, h, scan, byteLength, Lexeme.endAt]

private theorem lexemesToEnd_cons (h : s.dropWhile isBlank ≠ []) :
    lexemesToEnd n s =
      (nextLexeme n s).1 :: lexemesToEnd (nextLexeme n s).1.stop (nextLexeme n s).2 := by
  rw [lexemesToEnd, lexemesFrom_step n h]
  rfl

end

/-- The tokens tile the text. -/
theorem tiles_lexemesToEnd (n : Nat) (s : List Char) : Tiles n s (lexemesToEnd n s) := by
  induction s using lexing_induction generalizing n with
  | blank s hs =>
    have hsplit : s.takeWhile isBlank = s := by
      have hall := List.takeWhile_append_dropWhile (p := isBlank) (l := s)
      rwa [hs, List.append_nil] at hall
    rw [lexemesToEnd_blank n hs]
    have hlast : (nextLexeme n s).1 = .endAt (n + byteLength s) := by
      simp [nextLexeme, hs, hsplit, scan, byteLength, Lexeme.endAt]
    rw [hlast]
    refine .last fun c hc => ?_
    rw [← hsplit] at hc
    exact List.all_eq_true.1 List.all_takeWhile c hc
  | step s hs ih =>
    rw [lexemesToEnd_cons n hs]
    have htiles : Tiles n (s.takeWhile isBlank ++
        ((scan (s.dropWhile isBlank)).source ++ (scan (s.dropWhile isBlank)).rest))
        ((nextLexeme n s).1 :: lexemesToEnd (nextLexeme n s).1.stop (nextLexeme n s).2) :=
      .next (List.all_eq_true.1 List.all_takeWhile) (scan_source_ne_nil hs) (scan_token_ne_endOfInput hs)
        rfl rfl (ih _)
    rwa [scan_source, List.takeWhile_append_dropWhile] at htiles

/-- A token is what is read at the place where it starts. -/
theorem exists_scan_of_mem {n : Nat} {s : List Char} {l : Lexeme} (h : l ∈ (lexemesFrom n s).1) :
    ∃ before rest, s = before ++ rest ∧ rest ≠ [] ∧ l.token = (scan rest).token ∧
      l.start = n + byteLength before := by
  induction s using lexing_induction generalizing n with
  | blank s hs =>
    rw [lexemesFrom_nil n hs] at h
    cases h
  | step s hs ih =>
    rw [lexemesFrom_cons n hs] at h
    have hsplit : s = s.takeWhile isBlank ++ s.dropWhile isBlank :=
      List.takeWhile_append_dropWhile.symm
    rcases List.mem_cons.1 h with rfl | h
    · exact ⟨_, _, hsplit, hs, rfl, rfl⟩
    · obtain ⟨before, rest, hrest, hne, htoken, hstart⟩ := ih h
      refine ⟨s.takeWhile isBlank ++ (scan (s.dropWhile isBlank)).source ++ before, rest, ?_, hne, htoken, ?_⟩
      · rw [List.append_assoc, ← hrest, List.append_assoc, scan_source, ← hsplit]
      · rw [hstart, byteLength_append, byteLength_append]
        simp only [nextLexeme]
        omega

namespace TokenReader.StandsAt
variable {r : TokenReader} {before s : List Char}

theorem passes (h : r.StandsAt before s) : r.Passes (lexemesToEnd r.cursor s) := by
  induction s using lexing_induction generalizing r before with
  | blank s hs =>
    rw [lexemesToEnd_blank _ hs, ← h.peek_eq]
    exact .last (h.peek_endOfInput_iff.2 hs)
  | step s hs ih =>
    have hlater := ih h.next
    rw [lexemesToEnd_cons _ hs, ← h.peek_eq]
    exact .next (mt h.peek_endOfInput_iff.1 hs) hlater

/-- A reader comes to the tokens of the text that remains and then to its end, and to no others. -/
theorem passes_iff (h : r.StandsAt before s) (found : List Lexeme) :
    r.Passes found ↔ found = lexemesToEnd r.cursor s := by
  constructor
  · intro hp
    induction hp generalizing before s with
    | last hend => rw [lexemesToEnd_blank _ (h.peek_endOfInput_iff.1 hend), h.peek_eq]
    | next hne _ ih =>
      rw [lexemesToEnd_cons _ (mt h.peek_endOfInput_iff.2 hne), ← h.peek_eq]
      exact congrArg (_ :: ·) (ih h.next)
  · rintro rfl
    exact h.passes

end TokenReader.StandsAt

/-- Reading tokens comes to an end and loses nothing. Where no character starts there is nothing to be read,
and the place is kept. Elsewhere a token follows the place with only blanks in between. Read one after
another from the start of a text, the tokens with the blanks before them make up the text, and there are at
most as many of them before the end of input as there are characters. -/
theorem tokens_tile_text (text : String) :
    (∀ offset, ¬ IsBoundary text.toList offset →
        lexemeAt text offset = ⟨.endOfInput, offset, offset⟩) ∧
      (∀ offset, IsBoundary text.toList offset →
        let l := lexemeAt text offset
        l.Follows text.toList offset ∧
          offset ≤ l.start ∧ l.start ≤ l.stop ∧ l.stop ≤ byteLength text.toList ∧
          IsBoundary text.toList l.start ∧ IsBoundary text.toList l.stop) ∧
      ∃ found, (∀ passed, (TokenReader.ofText text).Passes passed ↔ passed = found) ∧
        found.length ≤ text.length + 1 ∧ Tiles 0 text.toList found := by
  refine ⟨?_, ?_, lexemesToEnd 0 text.toList, ?_, ?_, tiles_lexemesToEnd 0 text.toList⟩
  · intro offset hoffset
    rw [lexemeAt, dropBytes?_eq_none_iff.2 hoffset]
  · rintro _ ⟨before, after, htext, rfl⟩
    have hfollows : (lexemeAt text (byteLength before)).Follows text.toList (byteLength before) := by
      rw [lexemeAt, htext, dropBytes?_byteLength]
      exact follows_nextLexeme before after
    exact ⟨hfollows, hfollows.within⟩
  · exact (TokenReader.StandsAt.ofText text).passes_iff
  · exact (tiles_lexemesToEnd 0 text.toList).length_le

end PagePolicy.Condition
