import PagePolicy.Condition.Printer
import PagePolicy.Proofs.Condition.Legible
import PagePolicy.Proofs.Text.Letters
import PagePolicy.Proofs.Text.Trimmed

/-! The tokens that the text of a condition is made of. They write the condition, and reading its text
gives them. -/

namespace PagePolicy

/-- The sign of a comparison is read as that comparison. -/
theorem CompareOp.parse_symbol (op : CompareOp) : parse op.symbol = some op := by
  rcases op with ⟨kind, ignoreCase⟩
  cases kind <;> cases ignoreCase <;> rfl

/-- The sign of a regular expression is not that of a comparison. -/
theorem CompareOp.symbol_ne (op : CompareOp) : op.symbol ≠ "=~" := by
  intro h
  have hparse := parse_symbol op
  rw [h] at hparse
  cases hparse

namespace Condition

open Text

/-- Tokens in parentheses, if they need them. -/
def inParens (needed : Bool) (ts : List Token) : List Token :=
  if needed then .leftParen :: (ts ++ [.rightParen]) else ts

def printTokens : Condition → List Token
  | compare property op value => [.operator property op.symbol, .text value]
  | regex property pattern flags => [.operator property "=~", .regex pattern (flags.getD "")]
  | not a => .not :: inParens a.isJoined a.printTokens
  | and a b =>
    inParens a.isOr a.printTokens ++ .and :: inParens b.isJoined b.printTokens
  | or a b => a.printTokens ++ .or :: inParens b.isOr b.printTokens

/-! ### The tokens write the condition -/

private theorem ofRegex_getD {property pattern : String} {flags : Option String}
    (h : flags ≠ some "") :
    ofRegex property pattern (flags.getD "") = regex property pattern flags := by
  cases flags with
  | none => rfl
  | some f =>
    have hf : f ≠ "" := fun hf => h (congrArg some hf)
    rw [ofRegex, Option.getD_some, if_neg hf]

/-- Parentheses let any condition stand where only some can. -/
theorem writes_inParens {level : Level} {needed : Bool} {ts : List Token} {a : Condition}
    (hlevel : ∀ us, Writes .primary us a → Writes level us a) (hall : Writes (.chain .or) ts a)
    (hbare : needed = false → Writes level ts a) : Writes level (inParens needed ts) a := by
  cases needed with
  | false => exact hbare rfl
  | true => exact hlevel _ (.group hall)

/-- The tokens of a legible condition write it, at each level that it can stand at. -/
theorem writes_printTokens {a : Condition} (h : a.Legible) :
    Writes (.chain .or) a.printTokens a ∧
      (a.isOr = false → Writes (.chain .and) a.printTokens a) ∧
      (a.isJoined = false → Writes .unit a.printTokens a) := by
  have hunit : ∀ {ts b}, Writes .unit ts b → Writes (.chain .or) ts b ∧
      (b.isOr = false → Writes (.chain .and) ts b) ∧ (b.isJoined = false → Writes .unit ts b) :=
    fun hb => ⟨.single (.single hb), fun _ => .single hb, fun _ => hb⟩
  induction a with
  | compare property op value =>
    exact hunit (.primary (.comparison (CompareOp.symbol_ne op) (CompareOp.parse_symbol op)))
  | regex property pattern flags =>
    have hflags : flags ≠ some "" := fun hf => (h.flags (pattern, flags) (by simp [regexes]) "" hf).1 rfl
    have hregex : Writes .primary _ (ofRegex property pattern (flags.getD "")) := .regexOperator
    rw [ofRegex_getD hflags] at hregex
    exact hunit (.primary hregex)
  | not a ih =>
    obtain ⟨hor, -, hbare⟩ := ih (legible_not.1 h)
    exact hunit (.not (writes_inParens (fun _ => .primary) hor hbare))
  | and a b iha ihb =>
    obtain ⟨ha, hb⟩ := legible_and.1 h
    obtain ⟨hleft, hleftBare, -⟩ := iha ha
    obtain ⟨hright, -, hrightBare⟩ := ihb hb
    have hjoin : Writes (.chain .and) (printTokens (.and a b)) (.and a b) :=
      .join (k := .and) (writes_inParens (fun _ ht => .single (.primary ht)) hleft hleftBare)
        (writes_inParens (fun _ => .primary) hright hrightBare)
    exact ⟨.single hjoin, fun _ => hjoin, nofun⟩
  | or a b iha ihb =>
    obtain ⟨ha, hb⟩ := legible_or.1 h
    obtain ⟨hleft, -⟩ := iha ha
    obtain ⟨hright, hrightBare, -⟩ := ihb hb
    have hjoin : Writes (.chain .or) (printTokens (.or a b)) (.or a b) :=
      .join (k := .or) hleft (writes_inParens (fun _ ht => .single (.primary ht)) hright hrightBare)
    exact ⟨hjoin, nofun, nofun⟩

/-! ### Reading the text gives the tokens -/

/-- Whether a text does not go on with a flag. -/
def NoFlagFirst (r : List Char) : Prop :=
  ∀ c ∈ r.head?, isFlag c = false

theorem noFlagFirst_nil : NoFlagFirst [] := nofun

theorem noFlagFirst_cons {c : Char} (h : isFlag c = false) (r : List Char) : NoFlagFirst (c :: r) := by
  rintro _ ⟨⟩
  exact h

private theorem isBlank_of_isNameStart {c : Char} (h : isNameStart c = true) : isBlank c = false := by
  simp only [isNameStart, Bool.or_eq_true, decide_eq_true_eq] at h
  rcases h with (h | rfl) | rfl
  · have hletter := Text.toNat_of_isAlpha h
    simp only [isBlank, Bool.or_eq_false_iff, Bool.and_eq_false_iff, decide_eq_false_iff_not,
      beq_eq_false_iff_ne]
    omega
  · rfl
  · rfl

private theorem scan_name {c : Char} (h : isNameStart c = true) (s : List Char) :
    scan (c :: s) = scanName c s := by
  have hne : ∀ d, isNameStart d = false → c ≠ d := by
    rintro _ hd rfl
    exact Bool.false_ne_true (hd.symm.trans h)
  rw [scan, if_neg (hne '(' rfl), if_neg (hne ')' rfl), if_neg (hne '!' rfl), if_neg (hne '&' rfl),
    if_neg (hne '|' rfl), if_neg (not_or.2 ⟨hne '"' rfl, hne '\'' rfl⟩), if_neg (hne '/' rfl), if_pos h]

private theorem splitSign_head {s : List Char} (h : (splitSign s).1 ≠ []) :
    ∀ c ∈ s.head?, isNamePart c = false ∧ isBlank c = false := by
  fun_cases splitSign s with
  | case5 =>
    exact absurd (by simp_all [splitSign]) h
  | _ =>
    rintro c ⟨⟩
    decide

/-- A name and the sign after it are one token. -/
theorem tokens_operator {name s sign r : List Char} (hname : IsName name)
    (hsign : splitSign s = (sign, r)) (hne : sign ≠ []) :
    tokens (name ++ s) = .operator (String.ofList name) (String.ofList sign) :: tokens r := by
  cases name with
  | nil => exact hname.elim
  | cons first rest =>
    obtain ⟨hfirst, hrest⟩ := hname
    have hhead := splitSign_head (s := s) (by rw [hsign]; exact hne)
    obtain ⟨htake, hdrop⟩ := splitWhile hrest fun c hc => (hhead c hc).1
    have hblank := (splitWhile (p := isBlank) (s := []) nofun fun c hc => (hhead c hc).2).2
    rw [List.nil_append] at hblank
    rw [List.cons_append, tokens_cons _ (isBlank_of_isNameStart hfirst), scan_name hfirst]
    simp only [scanName, htake, hdrop, hblank, hsign, if_neg hne]

/-- A text with a backslash before each quote and each backslash. -/
def escaped (s : List Char) : List Char :=
  s.flatMap fun c => if c = '"' ∨ c = '\\' then ['\\', c] else [c]

private theorem escaped_cons_special {c : Char} (h : c = '"' ∨ c = '\\') (s : List Char) :
    escaped (c :: s) = '\\' :: c :: escaped s := by
  rw [escaped, List.flatMap_cons, if_pos h]
  rfl

private theorem escaped_cons_plain {c : Char} (h : ¬(c = '"' ∨ c = '\\')) (s : List Char) :
    escaped (c :: s) = c :: escaped s := by
  rw [escaped, List.flatMap_cons, if_neg h]
  rfl

private theorem splitClosed_escaped (s r : List Char) :
    splitClosed '"' (escaped s ++ '"' :: r) = (escaped s, '"' :: r) := by
  induction s with
  | nil => rfl
  | cons c s ih =>
    by_cases hc : c = '"' ∨ c = '\\'
    · rw [escaped_cons_special hc, List.cons_append, List.cons_append, splitClosed_pair, ih]
    · rw [escaped_cons_plain hc, List.cons_append]
      rw [not_or] at hc
      rw [splitClosed_plain hc.2 _ hc.1, ih]

private theorem unescape_escaped (s : List Char) : unescape (escaped s) = s := by
  induction s with
  | nil => rfl
  | cons c s ih =>
    by_cases hc : c = '"' ∨ c = '\\'
    · rw [escaped_cons_special hc, unescape, ih]
    · rw [escaped_cons_plain hc]
      rw [not_or] at hc
      rw [unescape.eq_4 c (escaped s) (fun h => absurd h hc.2) (fun _ _ h => absurd h hc.2), ih]

/-- A text in quotes is one token. -/
theorem tokens_text (s r : List Char) :
    tokens ('"' :: (escaped s ++ '"' :: r)) = .text (String.ofList s) :: tokens r := by
  have hscan : ∀ s, scan ('"' :: s) = scanText '"' s := fun _ => rfl
  rw [tokens_cons _ (by decide), hscan, scanText_token, scanText_rest, splitClosed_escaped,
    unescape_escaped, List.tail_cons]

private theorem tokens_slash (s : List Char) :
    tokens ('/' :: s) = (scanRegex s).token :: tokens (scanRegex s).rest :=
  tokens_cons s (by decide)

/-- A regular expression that its last slash ends is one token, with the flags after it. -/
theorem tokens_regex {body flags r : List Char} (hslash : hasBareSlash body = false)
    (hend : endsInBackslash body = false) (hflags : ∀ c ∈ flags, isFlag c = true)
    (hr : NoFlagFirst r) :
    tokens ('/' :: (body ++ '/' :: (flags ++ r))) =
      .regex (String.ofList body) (String.ofList flags) :: tokens r := by
  obtain ⟨htake, hdrop⟩ := splitWhile hflags hr
  rw [tokens_slash, scanRegex_token, scanRegex_rest, splitClosed_closed (flags ++ r) hslash hend,
    List.tail_cons, htake, hdrop]

/-- A regular expression that its last slash does not end goes on. -/
theorem tokens_regex_open {body : List Char} (hslash : hasBareSlash body = false)
    (hend : endsInBackslash body = true) (r : List Char) :
    ∃ more flags later, tokens ('/' :: (body ++ '/' :: r)) =
      .regex (String.ofList (body ++ '/' :: more)) flags :: later := by
  rw [tokens_slash, scanRegex_token, splitClosed_open r hslash hend]
  exact ⟨_, _, _, rfl⟩

/-! ### Operands -/

theorem parenthesise_true_append (s r : List Char) :
    parenthesise true s ++ r = '(' :: (s ++ ')' :: r) := by
  simp [parenthesise]

theorem tokens_leftParen (s : List Char) : tokens ('(' :: s) = .leftParen :: tokens s :=
  tokens_cons s (by decide)

private theorem tokens_rightParen (s : List Char) : tokens (')' :: s) = .rightParen :: tokens s :=
  tokens_cons s (by decide)

theorem tokens_parenthesise (needed : Bool) {s : List Char} {ts : List Token}
    (h : ∀ r, NoFlagFirst r → tokens (s ++ r) = ts ++ tokens r) {r : List Char} (hr : NoFlagFirst r) :
    tokens (parenthesise needed s ++ r) = inParens needed ts ++ tokens r := by
  cases needed with
  | false => exact h r hr
  | true =>
    rw [parenthesise_true_append, tokens_leftParen, h _ (noFlagFirst_cons rfl r), tokens_rightParen]
    simp [inParens]

theorem tokens_spaced {sign : Char} {t : Token} (hsign : isBlank sign = false)
    (hscan : ∀ s, scan (sign :: s) = ⟨t, [sign], s⟩) (r : List Char) :
    tokens (' ' :: sign :: ' ' :: r) = t :: tokens r := by
  rw [tokens_blank _ (by decide), tokens_cons _ hsign, hscan, tokens_blank _ (by decide)]

theorem print_and_append (a b : Condition) (r : List Char) :
    (and a b).print ++ r = parenthesise a.isOr a.print ++
      ' ' :: '&' :: ' ' :: (parenthesise b.isJoined b.print ++ r) := by
  simp [print]

theorem print_or_append (a b : Condition) (r : List Char) :
    (or a b).print ++ r = parenthesise false a.print ++
      ' ' :: '|' :: ' ' :: (parenthesise b.isOr b.print ++ r) := by
  simp [print, parenthesise]

theorem tokens_print_not (a : Condition) (r : List Char) :
    tokens ((not a).print ++ r) = .not :: tokens (parenthesise a.isJoined a.print ++ r) :=
  tokens_cons _ (by decide)

/-- Whether no regular expression of a condition ends in a lone backslash. The slash after it would not
end it. -/
def Closed (a : Condition) : Prop :=
  ∀ r ∈ a.regexes, endsInBackslash r.1.toList = false

@[simp]
theorem closed_and {a b : Condition} : (and a b).Closed ↔ a.Closed ∧ b.Closed :=
  List.forall_mem_append

@[simp]
theorem closed_or {a b : Condition} : (or a b).Closed ↔ a.Closed ∧ b.Closed :=
  List.forall_mem_append

private theorem tokens_print_compare {property : String} (h : IsName property.toList) (op : CompareOp)
    (value : String) (r : List Char) :
    tokens ((compare property op value).print ++ r) =
      [.operator property op.symbol, .text value] ++ tokens r := by
  have hsign : ∀ s, splitSign (op.symbol.toList ++ '"' :: s) = (op.symbol.toList, '"' :: s) := by
    rcases op with ⟨kind, ignoreCase⟩
    cases kind <;> cases ignoreCase <;> exact fun _ => rfl
  have hne : op.symbol.toList ≠ [] := by
    rcases op with ⟨kind, ignoreCase⟩
    cases kind <;> cases ignoreCase <;> decide
  have hsource : (compare property op value).print ++ r =
      property.toList ++ (op.symbol.toList ++ '"' :: (escaped value.toList ++ '"' :: r)) := by
    simp [print, enquote, escaped]
  rw [hsource, tokens_operator h (hsign _) hne, tokens_text]
  simp only [String.ofList_toList, List.cons_append, List.nil_append]

theorem tokens_print_regex {property : String} (h : IsName property.toList) (pattern : String)
    (flags : Option String) (r : List Char) :
    tokens ((regex property pattern flags).print ++ r) = .operator property "=~" ::
      tokens ('/' :: (pattern.toList ++ '/' :: ((flags.getD "").toList ++ r))) := by
  have hsource : (regex property pattern flags).print ++ r = property.toList ++
      '=' :: '~' :: '/' :: (pattern.toList ++ '/' :: ((flags.getD "").toList ++ r)) := by
    simp [print]
  have hsign : ∀ s, splitSign ('=' :: '~' :: '/' :: s) = (['=', '~'], '/' :: s) := fun _ => rfl
  rw [hsource, tokens_operator h (hsign _) (List.cons_ne_nil _ _), String.ofList_toList]

/-- The text of a condition that is legible and closed has the tokens of the condition, whatever follows
it other than a flag. -/
theorem tokens_print {a : Condition} (h : a.Legible) (hclosed : a.Closed) {r : List Char}
    (hr : NoFlagFirst r) : tokens (a.print ++ r) = a.printTokens ++ tokens r := by
  induction a generalizing r with
  | compare property op value =>
    exact tokens_print_compare (h.names property List.mem_cons_self) op value r
  | regex property pattern flags =>
    have hmem : (pattern, flags) ∈ (regex property pattern flags).regexes := List.mem_cons_self
    have hflags : ∀ c ∈ (flags.getD "").toList, isFlag c = true := by
      cases flags with
      | none => exact nofun
      | some f => exact (h.flags _ hmem f rfl).2
    rw [tokens_print_regex (h.names property List.mem_cons_self),
      tokens_regex (h.bodies _ hmem) (hclosed _ hmem) hflags hr, String.ofList_toList,
      String.ofList_toList]
    rfl
  | not a ih =>
    rw [tokens_print_not, tokens_parenthesise a.isJoined (fun _ hr => ih (legible_not.1 h) hclosed hr) hr]
    rfl
  | and a b iha ihb =>
    obtain ⟨ha, hb⟩ := legible_and.1 h
    obtain ⟨hclosedA, hclosedB⟩ := closed_and.1 hclosed
    rw [print_and_append,
      tokens_parenthesise a.isOr (fun _ hr => iha ha hclosedA hr) (noFlagFirst_cons rfl _),
      tokens_spaced rfl fun _ => rfl,
      tokens_parenthesise b.isJoined (fun _ hr => ihb hb hclosedB hr) hr]
    simp [printTokens]
  | or a b iha ihb =>
    obtain ⟨ha, hb⟩ := legible_or.1 h
    obtain ⟨hclosedA, hclosedB⟩ := closed_or.1 hclosed
    rw [print_or_append,
      tokens_parenthesise false (fun _ hr => iha ha hclosedA hr) (noFlagFirst_cons rfl _),
      tokens_spaced rfl fun _ => rfl,
      tokens_parenthesise b.isOr (fun _ hr => ihb hb hclosedB hr) hr]
    simp [printTokens, inParens]

end Condition

end PagePolicy
