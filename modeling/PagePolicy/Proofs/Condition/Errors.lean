import PagePolicy.Proofs.Condition.Progress
import PagePolicy.Proofs.Condition.Spans

/-! Where the errors of the parser point. A text that writes no condition has a first token that cannot be
continued, and the error names this token and its place. Only a group that lacks its end is reported at its
start. -/

namespace PagePolicy.Condition

open Text

/-- Whether an error is about a token: it gives its start, and shows the token. The sign of a comparison that
there is not is shown without the property, and only there a comparison can be missing. -/
def ParseError.PointsAt (l : Lexeme) : ParseError → Prop
  | .unexpected position expected shown => position = l.start ∧
      (expected ≠ .comparison ∧ shown = l.token.describe ∨
        ∃ property sign, l.token = .operator property sign ∧ sign ≠ "=~" ∧ CompareOp.parse sign = none)
  | .unknownCharacter position c => position = l.start ∧ l.token = .unknown c
  | .trailingInput position shown => position = l.start ∧ shown = l.token.describe
  | .empty | .unclosedGroup _ => False

/-- Why the reading of a condition at the start of some tokens fails, the end of input being at the offset
`finish`: a token that cannot come next, however many groups were open before, or a group with nothing but a
condition up to the end of input. -/
inductive Fails (finish : Nat) (tokens : List Lexeme) : ParseError → Prop where
  | token (front later : List Lexeme) (l : Lexeme) {e : ParseError} :
      tokens ++ [.endAt finish] = front ++ l :: later → e.PointsAt l →
      (∀ depth, ∃ q, (Progress.mk .condition depth).run (front.map Lexeme.token) = some q ∧
        q.step l.token = none) →
      Fails finish tokens e
  | group (front : List Lexeme) {inner : List Lexeme} {opening : Lexeme} {a : Condition} :
      tokens = front ++ opening :: inner → opening.token = .leftParen →
      Writes (.chain .or) (inner.map Lexeme.token) a → Fails finish tokens (.unclosedGroup opening.start)

private theorem pointsAt_unexpectedToken {expected : Expectation} (h : expected ≠ .comparison) (l : Lexeme) :
    (unexpectedToken l.start expected l.token).PointsAt l := by
  obtain ⟨token, start, stop⟩ := l
  cases token with
  | unknown c => exact ⟨rfl, rfl⟩
  | _ => exact ⟨rfl, .inl ⟨h, rfl⟩⟩

section
variable {finish : Nat} {tokens : List Lexeme} {e : ParseError}

/-- What fails after some tokens fails with them, if a condition can come after them. -/
theorem Fails.append (front : List Lexeme) (h : Fails finish tokens e)
    (hfront : ∀ depth, ∃ depth', (Progress.mk .condition depth).run (front.map Lexeme.token) =
      some ⟨.condition, depth'⟩) : Fails finish (front ++ tokens) e := by
  cases h with
  | token middle later l htokens hpoints hstuck =>
    refine .token (front ++ middle) later l ?_ hpoints fun depth => ?_
    · rw [List.append_assoc, htokens, List.append_assoc]
    · obtain ⟨depth', hrun⟩ := hfront depth
      rw [List.map_append, Progress.run_append_of_eq hrun]
      exact hstuck depth'
  | group middle htokens hopening hwrites =>
    refine .group (front ++ middle) ?_ hopening hwrites
    rw [htokens, List.append_assoc]

/-- The next token, or the end of input, cannot come after the tokens that were read. -/
theorem fails_unexpected (front : List Lexeme) {expected : Expectation} (hexpected : expected ≠ .comparison)
    {awaited : Awaited}
    (hfront : ∀ depth, (Progress.mk .condition depth).run (front.map Lexeme.token) =
      some ⟨awaited, depth⟩)
    (hnext : ∀ l ∈ tokens.head?, ∀ depth, (Progress.mk awaited depth).step l.token = none) :
    Fails finish (front ++ tokens) (unexpected finish expected tokens) := by
  cases tokens with
  | nil =>
    refine .token front [] (.endAt finish) ?_ ?_ fun depth => ?_
    · rw [List.append_nil]
    · exact pointsAt_unexpectedToken hexpected (.endAt finish)
    · exact ⟨_, hfront depth, by cases awaited <;> rfl⟩
  | cons l later =>
    refine .token front (later ++ [.endAt finish]) l ?_ (pointsAt_unexpectedToken hexpected l) fun depth => ?_
    · rw [List.append_assoc, List.cons_append]
    · exact ⟨_, hfront depth, hnext l rfl depth⟩

end

/-! ### The parser -/

/-- Whether a chain of a connective is over before some tokens. -/
def Connective.OverBefore (k : Connective) (rest : List Lexeme) : Prop :=
  k.EndsBefore rest ∧ ∀ l ∈ rest.head?, l.token ≠ k.token

/-- What a reading tells about the tokens: where it failed, or that it stopped at a place where it is over. -/
def Located (finish : Nat) (ends : List Lexeme → Prop) {tokens : List Lexeme} :
    Except ParseError (Parsed tokens) → Prop
  | .error e => Fails finish tokens e
  | .ok p => ends p.rest

section
variable {finish : Nat} {first : Lexeme}

/-- The first token of a test asks for another one, which does not follow. -/
private theorem fails_after {rest : List Lexeme} {awaited : Awaited}
    (hfirst : ∀ depth, (Progress.mk .condition depth).step first.token = some ⟨awaited, depth⟩)
    {expected : Expectation} (hexpected : expected ≠ .comparison)
    (hnext : ∀ token start stop later, rest = ⟨token, start, stop⟩ :: later →
      ∀ depth, (Progress.mk awaited depth).step token = none) :
    Fails finish (first :: rest) (unexpected finish expected rest) := by
  refine fails_unexpected [first] hexpected
    (fun depth => (Progress.run_singleton ..).trans (hfirst depth)) fun l hl => ?_
  obtain ⟨later, hrest⟩ := List.head?_eq_some_iff.1 hl
  exact hnext l.token l.start l.stop later hrest

private theorem located_parseRegex {expected : Expectation} (hexpected : expected ≠ .comparison)
    (property : String)
    (hfirst : ∀ depth, (Progress.mk .condition depth).step first.token = some ⟨.regex, depth⟩)
    (rest : List Lexeme) :
    Located finish (fun _ => True) (parseRegex finish expected property first rest) := by
  unfold parseRegex
  split
  next => trivial
  next hregex =>
    refine fails_after hfirst hexpected fun token start stop later hrest depth => ?_
    cases token with
    | regex pattern flags => exact absurd hrest (hregex pattern flags start stop later)
    | _ => rfl

private theorem located_parseComparison (property : String) (op : CompareOp)
    (hfirst : ∀ depth, (Progress.mk .condition depth).step first.token = some ⟨.text, depth⟩)
    (rest : List Lexeme) :
    Located finish (fun _ => True) (parseComparison finish property op first rest) := by
  unfold parseComparison
  split
  next => trivial
  next htext =>
    refine fails_after hfirst Expectation.noConfusion fun token start stop later hrest depth => ?_
    cases token with
    | text value => exact absurd hrest (htext value start stop later)
    | _ => rfl

/-- After the conditions in a group there comes neither a sign nor the end of the group. -/
private theorem located_closeGroup {rest : List Lexeme} {group : Parsed rest}
    (hfirst : first.token = .leftParen) (hreads : group.Reads (.chain .or))
    (hover : Connective.or.OverBefore group.rest) :
    Located finish (fun _ => True) (closeGroup first group) := by
  obtain ⟨front, hrest, hwrites⟩ := hreads
  unfold closeGroup
  split
  next hnil =>
    rw [hnil, List.append_nil] at hrest
    rw [← hrest] at hwrites
    exact .group [] rfl hfirst hwrites
  next close later hlater =>
    split
    next => trivial
    next hclose =>
      rw [hlater] at hrest hover
      have hrun (depth : Nat) : (Progress.mk .condition depth).run ((first :: front).map Lexeme.token) =
          some ⟨.sign, depth + 1⟩ := by
        rw [List.map_cons, hfirst, Progress.run_cons]
        exact hwrites.run_eq (depth + 1)
      have hstep (depth : Nat) : (Progress.mk .sign (depth + 1)).step close.token = none :=
        Progress.step_sign_eq_none (hover.2 close rfl) (hover.1 rfl close rfl) fun h => absurd h hclose
      refine .token (first :: front) (later ++ [.endAt finish]) close ?_
        (pointsAt_unexpectedToken Expectation.noConfusion close) fun depth => ⟨_, hrun depth, hstep depth⟩
      rw [hrest]
      simp

/-- What is wrong after a sign is wrong with the chain before the sign. -/
private theorem fails_after_sign {k : Connective} {tokens later : List Lexeme} {group : Parsed tokens}
    {l : Lexeme} {e : ParseError} (h : group.rest = l :: later) (hsign : l.token = k.token)
    (hreads : group.Reads (.chain k)) (hlater : Fails finish later e) : Fails finish tokens e := by
  obtain ⟨front, htokens, hwrites⟩ := hreads
  have hsplit : tokens = front ++ [l] ++ later := by
    rw [List.append_assoc, List.singleton_append, ← h, ← htokens]
  have hrun (depth : Nat) : (Progress.mk .condition depth).run ((front ++ [l]).map Lexeme.token) =
      some ⟨.condition, depth⟩ := by
    rw [List.map_append, Progress.run_append_of_eq (hwrites.run_eq depth), List.map_singleton, hsign,
      Progress.run_singleton]
    cases k <;> rfl
  rw [hsplit]
  exact hlater.append _ fun depth => ⟨depth, hrun depth⟩

variable {rest : List Lexeme}

private theorem located_negation (hfirst : first.token = .not)
    (h : Located finish (fun _ => True) (parseUnit finish rest)) :
    Located finish (fun _ => True) (parseUnit finish (first :: rest)) := by
  rw [parseUnit]
  simp only [hfirst]
  split
  next e herror =>
    rw [herror] at h
    refine Fails.append [first] h fun depth => ⟨depth, ?_⟩
    rw [List.map_singleton, hfirst]
    rfl
  next => trivial

private theorem located_group (hfirst : first.token = .leftParen)
    (h : Located finish Connective.or.OverBefore (parseChain finish .or rest)) :
    Located finish (fun _ => True) (parseUnit finish (first :: rest)) := by
  have hsound := (parse_sound finish).1 .or rest
  rw [parseUnit]
  simp only [hfirst]
  split
  next e herror =>
    rw [herror] at h
    refine Fails.append [first] h fun depth => ⟨depth + 1, ?_⟩
    rw [List.map_singleton, hfirst]
    rfl
  next group hread =>
    rw [hread] at h hsound
    exact located_closeGroup hfirst hsound h

/-- A test fails at its sign or behind it, and what begins no condition is wrong itself. -/
private theorem located_test (hnot : first.token ≠ .not) (hparen : first.token ≠ .leftParen)
    (rest : List Lexeme) : Located finish (fun _ => True) (parseUnit finish (first :: rest)) := by
  rw [parseUnit]
  split
  next hl => exact absurd hl hnot
  next hl => exact absurd hl hparen
  next property sign hl =>
    split
    next hsign =>
      subst hsign
      exact located_parseRegex Expectation.noConfusion property (fun depth => by rw [hl]; rfl) rest
    next hsign =>
      split
      next hnone =>
        refine .token [] (rest ++ [.endAt finish]) first rfl
          ⟨rfl, .inr ⟨property, sign, hl, hsign, hnone⟩⟩ fun depth => ⟨_, rfl, ?_⟩
        rw [hl, Progress.step, if_neg hsign, hnone]
        rfl
      next op hop =>
        refine located_parseComparison property op (fun depth => ?_) rest
        rw [hl, Progress.step, if_neg hsign, hop]
        rfl
  next property hl =>
    exact located_parseRegex Expectation.noConfusion property (fun depth => by rw [hl]; rfl) rest
  next => trivial
  next hoperator hidentifier hregex =>
    refine fails_unexpected [] Expectation.noConfusion (fun _ => rfl) ?_
    rintro _ ⟨⟩ depth
    generalize first.token = t at hnot hparen hoperator hidentifier hregex
    cases t with
    | not => exact absurd rfl hnot
    | leftParen => exact absurd rfl hparen
    | operator property sign => exact (hoperator property sign rfl).elim
    | identifier property => exact (hidentifier property rfl).elim
    | regex pattern flags => exact (hregex pattern flags rfl).elim
    | _ => rfl

end

/-- Every step of the parser fails where a token cannot come next, or stops where the condition is over. -/
theorem parse_located (finish : Nat) :
    (∀ k tokens, Located finish k.OverBefore (parseChain finish k tokens)) ∧
      (∀ k tokens (first : Parsed tokens), first.Reads (.chain k) → k.EndsBefore first.rest →
        Located finish k.OverBefore (parseMore finish k first)) ∧
      (∀ k tokens, Located finish k.EndsBefore (parseOperand finish k tokens)) ∧
      ∀ tokens, Located finish (fun _ => True) (parseUnit finish tokens) := by
  have hoperand {k : Connective} {tokens : List Lexeme} {p : Parsed tokens}
      (h : parseOperand finish k tokens = .ok p) : p.Reads k.operand := by
    have hsound := (parse_sound finish).2.2.1 k tokens
    rwa [h] at hsound
  apply parseChain.mutual_induct finish
    (fun k tokens => Located finish k.OverBefore (parseChain finish k tokens))
    (fun k _ first => first.Reads (.chain k) → k.EndsBefore first.rest →
      Located finish k.OverBefore (parseMore finish k first))
    (fun k tokens => Located finish k.EndsBefore (parseOperand finish k tokens))
    (fun tokens => Located finish (fun _ => True) (parseUnit finish tokens))
  case _ => -- a chain whose first operand is wrong
    intro k tokens e h ih
    rw [parseChain]
    rw [h] at ih ⊢
    exact ih
  case _ => -- a chain and more of it
    intro k tokens first h ih ihmore
    rw [parseChain]
    rw [h] at ih ⊢
    obtain ⟨front, htokens, hwrites⟩ := hoperand h
    exact ihmore ⟨front, htokens, .single hwrites⟩ ih
  case _ => -- no token after the chain
    intro k tokens first h hreads hends
    rw [parseMore_nil h]
    refine ⟨hends, ?_⟩
    rw [h]
    rintro l ⟨⟩
  case _ => -- a sign after the chain, and a wrong operand
    intro k tokens first l later h hsign e hlater ih hreads hends
    rw [parseMore_cons h, if_pos hsign]
    rw [hlater] at ih ⊢
    exact fails_after_sign h hsign hreads ih
  case _ => -- a sign after the chain, and an operand
    intro k tokens first l later h hsign second hlater ih ihmore hreads hends
    rw [parseMore_cons h, if_pos hsign]
    rw [hlater] at ih ⊢
    exact ihmore (join_reads h hsign hreads (hoperand hlater)) ih
  case _ => -- another token after the chain
    intro k tokens first l later h hsign hreads hends
    rw [parseMore_cons h, if_neg hsign]
    refine ⟨hends, fun l' hl' => ?_⟩
    rw [h] at hl'
    cases hl'
    exact hsign
  case _ => -- the operand of an alternative
    intro tokens ih
    rw [parseOperand]
    generalize parseChain finish .and tokens = result at ih ⊢
    cases result with
    | error e => exact ih
    | ok p => exact fun _ => ih.2
  case _ => -- the operand of a conjunction
    intro tokens ih
    rw [parseOperand]
    generalize parseUnit finish tokens = result at ih ⊢
    cases result with
    | error e => exact ih
    | ok p => rintro ⟨⟩
  case _ => -- no token for a unit
    rw [parseUnit]
    exact fails_unexpected [] Expectation.noConfusion (fun _ => rfl) (by rintro l ⟨⟩)
  -- a negation, of what is wrong and of a unit
  case _ => exact fun l rest hl e h ih => located_negation hl ih
  case _ => exact fun l rest hl a h ih => located_negation hl ih
  -- a parenthesis, before what is wrong and before a group
  case _ => exact fun l rest hl e h ih => located_group hl ih
  case _ => exact fun l rest hl group h ih => located_group hl ih
  -- a test, or a token that begins none
  case _ => exact fun l rest property hl => located_test (by simp [hl]) (by simp [hl]) rest
  case _ => exact fun l rest property sign hl hsign hnone => located_test (by simp [hl]) (by simp [hl]) rest
  case _ => exact fun l rest property sign hl hsign op hop => located_test (by simp [hl]) (by simp [hl]) rest
  case _ => exact fun l rest property hl => located_test (by simp [hl]) (by simp [hl]) rest
  case _ => exact fun l rest pattern flags hl => located_test (by simp [hl]) (by simp [hl]) rest
  case _ => exact fun l rest hnot hparen _ _ _ => located_test hnot hparen rest

/-- The error of some tokens that write no condition. -/
theorem ofLexemes_eq_error {finish : Nat} {tokens : List Lexeme} {e : ParseError}
    (h : ofLexemes finish tokens = .error e) :
    (∃ front l later, tokens ++ [.endAt finish] = front ++ l :: later ∧ e.PointsAt l ∧
      ∃ q, Progress.start.run (front.map Lexeme.token) = some q ∧ q.step l.token = none) ∨
    ∃ front opening inner a, tokens = front ++ opening :: inner ∧ opening.token = .leftParen ∧
      Writes (.chain .or) (inner.map Lexeme.token) a ∧ e = .unclosedGroup opening.start := by
  have hlocated := (parse_located finish).1 .or tokens
  have hsound := (parse_sound finish).1 .or tokens
  rw [ofLexemes] at h
  generalize parseChain finish .or tokens = result at h hlocated hsound
  cases result with
  | error e' =>
    obtain rfl : e' = e := Except.error.inj h
    cases hlocated with
    | token _ _ _ htokens hpoints hstuck => exact .inl ⟨_, _, _, htokens, hpoints, hstuck 0⟩
    | group _ htokens hopening hwrites => exact .inr ⟨_, _, _, _, htokens, hopening, hwrites, rfl⟩
  | ok p =>
    obtain ⟨front, htokens, hwrites⟩ := hsound
    have hend (l : Lexeme) (later : List Lexeme) (hrest : p.rest = l :: later) (hpoints : e.PointsAt l) :
        ∃ front l later, tokens ++ [.endAt finish] = front ++ l :: later ∧ e.PointsAt l ∧
          ∃ q, Progress.start.run (front.map Lexeme.token) = some q ∧ q.step l.token = none := by
      have hover : Connective.or.OverBefore (l :: later) := hrest ▸ hlocated
      refine ⟨front, l, later ++ [.endAt finish], ?_, hpoints, _, hwrites.run_eq 0, ?_⟩
      · rw [htokens, hrest]
        simp
      · exact Progress.step_sign_eq_none (hover.2 l rfl) (hover.1 rfl l rfl) fun _ => rfl
    left
    simp only at h
    split at h
    next => cases h
    next c start stop later hrest =>
      obtain rfl := Except.error.inj h
      exact hend _ _ hrest ⟨rfl, rfl⟩
    next token start stop later hunknown hrest =>
      obtain rfl := Except.error.inj h
      exact hend _ _ hrest ⟨rfl, rfl⟩

/-! ### The tokens of a text -/

/-- What a sign can go on with is one of some letters. -/
theorem splitSuffix_cases (letters sign s : List Char) :
    (splitSuffix letters sign s).1 = sign ∨ ∃ c ∈ letters, (splitSuffix letters sign s).1 = sign ++ [c] := by
  fun_cases splitSuffix letters sign s with
  | case1 => exact .inl rfl
  | case2 c s hc => exact .inr ⟨c, hc, rfl⟩
  | case3 c s hc => exact .inl rfl

/-- A sign after a name is that of a regular expression or of a comparison that there is. -/
theorem splitSign_cases (s : List Char) :
    (splitSign s).1 = [] ∨ String.ofList (splitSign s).1 = "=~" ∨
      (CompareOp.parse (String.ofList (splitSign s).1)).isSome := by
  have hknown {letters sign : List Char} (s : List Char)
      (hsign : ∀ t ∈ sign :: letters.map fun c => sign ++ [c],
        String.ofList t = "=~" ∨ (CompareOp.parse (String.ofList t)).isSome) :
      String.ofList (splitSuffix letters sign s).1 = "=~" ∨
        (CompareOp.parse (String.ofList (splitSuffix letters sign s).1)).isSome := by
    rcases splitSuffix_cases letters sign s with h | ⟨c, hc, h⟩
    · rw [h]
      exact hsign _ List.mem_cons_self
    · rw [h]
      exact hsign _ (List.mem_cons_of_mem _ (List.mem_map_of_mem hc))
  fun_cases splitSign s with
  | case5 => exact .inl rfl
  | _ => exact .inr (hknown _ (by decide))

theorem sign_of_scan {s : List Char} {property sign : String}
    (h : (scan s).token = .operator property sign) : sign = "=~" ∨ (CompareOp.parse sign).isSome := by
  obtain ⟨first, later, rfl, hscan⟩ := exists_scanName fun hnone => nomatch (h ▸ hnone : some _ = none)
  rw [hscan, scanName_token] at h
  split at h
  next => cases h
  next hsign =>
    cases h
    exact (splitSign_cases _).resolve_left hsign

/-- A character that begins no other token is a token on its own. -/
theorem eq_cons_of_scan_unknown {s : List Char} {c : Char} (h : (scan s).token = .unknown c) :
    ∃ rest, s = c :: rest := by
  revert h
  fun_cases scan s with
  | case7 c s =>
    rw [scanText_token]
    rintro ⟨⟩
  | case8 s =>
    rw [scanRegex_token]
    rintro ⟨⟩
  | case9 c s =>
    rw [scanName_token]
    split <;> rintro ⟨⟩
  | case10 c s =>
    rintro ⟨⟩
    exact ⟨s, rfl⟩
  | _ => rintro ⟨⟩

section
variable {n : Nat} {s : List Char} {l : Lexeme} (h : l ∈ (lexemesFrom n s).1)
include h

private theorem token_ne_endOfInput_of_mem : l.token ≠ .endOfInput := by
  obtain ⟨before, rest, rfl, hne, htoken, -⟩ := exists_scan_of_mem h
  rw [htoken]
  exact scan_token_ne_endOfInput hne

private theorem sign_of_mem {property sign : String} (hsign : l.token = .operator property sign) :
    sign = "=~" ∨ (CompareOp.parse sign).isSome := by
  obtain ⟨before, rest, rfl, -, htoken, -⟩ := exists_scan_of_mem h
  exact sign_of_scan (htoken.symm.trans hsign)

/-- An unknown character is the character that stands where its token starts. -/
theorem between_of_unknown {c : Char} (hc : l.token = .unknown c) :
    ∃ before after, s = before ++ ([c] ++ after) ∧ n + byteLength before = l.start := by
  obtain ⟨before, rest, rfl, -, htoken, hstart⟩ := exists_scan_of_mem h
  obtain ⟨after, rfl⟩ := eq_cons_of_scan_unknown (htoken.symm.trans hc)
  exact ⟨before, after, rfl, hstart.symm⟩

end

private theorem mem_of_mem_lexemesToEnd {n : Nat} {s : List Char} {l : Lexeme} (h : l ∈ lexemesToEnd n s)
    (hl : l.token ≠ .endOfInput) : l ∈ (lexemesFrom n s).1 := by
  refine (List.mem_append.1 h).resolve_right fun hlast => hl ?_
  exact congrArg Lexeme.token (List.mem_singleton.1 hlast)

/-- The end of input comes after all other tokens. -/
theorem lexemesFrom_of_endOfInput {n : Nat} {s : List Char} {front later : List Lexeme} {l : Lexeme}
    (hfound : lexemesToEnd n s = front ++ l :: later) (hl : l.token = .endOfInput) :
    (lexemesFrom n s).1 = front := by
  rcases List.eq_nil_or_concat later with rfl | ⟨middle, last, rfl⟩
  · exact List.append_inj_left' hfound rfl
  · rw [List.concat_eq_append, ← List.cons_append, ← List.append_assoc] at hfound
    have hfront : (lexemesFrom n s).1 = front ++ l :: middle := List.append_inj_left' hfound rfl
    have hmem : l ∈ (lexemesFrom n s).1 := by
      rw [hfront]
      exact List.mem_append_right _ List.mem_cons_self
    exact absurd hl (token_ne_endOfInput_of_mem hmem)

/-! ### What an error tells -/

/-- Whether a token is the first that cannot be continued: the tokens before it begin a condition, and with it
they begin none. The end of input is such a token if those before it write no condition. -/
structure FirstWrong (front : List Lexeme) (l : Lexeme) : Prop where
  begins : ∃ us a, Writes (.chain .or) (front.map Lexeme.token ++ us) a
  stuck : ∀ us a, ¬ Writes (.chain .or) (front.map Lexeme.token ++ l.token :: us) a
  ended : l.token = .endOfInput → ∀ a, ¬ Writes (.chain .or) (front.map Lexeme.token) a

/-- What an error tells about the tokens of a text, the last of which is the end of input. -/
def ParseError.Explains (s : List Char) (found : List Lexeme) : ParseError → Prop
  | .empty => ∃ last, found = [last]
  | .unexpected position _ shown | .trailingInput position shown =>
    ∃ front l later, found = front ++ l :: later ∧ FirstWrong front l ∧
      l.start = position ∧ l.token.describe = shown
  | .unknownCharacter position c =>
    ∃ front l later, found = front ++ l :: later ∧ FirstWrong front l ∧
      l.start = position ∧ l.token = .unknown c ∧ ∃ stop, Between s position stop [c]
  | .unclosedGroup position =>
    ∃ front opening inner last a, found = front ++ opening :: (inner ++ [last]) ∧
      opening.start = position ∧ opening.token = .leftParen ∧ last.token = .endOfInput ∧
      Writes (.chain .or) (inner.map Lexeme.token) a

/-- A token that the parser cannot take is the first wrong one. -/
theorem firstWrong_of_step {s : List Char} {front later : List Lexeme} {l : Lexeme} {q : Progress}
    {e : ParseError} (herror : ofLexemes (lexemesFrom 0 s).2 (lexemesFrom 0 s).1 = .error e)
    (hfound : lexemesToEnd 0 s = front ++ l :: later)
    (hrun : Progress.start.run (front.map Lexeme.token) = some q) (hstep : q.step l.token = none) :
    FirstWrong front l where
  begins := (exists_writes_append_iff _).2 (Option.isSome_iff_exists.2 ⟨q, hrun⟩)
  stuck := not_writes_of_step hrun hstep
  ended := by
    intro hend a hwrites
    have hfront := lexemesFrom_of_endOfInput hfound hend
    rw [← hfront, ← ofLexemes_eq_ok_iff (lexemesFrom 0 s).2, herror] at hwrites
    cases hwrites

/-- The signs in a text are known ones, so that the tokens of a text are shown as a whole, and it is never a
comparison that is missing. -/
theorem ParseError.PointsAt.known {s : List Char} {l : Lexeme} {position : Nat} {expected : Expectation}
    {shown : String} (h : (ParseError.unexpected position expected shown).PointsAt l)
    (hl : l ∈ lexemesToEnd 0 s) : expected ≠ .comparison ∧ shown = l.token.describe := by
  refine h.2.resolve_right ?_
  rintro ⟨property, sign, htoken, hsign, hnone⟩
  have hknown := sign_of_mem (mem_of_mem_lexemesToEnd hl (by rw [htoken]; exact Token.noConfusion)) htoken
  rw [hnone] at hknown
  exact hknown.elim hsign Bool.false_ne_true

/-- What the error about some token tells. -/
theorem ParseError.PointsAt.explains {s : List Char} {front later : List Lexeme} {l : Lexeme}
    {e : ParseError} (h : e.PointsAt l) (hfound : lexemesToEnd 0 s = front ++ l :: later)
    (hwrong : FirstWrong front l) : e.Explains s (lexemesToEnd 0 s) := by
  have hmem : l ∈ lexemesToEnd 0 s := by
    rw [hfound]
    exact List.mem_append_right _ List.mem_cons_self
  cases e with
  | empty => exact h.elim
  | unclosedGroup position => exact h.elim
  | trailingInput position shown => exact ⟨front, l, later, hfound, hwrong, h.1.symm, h.2.symm⟩
  | unexpected position expected shown =>
    exact ⟨front, l, later, hfound, hwrong, h.1.symm, (h.known hmem).2.symm⟩
  | unknownCharacter position c =>
    obtain ⟨hposition, hl⟩ := h
    obtain ⟨before, after, hs, hstart⟩ :=
      between_of_unknown (mem_of_mem_lexemesToEnd hmem (by rw [hl]; exact Token.noConfusion)) hl
    rw [Nat.zero_add, ← hposition] at hstart
    exact ⟨front, l, later, hfound, hwrong, hposition.symm, hl, _, before, after, hs, hstart, rfl⟩

/-- A text that writes no condition is refused for the first token that cannot be continued, or for a group that
lacks nothing but its end. -/
theorem parse_error_explains {text : String} {e : ParseError} (h : parse text = .error e) :
    ∃ found, (∀ passed, (TokenReader.ofText text).Passes passed ↔ passed = found) ∧
      e.Explains text.toList found := by
  refine ⟨lexemesToEnd 0 text.toList, (TokenReader.StandsAt.ofText text).passes_iff, ?_⟩
  rw [parse, lexemes] at h
  split at h
  next finish hnone =>
    obtain rfl := Except.error.inj h
    exact ⟨.endAt finish, by rw [lexemesToEnd, hnone]; rfl⟩
  next found finish _ hfound =>
    have herror : ofLexemes (lexemesFrom 0 text.toList).2 (lexemesFrom 0 text.toList).1 = .error e := by
      rwa [hfound]
    rcases ofLexemes_eq_error herror with
      ⟨front, l, later, hsplit, hpoints, q, hrun, hstep⟩ | ⟨front, opening, inner, a, hsplit, hopening, hwrites, rfl⟩
    · exact hpoints.explains hsplit (firstWrong_of_step herror hsplit hrun hstep)
    · refine ⟨front, opening, inner, .endAt (lexemesFrom 0 text.toList).2, a, ?_, rfl, hopening, rfl,
        hwrites⟩
      rw [lexemesToEnd, hsplit, List.append_assoc, List.cons_append]

/-- The outer of two open groups is not reported, and neither is a group that lacks more than its end. -/
theorem parse_error_explains_groups :
    (parse "!(/a/ | (b/c/i" = .error (.unclosedGroup 8) ∧
      ∃ found, (∀ passed, (TokenReader.ofText "!(/a/ | (b/c/i").Passes passed ↔ passed = found) ∧
        (ParseError.unclosedGroup 8).Explains "!(/a/ | (b/c/i".toList found) ∧
      parse "é=\"\"" = .error (.unknownCharacter 0 'é') ∧
      (∃ found, (∀ passed, (TokenReader.ofText "é=\"\"").Passes passed ↔ passed = found) ∧
        (ParseError.unknownCharacter 0 'é').Explains "é=\"\"".toList found) ∧
      parse "(t=\"é\" & b" =
        .error (.unexpected 11 .regexAfterIdentifier "end of input") ∧
      ∃ found, (∀ passed, (TokenReader.ofText "(t=\"é\" & b").Passes passed ↔ passed = found) ∧
        (ParseError.unexpected 11 .regexAfterIdentifier "end of input").Explains
          "(t=\"é\" & b".toList found := by
  have hgroup : parse "!(/a/ | (b/c/i" = .error (.unclosedGroup 8) := by decide +kernel
  have hunknown : parse "é=\"\"" = .error (.unknownCharacter 0 'é') := by decide +kernel
  have hend : parse "(t=\"é\" & b" =
      .error (.unexpected 11 .regexAfterIdentifier "end of input") := by decide +kernel
  exact ⟨⟨hgroup, parse_error_explains hgroup⟩, hunknown, parse_error_explains hunknown, hend,
    parse_error_explains hend⟩

end PagePolicy.Condition
