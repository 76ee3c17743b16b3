import PagePolicy.Condition.Parser
import PagePolicy.Proofs.Condition.Tokens

/-! The grammar of conditions, and the parser as its decision: what it reads is derived, what is derived
it reads, and so no tokens write two conditions. -/

namespace PagePolicy.Condition

/-- The kinds of phrases, from the loosest to the tightest: a chain of alternatives or of conjunctions, what
a negation can stand before, and a test or a group. -/
inductive Level where
  | chain (k : Connective)
  | unit
  | primary

/-- The phrases that a connective joins. -/
def Connective.operand : Connective → Level
  | or => .chain and
  | and => .unit

/-- Which tokens write which condition. A chain has one operand or more, and groups to the left. -/
inductive Writes : Level → List Token → Condition → Prop where
  | single {k : Connective} {ts : List Token} {a : Condition} :
      Writes k.operand ts a → Writes (.chain k) ts a
  | join {k : Connective} {ts us : List Token} {a b : Condition} :
      Writes (.chain k) ts a → Writes k.operand us b →
        Writes (.chain k) (ts ++ k.token :: us) (k.join a b)
  | not {ts : List Token} {a : Condition} : Writes .unit ts a → Writes .unit (.not :: ts) (.not a)
  | primary {ts : List Token} {a : Condition} : Writes .primary ts a → Writes .unit ts a
  | group {ts : List Token} {a : Condition} :
      Writes (.chain .or) ts a → Writes .primary (.leftParen :: (ts ++ [.rightParen])) a
  | comparison {property sign value : String} {op : CompareOp} :
      sign ≠ "=~" → CompareOp.parse sign = some op →
        Writes .primary [.operator property sign, .text value] (compare property op value)
  | regexOperator {property pattern flags : String} :
      Writes .primary [.operator property "=~", .regex pattern flags] (ofRegex property pattern flags)
  | regexIdentifier {property pattern flags : String} :
      Writes .primary [.identifier property, .regex pattern flags] (ofRegex property pattern flags)
  | regexUrl {pattern flags : String} :
      Writes .primary [.regex pattern flags] (ofRegex Properties.urlName pattern flags)

/-! ### What the parser reads is derived -/

/-- Whether the tokens before the rest write the condition that was read. -/
def Parsed.Reads {tokens : List Lexeme} (level : Level) (p : Parsed tokens) : Prop :=
  ∃ front, tokens = front ++ p.rest ∧ Writes level (front.map Lexeme.token) p.condition

/-- What a reading gives: a cause of failure other than the lack of tokens, or a condition that is
derived. -/
def Sound (level : Level) {tokens : List Lexeme} : Except ParseError (Parsed tokens) → Prop
  | .error e => e ≠ .empty
  | .ok p => p.Reads level

private theorem unexpectedToken_ne_empty (position : Nat) (expected : Expectation) (token : Token) :
    unexpectedToken position expected token ≠ .empty := by
  fun_cases unexpectedToken position expected token <;> exact ParseError.noConfusion

private theorem unexpected_ne_empty (finish : Nat) (expected : Expectation) (tokens : List Lexeme) :
    unexpected finish expected tokens ≠ .empty := by
  cases tokens with
  | nil => exact unexpectedToken_ne_empty finish expected .endOfInput
  | cons l rest => exact unexpectedToken_ne_empty l.start expected l.token

private theorem parseRegex_sound {finish : Nat} {expected : Expectation} {property : String}
    {first : Lexeme}
    (h : ∀ pattern flags, Writes .primary [first.token, .regex pattern flags]
      (ofRegex property pattern flags)) (rest : List Lexeme) :
    Sound .unit (parseRegex finish expected property first rest) := by
  unfold parseRegex
  split
  next pattern flags start stop rest =>
    exact ⟨[first, ⟨.regex pattern flags, start, stop⟩], rfl, .primary (h pattern flags)⟩
  next => exact unexpected_ne_empty finish expected rest

private theorem parseComparison_sound {finish : Nat} {property : String} {op : CompareOp}
    {first : Lexeme}
    (h : ∀ value, Writes .primary [first.token, .text value] (compare property op value))
    (rest : List Lexeme) :
    Sound .unit (parseComparison finish property op first rest) := by
  unfold parseComparison
  split
  next value start stop rest =>
    exact ⟨[first, ⟨.text value, start, stop⟩], rfl, .primary (h value)⟩
  next => exact unexpected_ne_empty finish .quotedString rest

private theorem closeGroup_sound {first : Lexeme} {rest : List Lexeme} {group : Parsed rest}
    (hfirst : first.token = .leftParen) (h : group.Reads (.chain .or)) :
    Sound .unit (closeGroup first group) := by
  obtain ⟨front, hrest, hwrites⟩ := h
  unfold closeGroup
  split
  next => exact ParseError.noConfusion
  next close later hlater =>
    split
    next hclose =>
      refine ⟨first :: (front ++ [close]), ?_, .primary ?_⟩
      · calc
          first :: rest = first :: (front ++ close :: later) := by rw [← hlater, ← hrest]
          _ = first :: (front ++ [close]) ++ later := by simp
      · have hgroup := Writes.group hwrites
        simpa [hfirst, hclose] using hgroup
    next => exact unexpectedToken_ne_empty _ _ _

theorem join_reads {tokens later : List Lexeme} {l : Lexeme} {k : Connective}
    {first : Parsed tokens} (h : first.rest = l :: later) {second : Parsed later}
    (hsign : l.token = k.token) (hfirst : first.Reads (.chain k)) (hsecond : second.Reads k.operand) :
    (first.join k h second).Reads (.chain k) := by
  obtain ⟨front, htokens, hwrites⟩ := hfirst
  obtain ⟨middle, hlater, hwrites'⟩ := hsecond
  refine ⟨front ++ l :: middle, ?_, ?_⟩
  · calc
      tokens = front ++ l :: (middle ++ second.rest) := by rw [← hlater, ← h, ← htokens]
      _ = (front ++ l :: middle) ++ second.rest := by simp
  · rw [List.map_append, List.map_cons, hsign]
    exact .join hwrites hwrites'

theorem parseMore_nil {finish : Nat} {k : Connective} {tokens : List Lexeme} {first : Parsed tokens}
    (h : first.rest = []) : parseMore finish k first = .ok first := by
  rw [parseMore]
  split
  next => rfl
  next l later hrest => exact absurd (hrest.symm.trans h) (List.cons_ne_nil l later)

theorem parseMore_cons {finish : Nat} {k : Connective} {tokens later : List Lexeme}
    {first : Parsed tokens} {l : Lexeme} (h : first.rest = l :: later) :
    parseMore finish k first =
      if l.token = k.token then
        match parseOperand finish k later with
        | .error e => .error e
        | .ok second => parseMore finish k (first.join k h second)
      else .ok first := by
  rw [parseMore]
  split
  next hrest => exact absurd (h.symm.trans hrest) (List.cons_ne_nil l later)
  next l' later' hrest =>
    obtain ⟨rfl, rfl⟩ := List.cons.inj (h.symm.trans hrest)
    rfl

section
variable {finish : Nat} {l : Lexeme} {rest : List Lexeme}

private theorem sound_negation (hl : l.token = .not) (h : Sound .unit (parseUnit finish rest)) :
    Sound .unit (parseUnit finish (l :: rest)) := by
  rw [parseUnit]
  simp only [hl]
  split
  next e herror =>
    rw [herror] at h
    exact h
  next a hread =>
    rw [hread] at h
    obtain ⟨front, hrest, hwrites⟩ := h
    refine ⟨l :: front, congrArg (l :: ·) hrest, ?_⟩
    rw [List.map_cons, hl]
    exact .not hwrites

private theorem sound_group (hl : l.token = .leftParen) (h : Sound (.chain .or) (parseChain finish .or rest)) :
    Sound .unit (parseUnit finish (l :: rest)) := by
  rw [parseUnit]
  simp only [hl]
  split
  next e herror =>
    rw [herror] at h
    exact h
  next group hread =>
    rw [hread] at h
    exact closeGroup_sound hl h

/-- A test is read without reading a condition in it. -/
private theorem sound_test (hnot : l.token ≠ .not) (hparen : l.token ≠ .leftParen) (rest : List Lexeme) :
    Sound .unit (parseUnit finish (l :: rest)) := by
  rw [parseUnit]
  split
  next hl => exact absurd hl hnot
  next hl => exact absurd hl hparen
  next property sign hl =>
    split
    next hsign =>
      subst hsign
      exact parseRegex_sound (fun pattern flags => hl ▸ .regexOperator) rest
    next hsign =>
      split
      next => exact ParseError.noConfusion
      next op hop => exact parseComparison_sound (fun value => hl ▸ .comparison hsign hop) rest
  next property hl => exact parseRegex_sound (fun pattern flags => hl ▸ .regexIdentifier) rest
  next pattern flags hl => exact ⟨[l], rfl, by rw [List.map_singleton, hl]; exact .primary .regexUrl⟩
  next => exact unexpectedToken_ne_empty _ _ _

end

/-- A step of the parser keeps to the grammar, and so does all that it reads. -/
theorem parse_sound (finish : Nat) :
    (∀ k tokens, Sound (.chain k) (parseChain finish k tokens)) ∧
      (∀ k tokens (first : Parsed tokens), first.Reads (.chain k) →
        Sound (.chain k) (parseMore finish k first)) ∧
      (∀ k tokens, Sound k.operand (parseOperand finish k tokens)) ∧
      ∀ tokens, Sound .unit (parseUnit finish tokens) := by
  apply parseChain.mutual_induct finish
    (fun k tokens => Sound (.chain k) (parseChain finish k tokens))
    (fun k _ first => first.Reads (.chain k) → Sound (.chain k) (parseMore finish k first))
    (fun k tokens => Sound k.operand (parseOperand finish k tokens))
    (fun tokens => Sound .unit (parseUnit finish tokens))
  case _ => -- a chain whose first operand is wrong
    intro k tokens e h ih
    rw [parseChain]
    rw [h] at ih ⊢
    exact ih
  case _ => -- a chain and more of it
    intro k tokens first h ih ihmore
    rw [parseChain]
    rw [h] at ih ⊢
    obtain ⟨front, htokens, hwrites⟩ := ih
    exact ihmore ⟨front, htokens, .single hwrites⟩
  case _ => -- no token after the chain
    intro k tokens first h hfirst
    rw [parseMore_nil h]
    exact hfirst
  case _ => -- a sign after the chain, and a wrong operand
    intro k tokens first l later h hsign e hoperand ih hfirst
    rw [parseMore_cons h, if_pos hsign]
    rw [hoperand] at ih ⊢
    exact ih
  case _ => -- a sign after the chain, and an operand
    intro k tokens first l later h hsign second hoperand ih ihmore hfirst
    rw [parseMore_cons h, if_pos hsign]
    rw [hoperand] at ih ⊢
    exact ihmore (join_reads h hsign hfirst ih)
  case _ => -- another token after the chain
    intro k tokens first l later h hsign hfirst
    rw [parseMore_cons h, if_neg hsign]
    exact hfirst
  case _ => -- the operand of an alternative
    intro tokens ih
    rw [parseOperand]
    exact ih
  case _ => -- the operand of a conjunction
    intro tokens ih
    rw [parseOperand]
    exact ih
  case _ => -- no token for a unit
    rw [parseUnit]
    exact unexpected_ne_empty finish .condition []
  -- a negation, of what is wrong and of a unit
  case _ => exact fun l rest hl e h ih => sound_negation hl ih
  case _ => exact fun l rest hl a h ih => sound_negation hl ih
  -- a parenthesis, before what is wrong and before a group
  case _ => exact fun l rest hl e h ih => sound_group hl ih
  case _ => exact fun l rest hl group h ih => sound_group hl ih
  -- a test, or a token that begins none
  case _ => exact fun l rest property hl => sound_test (by simp [hl]) (by simp [hl]) rest
  case _ => exact fun l rest property sign hl hsign hnone => sound_test (by simp [hl]) (by simp [hl]) rest
  case _ => exact fun l rest property sign hl hsign op hop => sound_test (by simp [hl]) (by simp [hl]) rest
  case _ => exact fun l rest property hl => sound_test (by simp [hl]) (by simp [hl]) rest
  case _ => exact fun l rest pattern flags hl => sound_test (by simp [hl]) (by simp [hl]) rest
  case _ => exact fun l rest hnot hparen _ _ _ => sound_test hnot hparen rest

/-! ### What is derived the parser reads -/

/-- Whether the operand of a connective is over before some tokens. No conjunction may go on after an
operand of an alternative. -/
def Connective.EndsBefore (k : Connective) (rest : List Lexeme) : Prop :=
  k = .or → ∀ l ∈ rest.head?, l.token ≠ .and

/-- Whether the parser reads some tokens as a condition, whatever comes after them. A chain may go on. -/
def Accepts (finish : Nat) : Level → List Token → Condition → Prop
  | .chain k, ts, a => ∀ front rest : List Lexeme, front.map Lexeme.token = ts → k.EndsBefore rest →
      ∃ p : Parsed (front ++ rest), p.condition = a ∧ p.rest = rest ∧
        parseChain finish k (front ++ rest) = parseMore finish k p
  | _, ts, a => ∀ front rest : List Lexeme, front.map Lexeme.token = ts →
      ∃ p : Parsed (front ++ rest), p.condition = a ∧ p.rest = rest ∧
        parseUnit finish (front ++ rest) = .ok p

private theorem parseMore_end {finish : Nat} {k : Connective} {tokens : List Lexeme} {first : Parsed tokens}
    (h : ∀ l ∈ first.rest.head?, l.token ≠ k.token) : parseMore finish k first = .ok first := by
  cases hrest : first.rest with
  | nil => exact parseMore_nil hrest
  | cons l later =>
    rw [parseMore_cons hrest, if_neg (h l (by rw [hrest]; rfl))]

private theorem closeGroup_eq {first close : Lexeme} {rest later : List Lexeme} {group : Parsed rest}
    (h : group.rest = close :: later) (hclose : close.token = .rightParen) :
    ∃ p, closeGroup first group = .ok p ∧ p.condition = group.condition ∧ p.rest = later := by
  unfold closeGroup
  split
  next hrest => exact absurd (h.symm.trans hrest) (List.cons_ne_nil close later)
  next close' later' hrest =>
    obtain ⟨rfl, rfl⟩ := List.cons.inj (h.symm.trans hrest)
    rw [if_pos hclose]
    exact ⟨_, rfl, rfl, rfl⟩

/-- The parser reads an operand where the operand is over. -/
theorem parseOperand_complete {finish : Nat} {k : Connective} {ts : List Token} {a : Condition}
    (h : Accepts finish k.operand ts a) {front rest : List Lexeme}
    (hfront : front.map Lexeme.token = ts) (hrest : k.EndsBefore rest) :
    ∃ p : Parsed (front ++ rest), p.condition = a ∧ p.rest = rest ∧
      parseOperand finish k (front ++ rest) = .ok p := by
  cases k with
  | or =>
    obtain ⟨p, hcondition, hp, hchain⟩ := h front rest hfront (fun hand => nomatch hand)
    refine ⟨p, hcondition, hp, ?_⟩
    rw [parseOperand, hchain]
    exact parseMore_end (by rw [hp]; exact hrest rfl)
  | and =>
    obtain ⟨p, hcondition, hp, hunit⟩ := h front rest hfront
    exact ⟨p, hcondition, hp, by rw [parseOperand, hunit]⟩

private theorem accepts_join {finish : Nat} {k : Connective} {ts us : List Token} {a b : Condition}
    (hchain : Accepts finish (.chain k) ts a) (hoperand : Accepts finish k.operand us b) :
    Accepts finish (.chain k) (ts ++ k.token :: us) (k.join a b) := by
  intro front rest hfront hrest
  obtain ⟨left, others, rfl, hleft, hothers⟩ := List.map_eq_append_iff.1 hfront
  obtain ⟨sign, right, rfl, hsign, hright⟩ := List.map_eq_cons_iff.1 hothers
  have hends : k.EndsBefore (sign :: (right ++ rest)) := by
    rintro rfl l ⟨⟩
    rw [hsign]
    exact Token.noConfusion
  obtain ⟨p, hp, hprest, hparse⟩ := hchain left (sign :: (right ++ rest)) hleft hends
  obtain ⟨q, hq, hqrest, hoperand⟩ := parseOperand_complete hoperand hright hrest
  have hsplit : left ++ sign :: right ++ rest = left ++ sign :: (right ++ rest) := by simp
  rw [hsplit]
  refine ⟨p.join k hprest q, ?_, hqrest, ?_⟩
  · rw [← hp, ← hq]
    rfl
  · rw [hparse, parseMore_cons hprest, if_pos hsign, hoperand]

private theorem accepts_not {finish : Nat} {ts : List Token} {a : Condition}
    (h : Accepts finish .unit ts a) : Accepts finish .unit (.not :: ts) (.not a) := by
  intro front rest hfront
  obtain ⟨sign, later, rfl, hsign, hlater⟩ := List.map_eq_cons_iff.1 hfront
  obtain ⟨p, hp, hprest, hparse⟩ := h later rest hlater
  rw [List.cons_append, parseUnit]
  simp only [hsign, hparse, hp, hprest]
  exact ⟨_, rfl, rfl, rfl⟩

private theorem accepts_group {finish : Nat} {ts : List Token} {a : Condition}
    (h : Accepts finish (.chain .or) ts a) :
    Accepts finish .primary (.leftParen :: (ts ++ [.rightParen])) a := by
  intro front rest hfront
  obtain ⟨first, others, rfl, hfirst, hothers⟩ := List.map_eq_cons_iff.1 hfront
  obtain ⟨inner, last, rfl, hinner, hlast⟩ := List.map_eq_append_iff.1 hothers
  obtain ⟨close, rfl, hclose⟩ := List.map_eq_singleton_iff.1 hlast
  have hends : Connective.or.EndsBefore (close :: rest) := by
    rintro - l ⟨⟩
    rw [hclose]
    exact Token.noConfusion
  obtain ⟨p, hp, hprest, hparse⟩ := h inner (close :: rest) hinner hends
  have hstop : parseMore finish .or p = .ok p := by
    apply parseMore_end
    rw [hprest]
    rintro l ⟨⟩
    rw [hclose]
    exact Token.noConfusion
  obtain ⟨q, hq, hqcondition, hqrest⟩ := closeGroup_eq hprest hclose
  have hsplit : first :: (inner ++ [close]) ++ rest = first :: (inner ++ close :: rest) := by simp
  rw [hsplit, parseUnit]
  simp only [hfirst, hparse, hstop]
  exact ⟨q, hqcondition.trans hp, hqrest, hq⟩

private theorem accepts_comparison {finish : Nat} {property sign value : String} {op : CompareOp}
    (hsign : sign ≠ "=~") (hop : CompareOp.parse sign = some op) :
    Accepts finish .primary [.operator property sign, .text value] (compare property op value) := by
  intro front rest hfront
  obtain ⟨first, others, rfl, hfirst, hothers⟩ := List.map_eq_cons_iff.1 hfront
  obtain ⟨⟨token, start, stop⟩, rfl, htext⟩ := List.map_eq_singleton_iff.1 hothers
  obtain rfl : token = .text value := htext
  rw [List.cons_append, List.singleton_append, parseUnit]
  simp only [hfirst, if_neg hsign, hop, parseComparison]
  exact ⟨_, rfl, rfl, rfl⟩

private theorem accepts_regex {finish : Nat} {property pattern flags : String} {token : Token}
    (h : token = .operator property "=~" ∨ token = .identifier property) :
    Accepts finish .primary [token, .regex pattern flags] (ofRegex property pattern flags) := by
  intro front rest hfront
  obtain ⟨first, others, rfl, hfirst, hothers⟩ := List.map_eq_cons_iff.1 hfront
  obtain ⟨⟨token', start, stop⟩, rfl, hregex⟩ := List.map_eq_singleton_iff.1 hothers
  obtain rfl : token' = .regex pattern flags := hregex
  rw [List.cons_append, List.singleton_append, parseUnit]
  rcases h with rfl | rfl
  · simp only [hfirst, if_true, parseRegex]
    exact ⟨_, rfl, rfl, rfl⟩
  · simp only [hfirst, parseRegex]
    exact ⟨_, rfl, rfl, rfl⟩

private theorem accepts_regexUrl {finish : Nat} {pattern flags : String} :
    Accepts finish .primary [.regex pattern flags] (ofRegex Properties.urlName pattern flags) := by
  intro front rest hfront
  obtain ⟨first, rfl, hfirst⟩ := List.map_eq_singleton_iff.1 hfront
  rw [List.singleton_append, parseUnit]
  simp only [hfirst]
  exact ⟨_, rfl, rfl, rfl⟩

/-- What the grammar derives the parser reads, whatever tokens come after it. -/
theorem parse_complete (finish : Nat) {level : Level} {ts : List Token} {a : Condition}
    (h : Writes level ts a) : Accepts finish level ts a := by
  induction h with
  | single _ ih =>
    intro front rest hfront hrest
    obtain ⟨p, hp, hprest, hparse⟩ := parseOperand_complete ih hfront hrest
    exact ⟨p, hp, hprest, by rw [parseChain, hparse]⟩
  | join _ _ ihchain ihoperand => exact accepts_join ihchain ihoperand
  | not _ ih => exact accepts_not ih
  | primary _ ih => exact ih
  | group _ ih => exact accepts_group ih
  | comparison hsign hop => exact accepts_comparison hsign hop
  | regexOperator => exact accepts_regex (.inl rfl)
  | regexIdentifier => exact accepts_regex (.inr rfl)
  | regexUrl => exact accepts_regexUrl

/-! ### What a text writes -/

/-- The parser takes all the tokens that the grammar derives a condition from. -/
theorem parseChain_of_writes (finish : Nat) {found : List Lexeme} {a : Condition}
    (h : Writes (.chain .or) (found.map Lexeme.token) a) :
    ∃ p : Parsed found, parseChain finish .or found = .ok p ∧ p.condition = a ∧ p.rest = [] := by
  have hall := parse_complete finish h found [] rfl (by rintro - l ⟨⟩)
  rw [List.append_nil] at hall
  obtain ⟨p, hp, hrest, hparse⟩ := hall
  have hend : parseMore finish .or p = .ok p := parseMore_end (by rw [hrest]; rintro l ⟨⟩)
  exact ⟨p, hparse.trans hend, hp, hrest⟩

theorem ofLexemes_eq_ok_iff (finish : Nat) (found : List Lexeme) (a : Condition) :
    ofLexemes finish found = .ok a ↔ Writes (.chain .or) (found.map Lexeme.token) a := by
  constructor
  · intro h
    have hsound := (parse_sound finish).1 .or found
    rw [ofLexemes] at h
    split at h
    next => cases h
    next p hparse =>
      rw [hparse] at hsound
      obtain ⟨front, hfound, hwrites⟩ := hsound
      split at h
      next hrest =>
        cases h
        rw [hrest, List.append_nil] at hfound
        rw [← hfound] at hwrites
        exact hwrites
      next => cases h
      next => cases h
  · intro h
    obtain ⟨p, hparse, hp, hrest⟩ := parseChain_of_writes finish h
    rw [ofLexemes, hparse]
    simp only [hrest, hp]

/-- The condition that tokens write is the only one. -/
theorem Writes.unique {ts : List Token} {a b : Condition} (ha : Writes (.chain .or) ts a)
    (hb : Writes (.chain .or) ts b) : a = b := by
  have hts : (ts.map fun token => Lexeme.mk token 0 0).map Lexeme.token = ts := by
    rw [List.map_map]
    exact List.map_id ts
  rw [← hts, ← ofLexemes_eq_ok_iff 0] at ha hb
  exact Except.ok.inj (ha.symm.trans hb)

private theorem Writes.ne_nil {ts : List Token} {a : Condition} (h : Writes (.chain .or) ts a) : ts ≠ [] := by
  rintro rfl
  have hnil : Writes (.chain .or) (([] : List Lexeme).map Lexeme.token) a := h
  obtain ⟨p, -⟩ := parseChain_of_writes 0 hnil
  exact Nat.not_lt_zero _ p.shorter

private theorem ofLexemes_ne_empty (finish : Nat) (found : List Lexeme) :
    ofLexemes finish found ≠ .error .empty := by
  have hsound := (parse_sound finish).1 .or found
  rw [ofLexemes]
  split
  next e hparse =>
    rw [hparse] at hsound
    rintro ⟨⟩
    exact hsound rfl
  next =>
    split <;> rintro ⟨⟩

theorem parse_eq_ok_iff (text : String) (a : Condition) :
    parse text = .ok a ↔ Writes (.chain .or) (tokens text.toList) a := by
  rw [parse, tokens]
  split
  next hnone =>
    rw [lexemes] at hnone
    rw [hnone]
    constructor
    · rintro ⟨⟩
    · intro h
      exact absurd rfl h.ne_nil
  next found finish _ hsome =>
    rw [lexemes] at hsome
    rw [hsome, ofLexemes_eq_ok_iff]

private theorem parse_eq_empty_iff (text : String) :
    parse text = .error .empty ↔ tokens text.toList = [] := by
  rw [parse, tokens]
  split
  next hnone =>
    rw [lexemes] at hnone
    rw [hnone]
    simp
  next found finish hne hsome =>
    rw [lexemes] at hsome
    rw [hsome]
    constructor
    · intro h
      exact absurd h (ofLexemes_ne_empty finish found)
    · intro h
      exact absurd (List.map_eq_nil_iff.1 h) hne

/-- The parser decides the grammar. Reading a text token by token gives one list of tokens; the text
parses as a condition exactly when the grammar derives it from them, which it does of no other condition,
and a text is empty exactly when it has no tokens. -/
theorem parse_decides_grammar (text : String) :
    ∃ found, (∀ ts, (TokenReader.ofText text).Yields ts ↔ ts = found) ∧
      (∀ a, parse text = .ok a ↔ Writes (.chain .or) found a) ∧
      (∀ a b, Writes (.chain .or) found a → Writes (.chain .or) found b → a = b) ∧
      (parse text = .error .empty ↔ found = []) := by
  refine ⟨tokens text.toList, ?_, parse_eq_ok_iff text, ?_, parse_eq_empty_iff text⟩
  · exact (TokenReader.StandsAt.ofText text).yields_iff
  · intro a b ha hb
    exact ha.unique hb

end PagePolicy.Condition
