import Mathlib.Data.List.Basic
import PagePolicy.Proofs.Condition.Printed

/-! When the text of a condition is read as the condition again. A regular expression that its last slash
does not end goes on into what follows it, and then its token is longer than it was. -/

namespace PagePolicy.Condition

open Text

/-- The pattern of a token that is a regular expression. -/
def Token.pattern? : Token → Option String
  | regex pattern _ => some pattern
  | _ => none

def patterns (ts : List Token) : List String :=
  ts.filterMap Token.pattern?

def regexPatterns (a : Condition) : List String :=
  a.regexes.map Prod.fst

@[simp]
theorem patterns_append (ts us : List Token) : patterns (ts ++ us) = patterns ts ++ patterns us :=
  List.filterMap_append

private theorem patterns_cons_none {t : Token} (h : t.pattern? = none) (ts : List Token) :
    patterns (t :: ts) = patterns ts :=
  List.filterMap_cons_none h

private theorem patterns_inParens (needed : Bool) (ts : List Token) :
    patterns (inParens needed ts) = patterns ts := by
  cases needed with
  | false => rfl
  | true =>
    rw [inParens, if_pos rfl, patterns_cons_none rfl, patterns_append]
    exact List.append_nil _

/-- Tokens have the patterns of the condition that they write. -/
theorem Writes.patterns {level : Level} {ts : List Token} {a : Condition} (h : Writes level ts a) :
    patterns ts = a.regexPatterns := by
  induction h with
  | single _ ih => exact ih
  | @join k ts us a b _ _ iha ihb =>
    have hjoin : (k.join a b).regexPatterns = a.regexPatterns ++ b.regexPatterns := by
      cases k <;> exact List.map_append
    have hsign : k.token.pattern? = none := by cases k <;> rfl
    rw [patterns_append, patterns_cons_none hsign, iha, ihb, hjoin]
  | not _ ih => exact ih
  | primary _ ih => exact ih
  | @group ts _ _ ih => exact (patterns_inParens true ts).trans ih
  | comparison _ _ => rfl
  | regexOperator => rfl
  | regexIdentifier => rfl
  | regexUrl => rfl

/-! ### What follows a regular expression that goes on -/

/-- In a text that begins with that of an operand, the patterns of the operand come first. -/
theorem patterns_operand {a : Condition} (h : a.Legible) (hclosed : a.Closed) (needed : Bool)
    {r : List Char} (hr : NoFlagFirst r) :
    patterns (tokens (parenthesise needed a.print ++ r)) = a.regexPatterns ++ patterns (tokens r) := by
  rw [tokens_parenthesise needed (fun _ hr => tokens_print h hclosed hr) hr, patterns_append,
    patterns_inParens, (writes_printTokens h).1.patterns]

private theorem patterns_parenthesise (needed : Bool) (s : List Char) {r : List Char} (hr : NoFlagFirst r) :
    ∃ r', NoFlagFirst r' ∧
      patterns (tokens (parenthesise needed s ++ r)) = patterns (tokens (s ++ r')) := by
  cases needed with
  | false => exact ⟨r, hr, rfl⟩
  | true =>
    refine ⟨')' :: r, noFlagFirst_cons rfl r, ?_⟩
    rw [parenthesise_true_append, tokens_leftParen, patterns_cons_none rfl]

/-- What follows decides whether a condition is closed: if it is not, its patterns do not come first. -/
def ClosesBefore (a : Condition) : Prop :=
  ∀ r, NoFlagFirst r → a.regexPatterns <+: patterns (tokens (a.print ++ r)) → a.Closed

private theorem ClosesBefore.operand {a : Condition} (h : a.ClosesBefore) {needed : Bool} {r : List Char}
    (hr : NoFlagFirst r)
    (hfirst : a.regexPatterns <+: patterns (tokens (parenthesise needed a.print ++ r))) : a.Closed := by
  obtain ⟨r', hr', hpatterns⟩ := patterns_parenthesise needed a.print hr
  rw [hpatterns] at hfirst
  exact h r' hr' hfirst

/-- The left operand is closed, so its patterns come first, and then the right operand is closed. -/
theorem ClosesBefore.join {a b : Condition} (ha : a.ClosesBefore) (hb : b.ClosesBefore)
    (hlegible : a.Legible) {left right : Bool} {sign : Char} {t : Token} (hsign : isBlank sign = false)
    (hscan : ∀ s, scan (sign :: s) = ⟨t, [sign], s⟩) (ht : t.pattern? = none) {r : List Char}
    (hr : NoFlagFirst r)
    (hfirst : a.regexPatterns ++ b.regexPatterns <+: patterns (tokens (parenthesise left a.print ++
      ' ' :: sign :: ' ' :: (parenthesise right b.print ++ r)))) : a.Closed ∧ b.Closed := by
  have hclosed : a.Closed :=
    ha.operand (noFlagFirst_cons rfl _) ((List.prefix_append _ _).trans hfirst)
  rw [patterns_operand hlegible hclosed left (noFlagFirst_cons rfl _), tokens_spaced hsign hscan,
    patterns_cons_none ht, List.prefix_append_right_inj] at hfirst
  exact ⟨hclosed, hb.operand hr hfirst⟩

private theorem closesBefore_of_legible {a : Condition} (h : a.Legible) : a.ClosesBefore := by
  induction a with
  | compare property op value => exact fun _ _ _ => nofun
  | regex property pattern flags =>
    intro r hr hfirst
    rintro _ (_ | ⟨_, ⟨⟩⟩)
    refine Bool.eq_false_iff.2 fun hend => ?_
    obtain ⟨more, flags', later, hopen⟩ := tokens_regex_open
      (h.bodies _ List.mem_cons_self) hend ((flags.getD "").toList ++ r)
    rw [tokens_print_regex (h.names _ List.mem_cons_self), hopen] at hfirst
    have hpattern : pattern = String.ofList (pattern.toList ++ '/' :: more) :=
      (List.cons_prefix_cons.1 hfirst).1
    have hlength := congrArg (fun s => s.toList.length) hpattern
    simp at hlength
  | not a ih =>
    intro r hr hfirst
    rw [tokens_print_not, patterns_cons_none rfl] at hfirst
    exact (ih (legible_not.1 h)).operand hr hfirst
  | and a b iha ihb =>
    intro r hr hfirst
    obtain ⟨ha, hb⟩ := legible_and.1 h
    rw [print_and_append, regexPatterns, regexes, List.map_append] at hfirst
    exact closed_and.2 ((iha ha).join (ihb hb) ha rfl (fun _ => rfl) rfl hr hfirst)
  | or a b iha ihb =>
    intro r hr hfirst
    obtain ⟨ha, hb⟩ := legible_or.1 h
    rw [print_or_append, regexPatterns, regexes, List.map_append] at hfirst
    exact closed_or.2 ((iha ha).join (ihb hb) ha rfl (fun _ => rfl) rfl hr hfirst)

/-! ### The round trip -/

private theorem parse_text_eq_ok_iff_writes (a b : Condition) :
    parse a.text = .ok b ↔ Writes (.chain .or) (tokens a.print) b := by
  rw [parse_eq_ok_iff, text, String.toList_ofList]

/-- A condition that is legible and closed is read from its text. -/
theorem parse_text_of_closed {a : Condition} (h : a.Legible) (hclosed : a.Closed) :
    parse a.text = .ok a := by
  have htokens := tokens_print h hclosed noFlagFirst_nil
  rw [tokens_nil, List.append_nil, List.append_nil] at htokens
  rw [parse_text_eq_ok_iff_writes, htokens]
  exact (writes_printTokens h).1

/-- A condition that is read from its text is closed. -/
theorem closed_of_parse_text {a : Condition} (h : parse a.text = .ok a) : a.Closed := by
  have hpatterns : a.regexPatterns = patterns (tokens (a.print ++ [])) := by
    rw [List.append_nil, ((parse_text_eq_ok_iff_writes a a).1 h).patterns]
  refine closesBefore_of_legible (legible_of_parse h) [] noFlagFirst_nil ?_
  exact hpatterns ▸ List.prefix_refl a.regexPatterns

/-- Whether the tests of a condition can be written: its properties have names, its regular expressions
have no flags or some of the flags there are, and the slash after each of these, and no other, ends it. -/
structure Expressible (a : Condition) : Prop extends Legible a where
  closed : a.Closed

/-- The conditions that are read from their texts are those whose tests can be written. -/
theorem parse_text_eq_ok_iff (a : Condition) : parse a.text = .ok a ↔ a.Expressible := by
  constructor
  · intro h
    exact ⟨legible_of_parse h, closed_of_parse_text h⟩
  · rintro ⟨hlegible, hclosed⟩
    exact parse_text_of_closed hlegible hclosed

/-! ### Conditions that were read -/

/-- A regular expression that ends in a lone backslash ends the text that it was read from. -/
theorem scan_rest_of_endsInBackslash {s : List Char} {pattern : String}
    (hend : endsInBackslash pattern.toList = true) :
    (scan s).token.pattern? = some pattern → (scan s).rest = [] := by
  fun_cases scan s with
  | case7 =>
    rw [scanText_token]
    rintro ⟨⟩
  | case8 s =>
    rw [scanRegex_token]
    intro h
    obtain rfl := Option.some.inj h
    rw [String.toList_ofList] at hend
    rw [scanRegex_rest, splitClosed_rest_of_endsInBackslash hend]
    rfl
  | case9 =>
    rw [scanName_token]
    split <;> rintro ⟨⟩
  | _ => rintro ⟨⟩

/-- Only the last regular expression of a text can end in a lone backslash. -/
theorem patterns_dropLast_closed (s : List Char) :
    ∀ pattern ∈ (patterns (tokens s)).dropLast, endsInBackslash pattern.toList = false := by
  induction s using lexing_induction with
  | blank s hs =>
    rw [(tokens_eq_nil_iff s).2 hs]
    exact nofun
  | step s hs ih =>
    rw [tokens_eq_cons hs]
    cases hpattern : (scan (s.dropWhile isBlank)).token.pattern? with
    | none =>
      rw [patterns_cons_none hpattern]
      exact ih
    | some first =>
      have hpatterns : ∀ ts, patterns ((scan (s.dropWhile isBlank)).token :: ts) =
          first :: patterns ts := fun ts => List.filterMap_cons_some hpattern
      intro pattern hmem
      rw [hpatterns] at hmem
      by_cases hlater : patterns (tokens (scan (s.dropWhile isBlank)).rest) = []
      · rw [hlater] at hmem
        exact absurd hmem List.not_mem_nil
      · rw [List.dropLast_cons_of_ne_nil hlater] at hmem
        rcases List.mem_cons.1 hmem with rfl | hmem
        · refine Bool.eq_false_iff.2 fun hend => hlater ?_
          rw [scan_rest_of_endsInBackslash hend hpattern, tokens_nil]
          rfl
        · exact ih pattern hmem

/-- Reading a condition, writing it and reading it again gives the same condition, except when its last
regular expression ends in a lone backslash. The text it was read from then ends there, without the
slash that would be a part of the regular expression, but the text of the condition has one. -/
theorem parse_text_of_parse_iff {text : String} {a : Condition} (h : parse text = .ok a) :
    parse a.text = .ok a ↔ ∀ r ∈ a.regexes.getLast?, endsInBackslash r.1.toList = false := by
  constructor
  · intro hread r hr
    exact closed_of_parse_text hread r (List.mem_of_getLast? hr)
  · intro hlast
    have hpatterns : patterns (tokens text.toList) = a.regexPatterns :=
      ((parse_eq_ok_iff text a).1 h).patterns
    have hfront := patterns_dropLast_closed text.toList
    rw [hpatterns, regexPatterns, ← List.map_dropLast] at hfront
    refine parse_text_of_closed (legible_of_parse h) fun r hr => ?_
    by_cases hr' : some r = a.regexes.getLast?
    · exact hlast r hr'.symm
    · have hmem := List.mem_dropLast_of_mem_of_ne_getLast? hr hr'
      exact hfront r.1 (List.mem_map_of_mem hmem)

theorem parse_text_of_lone_backslash :
    ∃ a, parse "/a\\" = .ok a ∧ a.text = "url=~/a\\/" ∧ parse a.text ≠ .ok a := by
  have htokens : tokens "/a\\".toList = [.regex "a\\" ""] := by
    calc
      tokens "/a\\".toList = .regex "a\\" "" :: tokens [] := tokens_cons _ (by decide)
      _ = [.regex "a\\" ""] := by rw [tokens_nil]
  have hread : parse "/a\\" = .ok (ofRegex Properties.urlName "a\\" "") := by
    rw [parse_eq_ok_iff, htokens]
    exact .single (.single (.primary .regexUrl))
  refine ⟨_, hread, by decide, fun h => ?_⟩
  exact absurd ((parse_text_of_parse_iff hread).1 h _ rfl) (by decide)

end PagePolicy.Condition
