import PagePolicy.Proofs.Condition.Errors
import PagePolicy.Proofs.Condition.Printed

/-! The signs between properties and the texts they are compared with. Those that are read are that of a regular
expression and those of the comparisons there are, so that a text which writes no condition never lacks a comparison. -/

namespace PagePolicy

/-! ### The signs of comparisons -/

private theorem CompareKind.ofSymbol?_eq_some_iff {symbol : List Char} {kind : CompareKind} :
    ofSymbol? symbol = some kind ↔ kind.symbol.toList = symbol := by
  constructor
  · intro h
    exact of_decide_eq_true (List.find?_some (p := fun kind : CompareKind => kind.symbol.toList = symbol) h)
  · rintro rfl
    cases kind <;> rfl

private theorem CompareKind.toUpper_of_mem_symbol (kind : CompareKind) : ∀ c ∈ kind.symbol.toList, c.toUpper = c := by
  cases kind <;> simp [symbol]

namespace CompareOp

private theorem toList_symbol (op : CompareOp) :
    op.symbol.toList = op.kind.symbol.toList ++ if op.ignoreCase then ['i'] else [] := by
  rw [symbol, String.toList_append]
  cases op.ignoreCase <;> rfl

/-- A comparison is read from its sign, in which a letter can be a capital, and from no other text. -/
theorem parse_eq_some_iff {sign : String} {op : CompareOp} :
    parse sign = some op ↔ op.symbol = sign.toLower := by
  have hlower : sign.toLower.toList = sign.toList.map Char.toLower := String.toList_map
  rw [← String.toList_inj, hlower, parse]
  generalize sign.toList.map Char.toLower = letters
  constructor
  · intro h
    split at h
    next hlast =>
      obtain ⟨kind, hkind, rfl⟩ := Option.map_eq_some_iff.1 h
      obtain ⟨symbol, rfl⟩ := List.getLast?_eq_some_iff.1 hlast
      rw [List.dropLast_concat] at hkind
      rw [toList_symbol, CompareKind.ofSymbol?_eq_some_iff.1 hkind]
      rfl
    next =>
      obtain ⟨kind, hkind, rfl⟩ := Option.map_eq_some_iff.1 h
      rw [toList_symbol, CompareKind.ofSymbol?_eq_some_iff.1 hkind]
      exact List.append_nil _
  · rintro rfl
    obtain ⟨kind, ignoreCase⟩ := op
    cases kind <;> cases ignoreCase <;> rfl

end CompareOp

/-! ### Small and capital letters -/

namespace Text

/-- Only a letter itself and its capital have this letter as their small letter. -/
theorem eq_or_eq_toUpper {c d : Char} (h : c.toLower = d) : c = d ∨ c = d.toUpper := by
  subst h
  by_cases hupper : c.isUpper = true
  · right
    have hletters : ∀ n < 91, (Char.ofNat n).isUpper = true →
        Char.ofNat n = (Char.ofNat n).toLower.toUpper := by decide
    have hletter := hletters c.toNat (Nat.lt_succ_of_le (of_decide_eq_true hupper).2)
    rw [Char.ofNat_toNat] at hletter
    exact hletter hupper
  · have hkept : c.toLower = c := dif_neg fun hrange => hupper (decide_eq_true hrange)
    exact .inl hkept.symm

/-- Only a text itself has it as its small form, if there are no letters in it. -/
theorem eq_of_map_toLower {s t : List Char} (h : s.map Char.toLower = t) (ht : ∀ d ∈ t, d.toUpper = d) :
    s = t := by
  subst h
  refine (List.map_id' s).symm.trans (List.map_congr_left fun c hc => ?_)
  rcases eq_or_eq_toUpper (rfl : c.toLower = c.toLower) with h | h
  · exact h
  · rwa [ht _ (List.mem_map_of_mem hc)] at h

end Text

/-! ### The signs of operators -/

namespace Condition

open Text

/-- The letter that has a comparison ignore the case of letters, if it is there, is a small letter or a capital. -/
theorem mem_of_map_toLower {ignoreCase : Bool} {letter : List Char}
    (h : letter.map Char.toLower = if ignoreCase then ['i'] else []) : letter ∈ [[], ['i'], ['I']] := by
  cases ignoreCase with
  | false =>
    rw [List.map_eq_nil_iff.1 h]
    exact List.mem_cons_self
  | true =>
    obtain ⟨c, rfl, hc⟩ := List.map_eq_singleton_iff.1 h
    rcases eq_or_eq_toUpper hc with rfl | rfl
    · decide
    · decide

private theorem splitSign_symbol (kind : CompareKind) {letter : List Char} (h : letter ∈ [[], ['i'], ['I']]) :
    splitSign (kind.symbol.toList ++ letter) = (kind.symbol.toList ++ letter, []) := by
  simp only [List.mem_cons, List.not_mem_nil, or_false] at h
  rcases h with rfl | rfl | rfl <;> cases kind <;> rfl

/-- The sign of a comparison is read as a sign, and as a whole. -/
theorem splitSign_of_parse {sign : String} {op : CompareOp} (h : CompareOp.parse sign = some op) :
    splitSign sign.toList = (sign.toList, []) := by
  have hletters : op.symbol.toList = sign.toList.map Char.toLower :=
    (congrArg String.toList (CompareOp.parse_eq_some_iff.1 h)).trans String.toList_map
  rw [CompareOp.toList_symbol] at hletters
  obtain ⟨symbol, letter, hsign, hsymbol, hletter⟩ := List.map_eq_append_iff.1 hletters.symm
  have hkind : symbol = op.kind.symbol.toList :=
    eq_of_map_toLower hsymbol op.kind.toUpper_of_mem_symbol
  rw [hsign, hkind]
  exact splitSign_symbol op.kind (mem_of_map_toLower hletter)

/-- A name and a sign that is read as a whole are an operator. -/
theorem exists_operator {sign : String} (hsign : splitSign sign.toList = (sign.toList, []))
    (hne : sign.toList ≠ []) :
    ∃ text offset property, (lexemeAt text offset).token = .operator property sign := by
  have htext : ("a" ++ sign).toList = [] ++ ([] ++ 'a' :: sign.toList) := String.toList_append
  have hname : IsName ['a'] := ⟨rfl, nofun⟩
  have htokens := tokens_operator hname hsign hne
  rw [List.singleton_append, tokens_cons _ (by decide), String.ofList_toList] at htokens
  refine ⟨"a" ++ sign, byteLength [], String.ofList ['a'], ?_⟩
  have hletter : ∀ c ∈ ('a' :: sign.toList).head?, isBlank c = false := by
    rintro c ⟨⟩
    rfl
  rw [lexemeAt_eq_scan htext nofun hletter]
  exact (List.cons.inj htokens).1

private theorem ofLexemes_of_parse {text : String} {e : ParseError} (h : parse text = .error e) (he : e ≠ .empty) :
    ofLexemes (lexemesFrom 0 text.toList).2 (lexemesFrom 0 text.toList).1 = .error e := by
  rw [parse, lexemes] at h
  split at h
  next => exact absurd (Except.error.inj h).symm he
  next hfound => rwa [hfound]

/-- What the parser can miss is never a comparison: every operator in a text has a sign that it knows. -/
theorem expected_ne_comparison {text : String} {position : Nat} {expected : Expectation} {shown : String}
    (h : parse text = .error (.unexpected position expected shown)) : expected ≠ .comparison := by
  have herror := ofLexemes_of_parse h ParseError.noConfusion
  rcases ofLexemes_eq_error herror with ⟨front, l, later, hsplit, hpoints, -⟩ | ⟨_, _, _, _, _, _, _, ⟨⟩⟩
  have hmem : l ∈ lexemesToEnd 0 text.toList := by
    rw [lexemesToEnd, hsplit]
    exact List.mem_append_right _ List.mem_cons_self
  exact (hpoints.known hmem).1

private theorem Expectation.eq_comparison_of_describe {expected : Expectation}
    (h : expected.describe = "a comparison operator") : expected = .comparison := by
  cases expected with
  | comparison => rfl
  | _ => exact absurd h (by decide)

/-- The signs that are read after properties are those of comparisons, in small letters and capitals, and that of a
regular expression. So a text is never refused because a comparison is missing. -/
theorem operator_signs_known :
    (∀ sign, (∃ text offset property, (lexemeAt text offset).token = .operator property sign) ↔
        sign = "=~" ∨ ∃ op, CompareOp.parse sign = some op ∧ op.symbol = sign.toLower) ∧
      ∀ text position expected shown, parse text = .error (.unexpected position expected shown) →
        expected.describe ≠ "a comparison operator" := by
  constructor
  · intro sign
    constructor
    · rintro ⟨text, offset, property, htoken⟩
      have hend : (lexemeAt text offset).token ≠ .endOfInput := by
        rw [htoken]
        exact Token.noConfusion
      obtain ⟨before, blanks, s, -, -, -, hscan⟩ := exists_scan_of_lexemeAt hend
      rw [hscan] at htoken
      refine (sign_of_scan htoken).imp_right fun hknown => ?_
      obtain ⟨op, hop⟩ := Option.isSome_iff_exists.1 hknown
      exact ⟨op, hop, CompareOp.parse_eq_some_iff.1 hop⟩
    · rintro (rfl | ⟨op, hop, -⟩)
      · exact exists_operator rfl (List.cons_ne_nil _ _)
      · refine exists_operator (splitSign_of_parse hop) fun hnil => ?_
        rw [String.toList_eq_nil_iff.1 hnil] at hop
        cases hop
  · intro text position expected shown h hdescribe
    exact expected_ne_comparison h (Expectation.eq_comparison_of_describe hdescribe)

/-- A capital counts as the small letter in the sign of a comparison, but not in that of a regular expression. -/
theorem operator_signs_known_capital :
    ((lexemeAt "é a *=I'b'" 3).token = .operator "a" "*=I" ∧
      ∃ op, CompareOp.parse "*=I" = some op ∧ op.symbol = "*=I".toLower) ∧
      parse "a =~I" = .error (.unexpected 4 .regex "identifier `I`") ∧
        Expectation.regex.describe ≠ "a comparison operator" := by
  have hread : (lexemeAt "é a *=I'b'" 3).token = .operator "a" "*=I" := by decide +kernel
  have herror : parse "a =~I" = .error (.unexpected 4 .regex "identifier `I`") := by decide +kernel
  have hsign := (operator_signs_known.1 "*=I").1 ⟨_, _, _, hread⟩
  exact ⟨⟨hread, hsign.resolve_left (by decide)⟩, herror, operator_signs_known.2 _ _ _ _ herror⟩

end Condition

end PagePolicy
