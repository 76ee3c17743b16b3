import PagePolicy.Proofs.Condition.Grammar

/-! What the tests of a condition that was read look like: their names, the bodies of their regular
expressions and the flags of those. -/

namespace PagePolicy.Condition

open Text

/-- Whether a text is a name: a letter, an underscore or a dollar sign, and then letters, digits and
underscores. -/
def IsName : List Char → Prop
  | [] => False
  | first :: rest => isNameStart first = true ∧ ∀ c ∈ rest, isNamePart c = true

instance : DecidablePred IsName := fun
  | [] => .isFalse id
  | _ :: _ => inferInstanceAs (Decidable (_ ∧ _))

theorem isFlag_iff {c : Char} : isFlag c = true ↔ c ∈ ['i', 'm', 's', 'u'] := by
  simp [isFlag, or_assoc]

private theorem isName_urlName : IsName Properties.urlName.toList :=
  ⟨rfl, List.all_eq_true.1 rfl⟩

/-- Whether a text has a slash that no backslash escapes. -/
def hasBareSlash : List Char → Bool
  | [] => false
  | '\\' :: _ :: s => hasBareSlash s
  | c :: s => c = '/' || hasBareSlash s

/-- Whether a text ends in a backslash that escapes nothing. -/
def endsInBackslash : List Char → Bool
  | [] => false
  | ['\\'] => true
  | '\\' :: _ :: s => endsInBackslash s
  | _ :: s => endsInBackslash s

/-! ### Escapes -/

/-- A text is read from the left, a backslash together with the character after it. -/
theorem escapes_induction {P : List Char → Prop} (nil : P []) (lone : P ['\\'])
    (pair : ∀ c s, P s → P ('\\' :: c :: s)) (plain : ∀ c s, c ≠ '\\' → P s → P (c :: s))
    (s : List Char) : P s := by
  fun_induction endsInBackslash s with
  | case1 => exact nil
  | case2 => exact lone
  | case3 c s ih => exact pair c s ih
  | case4 c s hlone hpair ih =>
    refine plain c s ?_ ih
    rintro rfl
    cases s with
    | nil => exact hlone rfl rfl
    | cons d s => exact hpair d s rfl rfl

section
variable {c : Char} (h : c ≠ '\\') (s : List Char)
include h

theorem hasBareSlash_plain : hasBareSlash (c :: s) = (decide (c = '/') || hasBareSlash s) :=
  hasBareSlash.eq_3 c s fun _ _ hc _ => h hc

private theorem endsInBackslash_plain : endsInBackslash (c :: s) = endsInBackslash s :=
  endsInBackslash.eq_4 c s (fun hc _ => h hc) fun _ _ hc _ => h hc

theorem splitClosed_plain {close : Char} (hclose : c ≠ close) :
    splitClosed close (c :: s) = (c :: (splitClosed close s).1, (splitClosed close s).2) := by
  rw [splitClosed.eq_3 close c s fun _ _ hc _ => h hc, if_neg hclose]

end

theorem splitClosed_pair (close c : Char) (s : List Char) :
    splitClosed close ('\\' :: c :: s) =
      ('\\' :: c :: (splitClosed close s).1, (splitClosed close s).2) := rfl

private theorem splitClosed_close {close : Char} (h : close ≠ '\\') (s : List Char) :
    splitClosed close (close :: s) = ([], close :: s) := by
  rw [splitClosed.eq_3 close close s fun _ _ hc _ => h hc, if_pos rfl]

/-! ### The body of a regular expression -/

theorem hasBareSlash_splitClosed (s : List Char) : hasBareSlash (splitClosed '/' s).1 = false := by
  induction s using escapes_induction with
  | nil => rfl
  | lone => rfl
  | pair c s ih =>
    rw [splitClosed_pair]
    exact ih
  | plain c s hc ih =>
    by_cases hslash : c = '/'
    · subst hslash
      rw [splitClosed_close hc]
      rfl
    · rw [splitClosed_plain hc s hslash, hasBareSlash_plain hc, ih]
      simp [hslash]

/-- A body that was closed does not end in a lone backslash. -/
theorem splitClosed_rest_of_endsInBackslash {s : List Char}
    (h : endsInBackslash (splitClosed '/' s).1 = true) : (splitClosed '/' s).2 = [] := by
  induction s using escapes_induction with
  | nil => rfl
  | lone => rfl
  | pair c s ih =>
    rw [splitClosed_pair] at h ⊢
    exact ih h
  | plain c s hc ih =>
    by_cases hslash : c = '/'
    · subst hslash
      rw [splitClosed_close hc] at h
      exact absurd h Bool.false_ne_true
    · rw [splitClosed_plain hc s hslash] at h ⊢
      rw [endsInBackslash_plain hc] at h
      exact ih h

/-- A body that a slash can close ends at that slash. -/
theorem splitClosed_closed {body : List Char} (rest : List Char) (hslash : hasBareSlash body = false)
    (hend : endsInBackslash body = false) :
    splitClosed '/' (body ++ '/' :: rest) = (body, '/' :: rest) := by
  induction body using escapes_induction with
  | nil => exact splitClosed_close (by decide) rest
  | lone => exact absurd hend (by decide)
  | pair c s ih =>
    rw [List.cons_append, List.cons_append, splitClosed_pair, ih hslash hend]
  | plain c s hc ih =>
    rw [hasBareSlash_plain hc, Bool.or_eq_false_iff, decide_eq_false_iff_not] at hslash
    rw [endsInBackslash_plain hc] at hend
    rw [List.cons_append, splitClosed_plain hc _ hslash.1, ih hslash.2 hend]

/-- A slash after a lone backslash is a part of the body. -/
theorem splitClosed_open {body : List Char} (rest : List Char) (hslash : hasBareSlash body = false)
    (hend : endsInBackslash body = true) :
    splitClosed '/' (body ++ '/' :: rest) =
      (body ++ '/' :: (splitClosed '/' rest).1, (splitClosed '/' rest).2) := by
  induction body using escapes_induction with
  | nil => exact absurd hend Bool.false_ne_true
  | lone => rfl
  | pair c s ih =>
    rw [List.cons_append, List.cons_append, splitClosed_pair, ih hslash hend]
    rfl
  | plain c s hc ih =>
    rw [hasBareSlash_plain hc, Bool.or_eq_false_iff, decide_eq_false_iff_not] at hslash
    rw [endsInBackslash_plain hc] at hend
    rw [List.cons_append, splitClosed_plain hc _ hslash.1, ih hslash.2 hend]
    rfl

/-! ### What a token holds -/

/-- Whether a token holds what its kind asks for. -/
def Token.WellFormed : Token → Prop
  | identifier name => IsName name.toList
  | operator property _ => IsName property.toList
  | regex pattern flags =>
    hasBareSlash pattern.toList = false ∧ ∀ c ∈ flags.toList, isFlag c = true
  | _ => True

private theorem scanRegex_wellFormed (s : List Char) : (scanRegex s).token.WellFormed := by
  rw [scanRegex_token]
  constructor
  · rw [String.toList_ofList]
    exact hasBareSlash_splitClosed s
  · intro c hc
    rw [String.toList_ofList] at hc
    exact List.all_eq_true.1 List.all_takeWhile c hc

private theorem scanName_wellFormed {first : Char} (h : isNameStart first = true) (s : List Char) :
    (scanName first s).token.WellFormed := by
  have hname : IsName (String.ofList (first :: s.takeWhile isNamePart)).toList := by
    rw [String.toList_ofList]
    exact ⟨h, List.all_eq_true.1 List.all_takeWhile⟩
  rw [scanName_token]
  split
  · exact hname
  · exact hname

private theorem scan_wellFormed (s : List Char) : (scan s).token.WellFormed := by
  fun_cases scan s with
  | case7 c s =>
    rw [scanText_token]
    trivial
  | case8 s => exact scanRegex_wellFormed s
  | case9 c s _ _ _ _ _ _ _ hc => exact scanName_wellFormed hc s
  | _ => trivial

private theorem tokens_wellFormed (s : List Char) : ∀ t ∈ tokens s, t.WellFormed := by
  induction s using lexing_induction with
  | blank s hs =>
    rw [(tokens_eq_nil_iff s).2 hs]
    simp
  | step s hs ih =>
    rw [tokens_eq_cons hs]
    intro t ht
    rcases List.mem_cons.1 ht with rfl | ht
    · exact scan_wellFormed _
    · exact ih t ht

/-! ### What a test holds -/

/-- Whether the tests of a condition are such as can be read: its properties have names, flags are given
as some of the flags there are or not at all, and no slash in a regular expression would end it. -/
structure Legible (a : Condition) : Prop where
  names : ∀ property ∈ a.properties, IsName property.toList
  flags : ∀ r ∈ a.regexes, ∀ flags, r.2 = some flags →
    flags ≠ "" ∧ ∀ c ∈ flags.toList, isFlag c = true
  bodies : ∀ r ∈ a.regexes, hasBareSlash r.1.toList = false

private theorem legible_compare {property : String} (op : CompareOp) (value : String)
    (h : IsName property.toList) : Legible (compare property op value) where
  names := by
    rintro _ (_ | ⟨_, ⟨⟩⟩)
    exact h
  flags := by rintro _ ⟨⟩
  bodies := by rintro _ ⟨⟩

private theorem legible_ofRegex {property pattern flags : String} (h : IsName property.toList)
    (hregex : (Token.regex pattern flags).WellFormed) : Legible (ofRegex property pattern flags) where
  names := by
    rintro _ (_ | ⟨_, ⟨⟩⟩)
    exact h
  flags := by
    rintro _ (_ | ⟨_, ⟨⟩⟩) f hf
    split at hf
    next => cases hf
    next hne =>
      obtain rfl := Option.some.inj hf
      exact ⟨hne, hregex.2⟩
  bodies := by
    rintro _ (_ | ⟨_, ⟨⟩⟩)
    exact hregex.1

private theorem legible_append_iff {a b c : Condition} (hproperties : c.properties = a.properties ++ b.properties)
    (hregexes : c.regexes = a.regexes ++ b.regexes) : c.Legible ↔ a.Legible ∧ b.Legible := by
  constructor
  · rintro ⟨hn, hf, hb⟩
    rw [hproperties] at hn
    rw [hregexes] at hf hb
    exact ⟨⟨fun p hp => hn p (List.mem_append_left _ hp), fun r hr => hf r (List.mem_append_left _ hr),
        fun r hr => hb r (List.mem_append_left _ hr)⟩,
      ⟨fun p hp => hn p (List.mem_append_right _ hp), fun r hr => hf r (List.mem_append_right _ hr),
        fun r hr => hb r (List.mem_append_right _ hr)⟩⟩
  · rintro ⟨ha, hb⟩
    constructor
    · rw [hproperties]
      exact fun p hp => (List.mem_append.1 hp).elim (ha.names p) (hb.names p)
    · rw [hregexes]
      exact fun r hr => (List.mem_append.1 hr).elim (ha.flags r) (hb.flags r)
    · rw [hregexes]
      exact fun r hr => (List.mem_append.1 hr).elim (ha.bodies r) (hb.bodies r)

@[simp]
theorem legible_and {a b : Condition} : (and a b).Legible ↔ a.Legible ∧ b.Legible :=
  legible_append_iff rfl rfl

@[simp]
theorem legible_or {a b : Condition} : (or a b).Legible ↔ a.Legible ∧ b.Legible :=
  legible_append_iff rfl rfl

@[simp]
theorem legible_not {a : Condition} : (not a).Legible ↔ a.Legible :=
  ⟨fun h => ⟨h.names, h.flags, h.bodies⟩, fun h => ⟨h.names, h.flags, h.bodies⟩⟩

/-- Tokens that hold what they have to write legible conditions. -/
theorem Writes.legible {level : Level} {ts : List Token} {a : Condition} (h : Writes level ts a)
    (hts : ∀ t ∈ ts, t.WellFormed) : a.Legible := by
  induction h with
  | single _ ih => exact ih hts
  | @join k ts us a b _ _ iha ihb =>
    have ha := iha fun t ht => hts t (List.mem_append_left _ ht)
    have hb := ihb fun t ht => hts t (List.mem_append_right _ (List.mem_cons_of_mem _ ht))
    cases k with
    | or => exact legible_or.2 ⟨ha, hb⟩
    | and => exact legible_and.2 ⟨ha, hb⟩
  | not _ ih => exact legible_not.2 (ih fun t ht => hts t (List.mem_cons_of_mem _ ht))
  | primary _ ih => exact ih hts
  | group _ ih => exact ih fun t ht => hts t (List.mem_cons_of_mem _ (List.mem_append_left _ ht))
  | comparison _ _ => exact legible_compare _ _ (hts _ List.mem_cons_self)
  | regexOperator => exact legible_ofRegex (hts _ List.mem_cons_self) (hts _ (by simp))
  | regexIdentifier => exact legible_ofRegex (hts _ List.mem_cons_self) (hts _ (by simp))
  | regexUrl => exact legible_ofRegex isName_urlName (hts _ List.mem_cons_self)

/-- A condition that was read is legible. -/
theorem legible_of_parse {text : String} {a : Condition} (h : parse text = .ok a) : a.Legible :=
  ((parse_eq_ok_iff text a).1 h).legible (tokens_wellFormed text.toList)

end PagePolicy.Condition
