import PagePolicy.Proofs.Rule.Directives
import PagePolicy.Proofs.Text.Search

/-! The pattern of a line is what its directive and its clause leave of it. There are no blanks around a pattern, and
no byte order mark at its start; but one at its end stays there if a clause is cut off behind it, since only
blanks are trimmed at such a cut. -/

namespace PagePolicy.Line

open Text

/-! ### Behind the directive -/

/-- What is left of a text without the directive at its start. -/
inductive Body (t : List Char) : List Char → Prop where
  | allow {s u : List Char} : t = '@' :: '@' :: s → Trimmed isSpace s u → Body t u
  | highlight {digits gap rest u : List Char} : Highlights t digits gap rest → Trimmed isSpace rest u → Body t u
  | plain : ¬ "@@".toList <+: t → (¬ ∃ digits gap rest, Highlights t digits gap rest) → Body t t

section
variable {t u v : List Char} {l : Line}

private theorem Body.unique (hlast : ∀ c ∈ t.getLast?, isSpace c = false) (hu : Body t u) (hv : Body t v) : u = v := by
  cases hu with
  | allow hs htrim =>
    cases hv with
    | allow hs' htrim' =>
      obtain rfl := (List.cons.inj (List.cons.inj (hs.symm.trans hs')).2).2
      exact (trimmed_iff.1 htrim).trans (trimmed_iff.1 htrim').symm
    | highlight hparts _ => exact absurd ⟨_, hs.symm⟩ hparts.not_allows
    | plain hnot _ => exact absurd ⟨_, hs.symm⟩ hnot
  | highlight hparts htrim =>
    cases hv with
    | allow hs' _ => exact absurd ⟨_, hs'.symm⟩ hparts.not_allows
    | highlight hparts' htrim' =>
      obtain rfl := hparts.parts
      have hcolors := (hparts.splitColor_eq hlast).symm.trans (hparts'.splitColor_eq hlast)
      obtain ⟨-, hrest⟩ := Prod.mk.inj (Option.some.inj hcolors)
      rw [trimmed_iff.1 htrim, trimmed_iff.1 htrim', hrest]
    | plain _ hnot => exact absurd ⟨_, _, _, hparts⟩ hnot
  | plain hallow hhighlight =>
    cases hv with
    | allow hs' _ => exact absurd ⟨_, hs'.symm⟩ hallow
    | highlight hparts' _ => exact absurd ⟨_, _, _, hparts'⟩ hhighlight
    | plain => rfl

/-- The pattern with its clause is what the directive leaves. -/
theorem ReadAs.exists_body (hlast : ∀ c ∈ t.getLast?, isSpace c = false) (h : ReadAs t l) :
    ∃ body, Body t body ∧ ∃ action color unrecognized, l = withAction action color unrecognized body := by
  have hallow := h.action_eq_allow_iff
  have hhighlight := h.action_eq_highlight_iff hlast
  cases h with
  | @allow s ht => exact ⟨_, .allow ht (trimmed_trim isSpace s), _, _, _, rfl⟩
  | highlight ht hcolor =>
    obtain ⟨digits, gap, rest, hparts⟩ := highlights_of_splitColor hcolor
    subst ht
    obtain ⟨-, rfl⟩ := Prod.mk.inj (Option.some.inj (hcolor.symm.trans (hparts.splitColor_eq hlast)))
    exact ⟨_, .highlight hparts (trimmed_trim isSpace rest), _, _, _, rfl⟩
  | unrecognized => exact ⟨t, .plain (mt hallow.2 nofun) (mt hhighlight.2 nofun), _, _, _, rfl⟩
  | plain => exact ⟨t, .plain (mt hallow.2 nofun) (mt hhighlight.2 nofun), _, _, _, rfl⟩

namespace Body

variable (h : Body t u)
include h

private theorem first (hfirst : ∀ c ∈ t.head?, isSpace c = false) : ∀ c ∈ u.head?, isSpace c = false := by
  cases h with
  | allow _ htrim => exact htrim.first
  | highlight _ htrim => exact htrim.first
  | plain => exact hfirst

private theorem last (hlast : ∀ c ∈ t.getLast?, isSpace c = false) : ∀ c ∈ u.getLast?, isSpace c = false := by
  cases h with
  | allow _ htrim => exact htrim.last
  | highlight _ htrim => exact htrim.last
  | plain => exact hlast

/-- A directive leaves nothing only where two at signs stand alone. -/
theorem eq_nil_iff (ht : t ≠ []) (hlast : ∀ c ∈ t.getLast?, isSpace c = false) : u = [] ↔ t = "@@".toList := by
  cases h with
  | @allow s _ hs htrim =>
    subst hs
    constructor
    · rintro rfl
      have hspace := trimmed_nil_iff.1 htrim
      cases s with
      | nil => rfl
      | cons c s =>
        have hend := hlast ((c :: s).getLast (List.cons_ne_nil c s)) rfl
        exact absurd (hspace _ (List.getLast_mem _)) (Bool.eq_false_iff.1 hend)
    · intro heq
      obtain rfl : s = [] := (List.cons.inj (List.cons.inj heq).2).2
      exact (trimmed_iff.1 htrim).trans rfl
  | @highlight digits gap rest _ hparts htrim =>
    refine iff_of_false ?_ fun heq => hparts.not_allows (heq ▸ List.prefix_refl _)
    rintro rfl
    have hspace := trimmed_nil_iff.1 htrim _ (List.getLast_mem hparts.rest_ne)
    rw [hparts.getLast?_eq] at hlast
    have hend := hlast _ (List.getLast?_eq_getLast_of_ne_nil hparts.rest_ne)
    exact Bool.false_ne_true (hend.symm.trans hspace)
  | plain hallow _ => exact iff_of_false ht fun heq => hallow (heq ▸ List.prefix_refl _)

end Body

end

/-! ### Before the clause -/

private theorem insideParens_eq_some_iff {s source : List Char} :
    insideParens s = some source ↔ s = '(' :: source ++ [')'] := by
  constructor
  · intro h
    unfold insideParens at h
    split at h
    next inner =>
      split at h
      next hclose =>
        obtain ⟨front, rfl⟩ := List.getLast?_eq_some_iff.1 hclose
        rw [List.dropLast_concat] at h
        rw [Option.some.inj h]
        rfl
      next => cases h
    next => cases h
  · rintro rfl
    show (if (source ++ [')']).getLast? = some ')' then some (source ++ [')']).dropLast else none) = some source
    rw [List.getLast?_concat, if_pos rfl, List.dropLast_concat]

/-- A pattern is all of the text, or what stands before its clause in parentheses. -/
theorem splitClause_fst (s : List Char) :
    (splitClause s).1 = s ∨ ∃ before clause source, splitAtFirst conditionMark s = some (before, clause) ∧
      Trimmed isBlank clause ('(' :: source ++ [')']) ∧ (splitClause s).1 = trim isBlank before := by
  rw [splitClause]
  split
  next => exact .inl rfl
  next before clause hsplit =>
    split
    next => exact .inl rfl
    next source hsource =>
      exact .inr ⟨before, clause, source, hsplit, trimmed_iff.2 (insideParens_eq_some_iff.1 hsource).symm, rfl⟩

private theorem splitClause_fst_of_cut {s before clause source : List Char}
    (hsplit : splitAtFirst conditionMark s = some (before, clause))
    (hparens : Trimmed isBlank clause ('(' :: source ++ [')'])) : (splitClause s).1 = trim isBlank before := by
  have hsource : insideParens (trim isBlank clause) = some source :=
    insideParens_eq_some_iff.2 (trimmed_iff.1 hparens).symm
  rw [splitClause, hsplit]
  dsimp only
  rw [hsource]

/-- A text with a clause in parentheses behind its first ` @if `, and with a byte order mark before that which only
blanks follow. -/
structure MarkBeforeClause (s before gap clause source : List Char) : Prop where
  parts : s = (before ++ '\uFEFF' :: gap) ++ " @if ".toList ++ clause
  blank : ∀ c ∈ gap, isBlank c = true
  first : ∀ b a, s = b ++ " @if ".toList ++ a → (before ++ '\uFEFF' :: gap).length ≤ b.length
  parens : Trimmed isBlank clause ('(' :: source ++ [')'])

section
variable {s : List Char}

/-- What stands before a clause starts as the whole text does. -/
theorem head?_splitClause (hfirst : ∀ c ∈ s.head?, isSpace c = false) : (splitClause s).1.head? = s.head? := by
  rcases splitClause_fst s with heq | ⟨before, clause, source, hsplit, -, heq⟩
  · rw [heq]
  · have hs : s = before ++ (conditionMark ++ clause) := by
      rw [append_of_splitAtFirst hsplit, List.append_assoc]
    cases before with
    | nil =>
      have hspace : isSpace ' ' = false := hfirst ' ' (by rw [hs]; rfl)
      exact absurd hspace (by decide)
    | cons c before =>
      have hhead : s.head? = some c := by rw [hs]; rfl
      have hc : isBlank c = false := (Bool.or_eq_false_iff.1 (hfirst c hhead)).1
      rw [heq, hhead]
      exact (trimmed_trim isBlank (c :: before)).head?_eq rfl hc

private theorem getLast?_splitClause (hlast : ∀ c ∈ s.getLast?, isSpace c = false) :
    ∀ c ∈ (splitClause s).1.getLast?, isBlank c = false := by
  rcases splitClause_fst s with heq | ⟨before, clause, source, -, -, heq⟩
  · rw [heq]
    exact fun c hc => (Bool.or_eq_false_iff.1 (hlast c hc)).1
  · rw [heq]
    exact getLast?_trim isBlank before

/-- A byte order mark ends a pattern only at a cut, where only blanks have been trimmed. -/
theorem getLast?_splitClause_eq_mark_iff (hlast : ∀ c ∈ s.getLast?, isSpace c = false) :
    (splitClause s).1.getLast? = some '\uFEFF' ↔
      ∃ before gap clause source, MarkBeforeClause s before gap clause source := by
  constructor
  · intro hmark
    rcases splitClause_fst s with heq | ⟨before, clause, source, hsplit, hparens, heq⟩
    · rw [heq] at hmark
      exact absurd (hlast _ hmark) (by decide)
    · obtain ⟨front, hfront⟩ := List.getLast?_eq_some_iff.1 hmark
      obtain ⟨⟨b, gap, hbefore, hblank⟩, -, -⟩ := trimmed_trim isBlank before
      obtain ⟨hs, hfirst⟩ := splitAtFirst_eq_some_iff.1 hsplit
      have hparts : before = (b ++ front) ++ '\uFEFF' :: gap := by
        rw [hbefore, ← heq, hfront]
        simp only [List.append_assoc, List.cons_append, List.nil_append]
      rw [hparts] at hs hfirst
      exact ⟨b ++ front, gap, clause, source, hs, fun c hc => hblank c (List.mem_append_right b hc), hfirst, hparens⟩
  · rintro ⟨before, gap, clause, source, hparts, hblank, hfirst, hparens⟩
    have hsplit : splitAtFirst conditionMark s = some (before ++ '\uFEFF' :: gap, clause) :=
      splitAtFirst_eq_some_iff.2 ⟨hparts, hfirst⟩
    have htrim : trim isBlank (before ++ '\uFEFF' :: gap) = trim isBlank (before ++ ['\uFEFF']) := by
      have hcut := trim_append_append (s := before ++ ['\uFEFF']) (List.forall_mem_nil _) hblank
      rwa [List.nil_append, List.append_assoc] at hcut
    rw [splitClause_fst_of_cut hsplit hparens, htrim]
    exact (trimmed_trim isBlank _).getLast?_eq List.getLast?_concat (by decide)

end

/-- Without the blanks and byte order marks around it and without its directive, a line is its pattern, with a clause
after it or not. Whatever its directive and its clause are, the pattern starts with neither a blank nor a byte
order mark, it does not end with a blank, and it is empty only if the line is nothing but two at signs. It ends
with a byte order mark exactly if a clause in parentheses is cut off from it and such a mark stands before the
clause with at most blanks in between. -/
theorem pattern_ends_at_cut (raw : String) (l : Line) (h : read raw = some l) :
    ∃ t body, (∀ u, Trimmed (fun c => isBlank c || c = '\uFEFF') raw.toList u ↔ u = t) ∧ (∀ u, Body t u ↔ u = body) ∧
      (∀ c ∈ l.pattern.toList.head?, isBlank c = false ∧ c ≠ '\uFEFF') ∧
      (∀ c ∈ l.pattern.toList.getLast?, isBlank c = false) ∧
      (l.pattern.toList.getLast? = some '\uFEFF' ↔
        ∃ before gap clause source, MarkBeforeClause body before gap clause source) ∧
      (l.pattern = "" ↔ t = "@@".toList) := by
  have hfirst := head?_trim isSpace raw.toList
  have hlast := getLast?_trim isSpace raw.toList
  have ht : trim isSpace raw.toList ≠ [] := by
    intro hnil
    rw [(read_eq_none_iff raw).2 (.inl hnil)] at h
    cases h
  obtain ⟨body, hbody, action, color, unrecognized, rfl⟩ := (readAs_of_read h).exists_body hlast
  have hpattern : (withAction action color unrecognized body).pattern.toList = (splitClause body).1 :=
    String.toList_ofList
  have hhead := head?_splitClause (hbody.first hfirst)
  refine ⟨trim isSpace raw.toList, body, fun u => trimmed_iff, fun u => ⟨fun hu => hu.unique hlast hbody, ?_⟩,
    ?_, ?_, ?_, ?_⟩
  · rintro rfl
    exact hbody
  · rw [hpattern, hhead]
    intro c hc
    have hspace := Bool.or_eq_false_iff.1 (hbody.first hfirst c hc)
    exact ⟨hspace.1, of_decide_eq_false hspace.2⟩
  · rw [hpattern]
    exact getLast?_splitClause (hbody.last hlast)
  · rw [hpattern]
    exact getLast?_splitClause_eq_mark_iff (hbody.last hlast)
  · rw [← String.toList_inj, hpattern, ← hbody.eq_nil_iff ht hlast, String.toList_empty, ← List.head?_eq_none_iff,
      hhead, List.head?_eq_none_iff]

/-- A byte order mark behind the pattern of a line that highlights. -/
theorem pattern_ends_at_cut_highlight :
    let raw := "@7 a.org/*\uFEFF\u2003 @if (/x/)\r"
    ∃ l, read raw = some l ∧ l.pattern ≠ "" ∧ l.pattern.toList.getLast? = some '\uFEFF' := by
  intro raw
  have hread : read raw ≠ none := by
    rw [ne_eq, read_eq_none_iff]
    decide
  obtain ⟨l, hl⟩ := Option.ne_none_iff_exists'.1 hread
  obtain ⟨t, body, htrim, hbody, -, -, hmark, hempty⟩ := pattern_ends_at_cut raw l hl
  have ht : t = "@7 a.org/*\uFEFF\u2003 @if (/x/)".toList := by
    refine ((htrim _).1 ⟨⟨[], ['\r'], by decide, List.all_eq_true.1 rfl⟩, ?_, ?_⟩).symm
    · rintro c ⟨⟩
      rfl
    · rintro c ⟨⟩
      rfl
  have hparts : Highlights t ['7'] [' '] "a.org/*\uFEFF\u2003 @if (/x/)".toList :=
    ⟨ht.trans (by decide), by decide, List.forall_mem_singleton.2 (by decide), by decide,
      List.forall_mem_singleton.2 (by decide), by decide⟩
  have hrest : body = "a.org/*\uFEFF\u2003 @if (/x/)".toList :=
    ((hbody _).1 (.highlight hparts (trimmed_iff.2 (by decide)))).symm
  refine ⟨l, hl, fun h => absurd (ht.symm.trans (hempty.1 h)) (by decide), hmark.2 ?_⟩
  have hsplit : splitAtFirst " @if ".toList body = some ("a.org/*\uFEFF\u2003".toList, "(/x/)".toList) := by
    rw [hrest]
    decide
  obtain ⟨hbefore, hfirst⟩ := splitAtFirst_eq_some_iff.1 hsplit
  exact ⟨"a.org/*".toList, ['\u2003'], _, "/x/".toList, hbefore, List.forall_mem_singleton.2 (by decide), hfirst,
    trimmed_iff.2 (by decide)⟩

end PagePolicy.Line
