import Mathlib.Data.List.Induction
import Mathlib.Data.Nat.Bitwise
import PagePolicy.Regex.Literal

/-! The letters that write a set of flags. Their order does not matter, the first one that is wrong is the one that is
reported, and half of them change nothing about a regular expression. -/

namespace PagePolicy.Regex

/-! ### Letters and bits -/

def Flag.letter : Flag → Char
  | ignoreCase => 'i'
  | multiLine => 'm'
  | dotAll => 's'
  | unicode => 'u'
  | unicodeSets => 'v'
  | global => 'g'
  | sticky => 'y'
  | indices => 'd'

def Flag.place : Flag → Nat
  | ignoreCase => 0
  | multiLine => 1
  | dotAll => 2
  | unicode => 3
  | unicodeSets => 4
  | global => 5
  | sticky => 6
  | indices => 7

private theorem Flag.ofChar?_eq_some_iff {c : Char} {f : Flag} : ofChar? c = some f ↔ f.letter = c := by
  constructor
  · intro h
    unfold ofChar? at h
    split at h <;> cases h <;> rfl
  · rintro rfl
    cases f <;> rfl

private theorem Flag.letter_injective {f g : Flag} (h : f.letter = g.letter) : f = g :=
  Option.some.inj ((ofChar?_eq_some_iff.2 h).symm.trans (ofChar?_eq_some_iff.2 rfl))

private theorem Flag.bit_eq_two_pow (f : Flag) : f.bit = 2 ^ f.place := by
  cases f <;> rfl

namespace Flags

/-- The letters of the flags, in the order of their bits. -/
def letters : List Char := ['i', 'm', 's', 'u', 'v', 'g', 'y', 'd']

private theorem getElem?_letters_iff {k : Nat} {c : Char} :
    letters[k]? = some c ↔ ∃ f : Flag, f.place = k ∧ f.letter = c := by
  constructor
  · intro h
    match k, h with
    | 0, h => exact ⟨.ignoreCase, rfl, Option.some.inj h⟩
    | 1, h => exact ⟨.multiLine, rfl, Option.some.inj h⟩
    | 2, h => exact ⟨.dotAll, rfl, Option.some.inj h⟩
    | 3, h => exact ⟨.unicode, rfl, Option.some.inj h⟩
    | 4, h => exact ⟨.unicodeSets, rfl, Option.some.inj h⟩
    | 5, h => exact ⟨.global, rfl, Option.some.inj h⟩
    | 6, h => exact ⟨.sticky, rfl, Option.some.inj h⟩
    | 7, h => exact ⟨.indices, rfl, Option.some.inj h⟩
    | _ + 8, h => cases h
  · rintro ⟨f, rfl, rfl⟩
    cases f <;> rfl

private theorem mem_letters_iff {c : Char} : c ∈ letters ↔ ∃ f : Flag, f.letter = c := by
  rw [List.mem_iff_getElem?]
  simp only [getElem?_letters_iff]
  constructor
  · rintro ⟨-, f, -, hf⟩
    exact ⟨f, hf⟩
  · rintro ⟨f, hf⟩
    exact ⟨f.place, f, rfl, hf⟩

private theorem ofChar?_eq_none_iff {c : Char} : Flag.ofChar? c = Option.none ↔ c ∉ letters := by
  rw [mem_letters_iff, Option.eq_none_iff_forall_ne_some, not_exists]
  simp only [ne_eq, Flag.ofChar?_eq_some_iff]

private theorem getElem?_letters (f : Flag) : letters[f.place]? = some f.letter :=
  getElem?_letters_iff.2 ⟨f, rfl, rfl⟩

private theorem contains_eq_testBit (flags : Flags) (f : Flag) : flags.contains f = flags.bits.testBit f.place := by
  rw [contains, Flag.bit_eq_two_pow, Nat.and_two_pow]
  cases flags.bits.testBit f.place <;> simp

private theorem testBit_insert (flags : Flags) (f : Flag) (k : Nat) :
    (flags.insert f).bits.testBit k = true ↔ flags.bits.testBit k = true ∨ f.place = k := by
  rw [insert, Flag.bit_eq_two_pow, Nat.testBit_or, Nat.testBit_two_pow, Bool.or_eq_true, decide_eq_true_eq]

/-- The bits of the letters of a text are added. -/
theorem testBit_addLetters {flags r : Flags} {s : List Char} (h : flags.addLetters s = .ok r) (k : Nat) :
    r.bits.testBit k = true ↔ flags.bits.testBit k = true ∨ ∃ c ∈ s, letters[k]? = some c := by
  induction s generalizing flags with
  | nil =>
    cases h
    simp
  | cons c s ih =>
    rw [addLetters] at h
    split at h
    next => cases h
    next f hf =>
      split at h
      next => cases h
      next =>
        have hplace : f.place = k ↔ letters[k]? = some c := by
          have hletter := Flag.ofChar?_eq_some_iff.1 hf
          rw [getElem?_letters_iff]
          constructor
          · intro hk
            exact ⟨f, hk, hletter⟩
          · rintro ⟨g, hk, hg⟩
            rwa [Flag.letter_injective (hletter.trans hg.symm)]
        rw [ih h, testBit_insert, hplace]
        simp only [List.mem_cons, exists_eq_or_imp, or_assoc]

private theorem mem_of_addLetters {s : List Char} {flags : Flags} (h : none.addLetters s = .ok flags) (f : Flag) :
    flags.contains f = true ↔ f.letter ∈ s := by
  rw [contains_eq_testBit, testBit_addLetters h]
  simp [none, getElem?_letters]

/-! ### The first letter that is wrong -/

/-- Whether a text consists of letters of flags, none of them more than once. -/
structure Distinct (s : List Char) : Prop where
  nodup : s.Nodup
  known : ∀ c ∈ s, c ∈ letters

/-- Whether an error is about a letter after others: that it is no letter of a flag, or that it is one of the others. -/
def Error.IsAbout (before : List Char) (c : Char) (e : Error) : Prop :=
  e = .invalid c ∧ c ∉ letters ∨ e = .duplicate c ∧ c ∈ before

/-- Whether an error is about the first letter of a text that is wrong. -/
def Error.IsFirst (s : List Char) (e : Error) : Prop :=
  ∃ before c after, s = before ++ c :: after ∧ Distinct before ∧ e.IsAbout before c

section
variable {s t : List Char} {c : Char} {flags : Flags} {e : Error}

private theorem distinct_concat_iff : Distinct (s ++ [c]) ↔ Distinct s ∧ c ∈ letters ∧ c ∉ s := by
  have hnodup : (s ++ [c]).Nodup ↔ s.Nodup ∧ c ∉ s := by
    rw [(List.perm_append_singleton c s).nodup_iff, List.nodup_cons, and_comm]
  constructor
  · rintro ⟨hs, hknown⟩
    obtain ⟨hs, hnew⟩ := hnodup.1 hs
    exact ⟨⟨hs, fun d hd => hknown d (List.mem_append_left _ hd)⟩, hknown c (by simp), hnew⟩
  · rintro ⟨⟨hs, hknown⟩, hc, hnew⟩
    refine ⟨hnodup.2 ⟨hs, hnew⟩, fun d hd => ?_⟩
    rcases List.mem_append.1 hd with hd | hd
    · exact hknown d hd
    · rwa [List.mem_singleton.1 hd]

private theorem Distinct.of_append (h : Distinct (s ++ t)) : Distinct s :=
  ⟨(List.nodup_append.1 h.nodup).1, fun c hc => h.known c (List.mem_append_left _ hc)⟩

private theorem Error.IsFirst.append (h : e.IsFirst s) (t : List Char) : e.IsFirst (s ++ t) := by
  obtain ⟨before, c, after, rfl, hrest⟩ := h
  exact ⟨before, c, after ++ t, by simp, hrest⟩

private theorem Error.IsFirst.not_distinct (h : e.IsFirst s) : ¬ Distinct s := by
  obtain ⟨before, c, after, rfl, -, habout⟩ := h
  intro hs
  rw [List.append_cons] at hs
  obtain ⟨-, hc, hnew⟩ := distinct_concat_iff.1 hs.of_append
  rcases habout with ⟨-, hunknown⟩ | ⟨-, hold⟩
  · exact hunknown hc
  · exact hnew hold

private theorem addLetters_append (flags : Flags) (s t : List Char) :
    flags.addLetters (s ++ t) = (flags.addLetters s).bind fun flags => flags.addLetters t := by
  induction s generalizing flags with
  | nil => rfl
  | cons c s ih =>
    rw [List.cons_append, addLetters, addLetters]
    cases Flag.ofChar? c with
    | none => rfl
    | some f =>
      dsimp only
      split
      · rfl
      · exact ih _

/-- After letters that have been accepted, one more is accepted or there is an error about it. -/
theorem addLetters_singleton_eq_error_iff (hs : none.addLetters s = .ok flags) (hdistinct : Distinct s) :
    flags.addLetters [c] = .error e ↔ e.IsAbout s c := by
  rw [addLetters, Error.IsAbout]
  cases hc : Flag.ofChar? c with
  | none =>
    have hunknown := ofChar?_eq_none_iff.1 hc
    have hnew : c ∉ s := fun hold => hunknown (hdistinct.known c hold)
    simp [hunknown, hnew, eq_comm]
  | some f =>
    have hletter := Flag.ofChar?_eq_some_iff.1 hc
    have hknown : c ∈ letters := mem_letters_iff.2 ⟨f, hletter⟩
    have hmem := mem_of_addLetters hs f
    rw [hletter] at hmem
    dsimp only
    split
    next hold => simp [hknown, hmem.1 hold, eq_comm]
    next hnew => simp [hknown, mt hmem.2 hnew, addLetters]

/-- A text is accepted, or there is an error about the first letter of it that is wrong. -/
theorem addLetters_cases (s : List Char) :
    (Distinct s ∧ ∃ flags, none.addLetters s = .ok flags) ∨
      ∃ e : Error, e.IsFirst s ∧ none.addLetters s = .error e := by
  induction s using List.reverseRecOn with
  | nil => exact .inl ⟨⟨.nil, nofun⟩, none, rfl⟩
  | append_singleton s c ih =>
    rw [addLetters_append]
    rcases ih with ⟨hs, flags, hflags⟩ | ⟨e, he, hs⟩
    · have hstep {e : Error} := addLetters_singleton_eq_error_iff (c := c) (e := e) hflags hs
      rw [hflags]
      cases hlast : flags.addLetters [c] with
      | error e => exact .inr ⟨e, ⟨s, c, [], rfl, hs, hstep.1 hlast⟩, hlast⟩
      | ok r =>
        have hnot (e : Error) : ¬ e.IsAbout s c := by
          rw [← hstep, hlast]
          exact nofun
        have hc : c ∈ letters := Decidable.byContradiction fun hunknown => hnot _ (.inl ⟨rfl, hunknown⟩)
        have hnew : c ∉ s := fun hold => hnot _ (.inr ⟨rfl, hold⟩)
        exact .inl ⟨distinct_concat_iff.2 ⟨hs, hc, hnew⟩, r, hlast⟩
    · rw [hs]
      exact .inr ⟨e, he.append [c], rfl⟩

private theorem exists_addLetters_iff : (∃ flags, none.addLetters s = .ok flags) ↔ Distinct s := by
  rcases addLetters_cases s with ⟨hs, hok⟩ | ⟨e, he, herror⟩
  · exact iff_of_true hok hs
  · refine iff_of_false ?_ he.not_distinct
    rintro ⟨flags, hok⟩
    cases herror.symm.trans hok

private theorem addLetters_eq_error_iff : none.addLetters s = .error e ↔ e.IsFirst s := by
  constructor
  · intro h
    rcases addLetters_cases s with ⟨-, flags, hok⟩ | ⟨e', he', herror⟩
    · cases hok.symm.trans h
    · cases herror.symm.trans h
      exact he'
  · rintro ⟨before, c, after, rfl, hbefore, habout⟩
    obtain ⟨flags, hflags⟩ := exists_addLetters_iff.2 hbefore
    rw [List.append_cons, addLetters_append, addLetters_append, hflags]
    dsimp only [Except.bind]
    rw [(addLetters_singleton_eq_error_iff hflags hbefore).2 habout]

end

/-! ### Whole texts -/

section
variable {text other : String} {flags : Flags}

/-- The letters are read first, and then it is seen whether both Unicode flags are among them. -/
theorem parse_eq (text : String) :
    parse text = (none.addLetters text.toList).bind fun flags =>
      if flags.contains .unicode && flags.contains .unicodeSets then .error .conflicting else .ok flags := rfl

private theorem parse_eq_ok_iff :
    parse text = .ok flags ↔ none.addLetters text.toList = .ok flags ∧
      (flags.contains .unicode && flags.contains .unicodeSets) = false := by
  rw [parse_eq]
  cases none.addLetters text.toList with
  | error e => simp [Except.bind]
  | ok r =>
    show (if _ then _ else _) = _ ↔ _
    split
    next hboth =>
      refine iff_of_false nofun ?_
      rintro ⟨⟨⟩, hnot⟩
      rw [hboth] at hnot
      cases hnot
    next hboth =>
      rw [Bool.not_eq_true] at hboth
      constructor
      · rintro ⟨⟩
        exact ⟨rfl, hboth⟩
      · exact And.left

theorem mem_of_parse (h : parse text = .ok flags) (f : Flag) : flags.contains f = true ↔ f.letter ∈ text.toList :=
  mem_of_addLetters (parse_eq_ok_iff.1 h).1 f

private theorem testBit_of_parse (h : parse text = .ok flags) (k : Nat) :
    flags.bits.testBit k = true ↔ ∃ c ∈ text.toList, letters[k]? = some c := by
  rw [testBit_addLetters (parse_eq_ok_iff.1 h).1]
  simp [none]

private theorem not_both_of_addLetters (h : none.addLetters text.toList = .ok flags) :
    (flags.contains .unicode && flags.contains .unicodeSets) = false ↔ ¬ ('u' ∈ text.toList ∧ 'v' ∈ text.toList) := by
  have hu : flags.contains .unicode = true ↔ 'u' ∈ text.toList := mem_of_addLetters h .unicode
  have hv : flags.contains .unicodeSets = true ↔ 'v' ∈ text.toList := mem_of_addLetters h .unicodeSets
  rw [← hu, ← hv, ← Bool.and_eq_true, Bool.not_eq_true]

private theorem exists_parse_iff :
    (∃ flags, parse text = .ok flags) ↔ Distinct text.toList ∧ ¬ ('u' ∈ text.toList ∧ 'v' ∈ text.toList) := by
  simp only [parse_eq_ok_iff]
  rw [← exists_addLetters_iff]
  constructor
  · rintro ⟨flags, h, hboth⟩
    exact ⟨⟨flags, h⟩, (not_both_of_addLetters h).1 hboth⟩
  · rintro ⟨⟨flags, h⟩, hboth⟩
    exact ⟨flags, h, (not_both_of_addLetters h).2 hboth⟩

/-- That the two Unicode flags exclude each other is an error only where no letter by itself is wrong. -/
theorem parse_eq_error_iff {e : Error} :
    parse text = .error e ↔
      e.IsFirst text.toList ∨
        Distinct text.toList ∧ ('u' ∈ text.toList ∧ 'v' ∈ text.toList) ∧ e = .conflicting := by
  rw [parse_eq]
  rcases addLetters_cases text.toList with ⟨hdistinct, flags, h⟩ | ⟨e', he', h⟩
  · have hfirst : ¬ e.IsFirst text.toList := fun he => he.not_distinct hdistinct
    rw [h]
    dsimp only [Except.bind]
    by_cases hpair : 'u' ∈ text.toList ∧ 'v' ∈ text.toList
    · have hboth : (flags.contains .unicode && flags.contains .unicodeSets) = true := by
        rw [← Bool.not_eq_false, not_both_of_addLetters h]
        exact not_not_intro hpair
      rw [if_pos hboth]
      simp [hfirst, hdistinct, hpair, eq_comm]
    · rw [(not_both_of_addLetters h).2 hpair, if_neg Bool.false_ne_true]
      simp [hfirst, hpair]
  · have hfirst : e.IsFirst text.toList ↔ e' = e := by
      rw [← addLetters_eq_error_iff, h, Except.error.injEq]
    have hdistinct : ¬ Distinct text.toList := he'.not_distinct
    simp [h, Except.bind, hfirst, hdistinct]

/-- The letters write the same flags in any order. -/
theorem parse_perm (h : parse text = .ok flags) (hperm : text.toList.Perm other.toList) :
    parse other = .ok flags := by
  obtain ⟨⟨hnodup, hknown⟩, hboth⟩ := exists_parse_iff.1 ⟨flags, h⟩
  have hmem (c : Char) : c ∈ text.toList ↔ c ∈ other.toList := hperm.mem_iff
  simp only [hmem] at hknown hboth
  obtain ⟨flags', h'⟩ := exists_parse_iff.2 ⟨⟨hperm.nodup_iff.1 hnodup, hknown⟩, hboth⟩
  have hbits : flags'.bits = flags.bits := by
    refine Nat.eq_of_testBit_eq fun k => ?_
    rw [Bool.eq_iff_iff, testBit_of_parse h, testBit_of_parse h']
    simp only [hmem]
  rw [h', show flags' = flags from congrArg Flags.mk hbits]

/-- The text without the letter of the sticky flag. -/
def withoutSticky (text : String) : String :=
  String.ofList (text.toList.filter (· != 'y'))

private theorem mem_withoutSticky {c : Char} : c ∈ (withoutSticky text).toList ↔ c ∈ text.toList ∧ c ≠ 'y' := by
  rw [withoutSticky, String.toList_ofList, List.mem_filter, bne_iff_ne]

/-- Without the letter of the sticky flag the text writes the same flags but for that one. -/
theorem parse_withoutSticky (h : parse text = .ok flags) :
    ∃ flags', parse (withoutSticky text) = .ok flags' ∧ flags'.contains .sticky = false ∧
      ∀ f, f ≠ .sticky → flags'.contains f = flags.contains f := by
  obtain ⟨⟨hnodup, hknown⟩, hboth⟩ := exists_parse_iff.1 ⟨flags, h⟩
  have hfewer : (withoutSticky text).toList.Nodup := by
    rw [withoutSticky, String.toList_ofList]
    exact hnodup.filter _
  obtain ⟨flags', h'⟩ := exists_parse_iff.2 ⟨⟨hfewer, fun c hc => hknown c (mem_withoutSticky.1 hc).1⟩,
    fun ⟨hu, hv⟩ => hboth ⟨(mem_withoutSticky.1 hu).1, (mem_withoutSticky.1 hv).1⟩⟩
  refine ⟨flags', h', ?_, fun f hf => ?_⟩
  · rw [← Bool.not_eq_true, mem_of_parse h', mem_withoutSticky]
    rintro ⟨-, hne⟩
    exact hne rfl
  · have hne : f.letter ≠ 'y' := fun hy => hf (Flag.letter_injective hy)
    rw [Bool.eq_iff_iff, mem_of_parse h', mem_of_parse h, mem_withoutSticky, and_iff_left hne]

end

end Flags

namespace Literal

/-- The letters that change what a body stands for. -/
def effective : List Char := ['i', 'm', 's', 'y']

private theorem compile_eq_of_effective [Regex.Engine] {body text other : String} {flags flags' : Flags}
    (h : Flags.parse text = .ok flags) (h' : Flags.parse other = .ok flags')
    (hsame : ∀ c ∈ effective, c ∈ text.toList ↔ c ∈ other.toList) :
    (⟨body, text⟩ : Literal).compile = (⟨body, other⟩ : Literal).compile := by
  have hcontains (f : Flag) (hf : f.letter ∈ effective) : flags.contains f = flags'.contains f := by
    rw [Bool.eq_iff_iff, Flags.mem_of_parse h, Flags.mem_of_parse h']
    exact hsame _ hf
  have hmode : mode flags = mode flags' := by
    rw [mode, mode, hcontains .ignoreCase (by decide), hcontains .multiLine (by decide),
      hcontains .dotAll (by decide)]
  have hsource (s : List Char) : source s flags = source s flags' := by
    rw [source, source, hcontains .sticky (by decide)]
  rw [compile, compile, h, h']
  dsimp only
  rw [hmode, hsource]

/-- A text writes flags if it has letters of flags only, none of them twice, and not both those of the Unicode
flags. It sets the bits of its letters, in whatever order they stand. Else the first letter that is none or
that has stood before is told, and that the Unicode flags exclude each other only if there is no such letter.
Two texts that write flags have a body read in the same way if they agree on four of the letters. -/
theorem letters_decide_flags [Regex.Engine] (body text : String) :
    ((∃ flags, Flags.parse text = .ok flags) ↔
        text.toList.Nodup ∧ (∀ c ∈ text.toList, c ∈ ['i', 'm', 's', 'u', 'v', 'g', 'y', 'd']) ∧
          ¬ ('u' ∈ text.toList ∧ 'v' ∈ text.toList)) ∧
      (∀ flags, Flags.parse text = .ok flags →
        (∀ k, flags.bits.testBit k = true ↔
          ∃ c ∈ text.toList, ['i', 'm', 's', 'u', 'v', 'g', 'y', 'd'][k]? = some c) ∧
          ∀ other : String, text.toList.Perm other.toList → Flags.parse other = .ok flags) ∧
      (∀ e, Flags.parse text = .error e ↔
        e.IsFirst text.toList ∨
          Flags.Distinct text.toList ∧ ('u' ∈ text.toList ∧ 'v' ∈ text.toList) ∧ e = .conflicting) ∧
      ∀ other : String, (∃ flags, Flags.parse text = .ok flags) → (∃ flags, Flags.parse other = .ok flags) →
        (∀ c ∈ ['i', 'm', 's', 'y'], c ∈ text.toList ↔ c ∈ other.toList) →
          (⟨body, text⟩ : Literal).compile = (⟨body, other⟩ : Literal).compile := by
  refine ⟨?_, fun flags h => ?_, fun e => Flags.parse_eq_error_iff, ?_⟩
  · rw [Flags.exists_parse_iff]
    constructor
    · rintro ⟨⟨hnodup, hknown⟩, hboth⟩
      exact ⟨hnodup, hknown, hboth⟩
    · rintro ⟨hnodup, hknown, hboth⟩
      exact ⟨⟨hnodup, hknown⟩, hboth⟩
  · exact ⟨Flags.testBit_of_parse h, fun other hperm => Flags.parse_perm h hperm⟩
  · rintro other ⟨flags, h⟩ ⟨flags', h'⟩ hsame
    exact compile_eq_of_effective h h' hsame

/-- Of the letters `d`, `i` and `g` only the second one changes what a body stands for. -/
theorem letters_decide_flags_dig :
    Flags.parse "gid" = .ok ⟨1 + 32 + 128⟩ ∧
      (⟨"a.b", "dig"⟩ : Literal).compile = (⟨"a.b", "iu"⟩ : Literal).compile := by
  obtain ⟨-, hbits, -, hsame⟩ := letters_decide_flags "a.b" "dig"
  exact ⟨(hbits _ rfl).2 "gid" (by decide), hsame "iu" ⟨_, rfl⟩ ⟨_, rfl⟩ (by simp)⟩

/-- The letter that is wrong by itself is told, not the pair of letters before it. -/
example : Flags.parse "uvgug" = .error (.duplicate 'u') ∧ Flags.parse "uvg" = .error .conflicting := by
  decide

end Literal

end PagePolicy.Regex
