import PagePolicy.Proofs.Pattern.Acceptance
import PagePolicy.Proofs.Url.Shape

/-! What is read as the scheme of a pattern: all that stands before the first mark of a scheme, also when this
mark belongs to a URL inside the path or the query of the pattern. -/

namespace PagePolicy

section
variable {pattern url : String} {u : Url} {before rest : List Char}

private theorem toList_anyScheme (pattern : String) :
    ("*://" ++ pattern).toList = ['*'] ++ Glob.schemeMark ++ pattern.toList :=
  String.toList_append

private theorem Pattern.isGlob_anyScheme (hmark : Glob.schemeMark <:+: pattern.toList) :
    IsGlob ("*://" ++ pattern) where
  notAll := by
    intro hin
    rcases List.mem_cons.1 hin with hall | hin
    · have hlist := (toList_anyScheme pattern).symm.trans (congrArg String.toList hall)
      exact absurd (List.head_eq_of_cons_eq hlist) (by decide)
    · have hany : "*://" ++ pattern = "*://" ++ "*/*" := List.mem_singleton.1 hin
      obtain rfl := (String.append_right_inj _).1 hany
      exact absurd hmark (by decide)
  noLiteral := by
    intro hhead
    rw [toList_anyScheme] at hhead
    exact absurd (Option.some.inj hhead) (by decide)

/-- A star as the scheme leaves the whole pattern to be compared with the URL. -/
theorem Glob.divided_anyScheme (pattern : String) :
    Divided ("*://" ++ pattern).toList (some ['*']) pattern.toList := by
  rw [toList_anyScheme]
  refine .marked fun before after h => ?_
  cases before with
  | nil => exact absurd (List.head_eq_of_cons_eq h) (by decide)
  | cons => exact Nat.succ_le_succ (Nat.zero_le _)

/-- What stands before a mark in the path or the query is no scheme of a URL. -/
theorem not_scheme_of_mem_slash (hslash : '/' ∈ before) (hurl : Url.parse url = some u) :
    ¬ (before = ['*'] ∨ before = u.scheme.toList) := by
  rintro (rfl | rfl)
  · exact absurd hslash (by decide)
  · exact absurd ((Url.shaped_of_parse hurl).scheme '/' hslash) (by decide)

/-- A glob without a scheme whose path or query has the mark of one accepts no URL, even those that it accepts
when the scheme is left open in so many words. -/
theorem rejects_embedded_mark [Regex.Engine] (hglob : Pattern.IsGlob pattern)
    (hascii : ∀ c ∈ pattern.toList, c.toNat < 0x80)
    (hdivided : Glob.Divided pattern.toList (some before) rest) (hslash : '/' ∈ before)
    (hurl : Url.parse url = some u) :
    (Pattern.compile pattern).accepts (Target.ofText url) = false ∧
      ((Pattern.compile ("*://" ++ pattern)).accepts (Target.ofText url) = true ↔
        Glob.Stands pattern.toList (u.host ++ u.path ++ u.search).toList) := by
  constructor
  · rw [← Bool.not_eq_true, Pattern.accepts_iff_of_ascii hglob hascii hdivided hurl]
    exact fun ⟨hscheme, _⟩ => not_scheme_of_mem_slash hslash hurl (hscheme before rfl)
  · have hmark : Glob.schemeMark <:+: pattern.toList := by
      generalize pattern.toList = s at hdivided
      cases hdivided with
      | marked => exact ⟨before, rest, rfl⟩
    have hany : ∀ c ∈ ("*://" ++ pattern).toList, c.toNat < 0x80 := by
      have hopen : ∀ c ∈ ['*'] ++ Glob.schemeMark, c.toNat < 0x80 :=
        List.all_iff_forall_prop.1 (by decide)
      rw [toList_anyScheme]
      exact fun c hc => (List.mem_append.1 hc).elim (hopen c) (hascii c)
    rw [Pattern.accepts_iff_of_ascii (Pattern.isGlob_anyScheme hmark) hany
      (Glob.divided_anyScheme pattern) hurl]
    refine and_iff_right fun name hname => ?_
    cases hname
    exact .inl rfl

theorem rejects_embedded_mark_redirect :
    Url.parse "https://example.com/r?u=https://x.org/y" =
        some ⟨"https", "example.com", "/r", some "u=https://x.org/y"⟩ ∧
      (Pattern.compile "example.com/r?u=https://x.org/*").accepts
        (Target.ofText "https://example.com/r?u=https://x.org/y") = false ∧
      (Pattern.compile ("*://" ++ "example.com/r?u=https://x.org/*")).accepts
        (Target.ofText "https://example.com/r?u=https://x.org/y") = true := by
  have hurl : Url.parse "https://example.com/r?u=https://x.org/y" =
      some ⟨"https", "example.com", "/r", some "u=https://x.org/y"⟩ := by decide +kernel
  have hdivided : Glob.Divided "example.com/r?u=https://x.org/*".toList
      (some "example.com/r?u=https".toList) "x.org/*".toList :=
    Glob.divided_iff.2 (by decide +kernel)
  have hstands : Glob.Stands "example.com/r?u=https://x.org/*".toList
      "example.com/r?u=https://x.org/y".toList :=
    ⟨"example.com/r?u=https://x.org/".toList, [("y".toList, [])],
      by decide, by decide, by decide, by decide⟩
  have hascii : ∀ c ∈ "example.com/r?u=https://x.org/*".toList, c.toNat < 0x80 :=
    List.all_iff_forall_prop.1 (by decide)
  obtain ⟨hclosed, hopen⟩ :=
    rejects_embedded_mark ⟨by decide, by decide⟩ hascii hdivided (by decide) hurl
  exact ⟨hurl, hclosed, hopen.2 hstands⟩

end

end PagePolicy
