import PagePolicy.Proofs.Pattern.Language
import PagePolicy.Proofs.Text.Search

/-! Which URLs a glob accepts: those that have its scheme and whose host, path and query it stands for. A text
that is no URL has it in some part. -/

namespace PagePolicy

/-- Whether a text is a glob when it is read as a pattern: it does not stand for every URL, and has no second
slash after one at its start. -/
structure Pattern.IsGlob (text : String) : Prop where
  notAll : text ∉ allUrls
  noLiteral : text.toList.head? = some '/' → '/' ∉ text.toList.tail

private theorem Pattern.compile_of_isGlob [Regex.Engine] {text : String} (h : IsGlob text) :
    compile text = .glob (.ofPattern text.toList) := by
  have hliteral : Regex.Literal.parse text = none := by
    rw [Regex.Literal.parse]
    split
    next rest htext =>
      have hslash : '/' ∉ rest := by simpa [htext] using h.noLiteral
      rw [Text.splitAtLast_eq_none_iff.2 hslash, Option.map_none]
    next => rfl
  rw [compile, if_neg h.notAll, hliteral]

namespace Glob

/-- How a pattern is divided into a scheme and the rest: at the first mark of a scheme, if there is one. -/
inductive Divided : List Char → Option (List Char) → List Char → Prop where
  | marked {scheme rest : List Char}
      (first : ∀ before after, scheme ++ schemeMark ++ rest = before ++ schemeMark ++ after →
        scheme.length ≤ before.length) :
      Divided (scheme ++ schemeMark ++ rest) (some scheme) rest
  | unmarked {s : List Char} (absent : ¬ schemeMark <:+: s) : Divided s none s

theorem divided_splitScheme (s : List Char) : Divided s (splitScheme s).1 (splitScheme s).2 := by
  rw [splitScheme]
  split
  next scheme rest hsplit =>
    have hs := Text.append_of_splitAtFirst hsplit
    subst hs
    exact .marked fun before after => Text.splitAtFirst_le hsplit
  next hsplit => exact .unmarked (Text.splitAtFirst_eq_none hsplit)

/-- A pattern is divided in one way only. -/
theorem Divided.unique {s rest rest' : List Char} {scheme scheme' : Option (List Char)}
    (h : Divided s scheme rest) (h' : Divided s scheme' rest') : scheme = scheme' ∧ rest = rest' := by
  cases h with
  | marked first =>
    generalize hs : _ ++ schemeMark ++ _ = s at h'
    cases h' with
    | marked first' =>
      have hle := first _ _ hs
      have hge := first' _ _ hs.symm
      rw [List.append_assoc, List.append_assoc] at hs
      obtain ⟨rfl, hrest⟩ := List.append_inj hs (Nat.le_antisymm hle hge)
      exact ⟨rfl, List.append_cancel_left hrest⟩
    | unmarked absent => exact absurd ⟨_, _, hs⟩ absent
  | unmarked absent =>
    cases h' with
    | marked first => exact absurd ⟨_, _, rfl⟩ absent
    | unmarked => exact ⟨rfl, rfl⟩

theorem divided_iff {s rest : List Char} {scheme : Option (List Char)} :
    Divided s scheme rest ↔ splitScheme s = (scheme, rest) := by
  constructor
  · intro h
    obtain ⟨hscheme, hrest⟩ := h.unique (divided_splitScheme s)
    exact Prod.ext hscheme.symm hrest.symm
  · intro h
    have hs := divided_splitScheme s
    rwa [h] at hs

private theorem allowsScheme_ofPattern (s : List Char) (wanted : String) :
    (ofPattern s).allowsScheme wanted = true ↔
      ∀ scheme ∈ (splitScheme (normalize s)).1, scheme = ['*'] ∨ scheme = wanted.toList := by
  have hscheme : (ofPattern s).scheme = (splitScheme (normalize s)).1.map String.ofList := rfl
  have hstar : "*".toList = ['*'] := rfl
  simp only [allowsScheme, hscheme, Option.all_map, Option.all_eq_true,
    Bool.or_eq_true, decide_eq_true_eq, ← String.toList_inj, String.toList_ofList, hstar, Option.mem_def]

private theorem normalize_of_ascii {s : List Char} (h : ∀ c ∈ s, c.toNat < 0x80) : normalize s = s :=
  if_pos (List.all_eq_true.2 fun c hc => decide_eq_true (h c hc))

private theorem subject_ofPattern (s : List Char) :
    (ofPattern s).subject = some (anchored (splitScheme (normalize s)).2) :=
  parse_anchoredText _

/-- What is looked for in a text that is no URL is the pattern as it was written. -/
theorem fallback_ofPattern (s : List Char) :
    (ofPattern s).fallback = some (Regex.chain (s.map Regex.ofGlobChar)) :=
  parse_regexText _

end Glob

/-- The two tests of a glob, on the scheme and on the rest of the pattern with its host in the form that hosts
have in URLs. -/
theorem Pattern.accepts_iff_of_isGlob [Regex.Engine] {pattern url : String} {u : Url} (hglob : IsGlob pattern)
    (hurl : Url.parse url = some u) :
    (compile pattern).accepts (Target.ofText url) = true ↔
      (∀ name ∈ (Glob.splitScheme (Glob.normalize pattern.toList)).1,
        name = ['*'] ∨ name = u.scheme.toList) ∧
      Glob.Stands (Glob.splitScheme (Glob.normalize pattern.toList)).2
        (u.host ++ u.path ++ u.search).toList := by
  rw [compile_of_isGlob hglob, accepts, Glob.accepts, Target.ofText, hurl]
  simp only [Bool.and_eq_true, Glob.allowsScheme_ofPattern, Glob.subject_ofPattern, Option.any_some,
    Glob.anchored_occursIn_iff, Url.subject]

/-- A pattern in ASCII is compared with URLs as it is written. -/
theorem Pattern.accepts_iff_of_ascii [Regex.Engine] {pattern url : String} {u : Url} {scheme : Option (List Char)}
    {rest : List Char} (hglob : IsGlob pattern) (hascii : ∀ c ∈ pattern.toList, c.toNat < 0x80)
    (hdivided : Glob.Divided pattern.toList scheme rest) (hurl : Url.parse url = some u) :
    (compile pattern).accepts (Target.ofText url) = true ↔
      (∀ name ∈ scheme, name = ['*'] ∨ name = u.scheme.toList) ∧
      Glob.Stands rest (u.host ++ u.path ++ u.search).toList := by
  rw [accepts_iff_of_isGlob hglob hurl, Glob.normalize_of_ascii hascii, Glob.divided_iff.1 hdivided]

/-- A glob accepts a URL exactly when its scheme, if it has one, is `*` or that of the URL, and the rest of it
stands for the host, the path and the query. Scheme and rest are those of the pattern with its host in
the form that hosts have in URLs. -/
theorem accepts_iff_stands [Regex.Engine] {pattern url : String} {u : Url} (hglob : Pattern.IsGlob pattern)
    (hurl : Url.parse url = some u) :
    (Pattern.compile pattern).accepts (Target.ofText url) = true ↔
      ∃ scheme rest, Glob.Divided (Glob.normalize pattern.toList) scheme rest ∧
        (∀ name ∈ scheme, name = ['*'] ∨ name = u.scheme.toList) ∧
        Glob.Stands rest (u.host ++ u.path ++ u.search).toList := by
  rw [Pattern.accepts_iff_of_isGlob hglob hurl]
  constructor
  · rintro ⟨hscheme, hstands⟩
    exact ⟨_, _, Glob.divided_splitScheme _, hscheme, hstands⟩
  · rintro ⟨scheme, rest, hdivided, hscheme, hstands⟩
    rw [Glob.divided_iff.1 hdivided]
    exact ⟨hscheme, hstands⟩

theorem accepts_iff_stands_signs :
    Pattern.IsGlob "https://*.example.com/a+b(c)*" ∧
      Url.parse "HTTPS://www.Example.com/a+b(c)/d?q=1#top" =
        some ⟨"https", "www.example.com", "/a+b(c)/d", some "q=1"⟩ ∧
      (Pattern.compile "https://*.example.com/a+b(c)*").accepts
        (Target.ofText "HTTPS://www.Example.com/a+b(c)/d?q=1#top") = true := by
  have hglob : Pattern.IsGlob "https://*.example.com/a+b(c)*" := ⟨by decide, by decide⟩
  have hurl : Url.parse "HTTPS://www.Example.com/a+b(c)/d?q=1#top" =
      some ⟨"https", "www.example.com", "/a+b(c)/d", some "q=1"⟩ := by decide +kernel
  have hdivided : Glob.Divided (Glob.normalize "https://*.example.com/a+b(c)*".toList)
      (some "https".toList) "*.example.com/a+b(c)*".toList :=
    Glob.divided_iff.2 (by decide +kernel)
  refine ⟨hglob, hurl, (accepts_iff_stands hglob hurl).2
    ⟨some "https".toList, "*.example.com/a+b(c)*".toList, hdivided, ?_, ?_⟩⟩
  · rintro _ ⟨⟩
    exact .inr rfl
  · exact ⟨[], [("www".toList, ".example.com/a+b(c)".toList), ("/d?q=1".toList, [])],
      by decide, by decide, by decide, by decide⟩

/-- A glob accepts a text that is no URL exactly when it stands for some part of the text. The glob is taken as
it was written, with its scheme and with its host as it is. -/
theorem accepts_text_iff_part_stands [Regex.Engine] {pattern text : String} (hglob : Pattern.IsGlob pattern)
    (hurl : Url.parse text = none) :
    (Pattern.compile pattern).accepts (Target.ofText text) = true ↔
      ∃ part, part <:+: text.toList ∧ Glob.Stands pattern.toList part := by
  rw [Pattern.compile_of_isGlob hglob, Pattern.accepts, Glob.accepts, Target.ofText, hurl]
  simp only [Glob.fallback_ofPattern, Option.any_some, Glob.unanchored_occursIn_iff]

theorem accepts_text_iff_part_stands_host :
    Pattern.IsGlob "https://*.é.com/a+b" ∧ Url.parse "see https://www.é.com/a+b\nand so on" = none ∧
      (Pattern.compile "https://*.é.com/a+b").accepts
        (Target.ofText "see https://www.é.com/a+b\nand so on") = true := by
  have hglob : Pattern.IsGlob "https://*.é.com/a+b" := ⟨by decide, by decide⟩
  have hurl : Url.parse "see https://www.é.com/a+b\nand so on" = none := by decide +kernel
  refine ⟨hglob, hurl, (accepts_text_iff_part_stands hglob hurl).2
    ⟨"https://www.é.com/a+b".toList, ⟨"see ".toList, "\nand so on".toList, by decide⟩, ?_⟩⟩
  exact ⟨"https://".toList, [("www".toList, ".é.com/a+b".toList)], by decide, by decide, by decide,
    by decide⟩

end PagePolicy
