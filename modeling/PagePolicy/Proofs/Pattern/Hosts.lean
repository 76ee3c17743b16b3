import PagePolicy.Proofs.Pattern.Acceptance
import PagePolicy.Proofs.Url.Shape

/-! How far the host of a glob decides the hosts of the URLs that it accepts. The host of a URL stands right
before its path, so that a star can reach from one into the other, and a URL without a host has only a
path to be compared with the glob. -/

namespace PagePolicy

namespace Glob

/-- A small letter, a digit, a dot or a hyphen: what a host in ASCII is made of. -/
def IsHostLetter (c : Char) : Prop :=
  c.isLower = true ∨ c.isDigit = true ∨ c = '.' ∨ c = '-'

instance (c : Char) : Decidable (IsHostLetter c) :=
  inferInstanceAs (Decidable (_ ∨ _ ∨ _ ∨ _))

private theorem IsHostLetter.ascii {c : Char} (h : IsHostLetter c) : c.toNat < 0x80 := by
  have halphanum (h : c.isAlphanum = true) : c.toNat < 0x80 :=
    Nat.lt_succ_of_lt (Host.isHostChar_of_isAlphanum h).lt
  rcases h with h | h | rfl | rfl
  · exact halphanum (Text.isAlphanum_iff.2 (.inl (Text.isAlpha_of_isLower h)))
  · exact halphanum (Text.isAlphanum_iff.2 (.inr h))
  · decide
  · decide

/-- No sign that divides patterns or URLs is in a text of such characters. -/
theorem not_mem_of_isHostLetter {s : List Char} (h : ∀ c ∈ s, IsHostLetter c) {sign : Char}
    (hsign : ¬ IsHostLetter sign) : sign ∉ s :=
  fun hmem => hsign (h sign hmem)

/-! ### Patterns in ASCII -/

/-- URLs are ASCII, so a glob that is not, even with its host in the form that hosts have in URLs, accepts
none. -/
theorem ascii_of_accepts [Regex.Engine] {pattern url : String} {u : Url} (hglob : Pattern.IsGlob pattern)
    (hurl : Url.parse url = some u)
    (hacc : (Pattern.compile pattern).accepts (Target.ofText url) = true) :
    ∀ c ∈ normalize pattern.toList, c.toNat < 0x80 := by
  have hshape := Url.shaped_of_parse hurl
  obtain ⟨hscheme, hstands⟩ := (Pattern.accepts_iff_of_isGlob hglob hurl).1 hacc
  have hdivided := divided_splitScheme (normalize pattern.toList)
  generalize normalize pattern.toList = s at hscheme hstands hdivided ⊢
  generalize (splitScheme s).1 = scheme, (splitScheme s).2 = rest at hscheme hstands hdivided
  have hmark : ∀ c ∈ schemeMark, c.toNat < 0x80 := List.all_iff_forall_prop.1 (by decide)
  have hrest : ∀ c ∈ rest, c.toNat < 0x80 := by
    intro c hc
    by_cases hstar : c = '*'
    · subst hstar
      decide
    · exact Nat.lt_succ_of_lt (hshape.subject c (mem_of_stands hstands hc hstar)).lt
  cases hdivided with
  | @marked name _ first =>
    have hname : ∀ c ∈ name, c.toNat < 0x80 := by
      rcases hscheme name rfl with rfl | rfl
      · exact List.all_iff_forall_prop.1 (by decide)
      · exact fun c hc => Url.ascii_of_isSchemeChar (hshape.scheme c hc)
    intro c hc
    rcases List.mem_append.1 hc with hc | hc
    · exact (List.mem_append.1 hc).elim (hname c) (hmark c)
    · exact hrest c hc
  | unmarked => exact hrest

/-- In a pattern without a scheme, what follows the host stays as it is. -/
theorem normalize_path {host path : List Char} (hhost : '/' ∉ host)
    (hmark : ¬ schemeMark <:+: host ++ '/' :: path) :
    ∃ host', normalize (host ++ '/' :: path) = host' ++ '/' :: path := by
  have hletters : ∀ c ∈ host, decide (c ≠ '/') = true := by
    rintro c hc
    exact decide_eq_true fun heq => hhost (heq ▸ hc)
  have htake : (host ++ '/' :: path).takeWhile (· ≠ '/') = host := by
    rw [List.takeWhile_append_of_pos hletters]
    simp
  have hdrop : (host ++ '/' :: path).dropWhile (· ≠ '/') = '/' :: path := by
    rw [List.dropWhile_append_of_pos hletters]
    simp
  rw [normalize, divided_iff.1 (.unmarked hmark)]
  dsimp only
  rw [htake, hdrop]
  split
  · exact ⟨host, rfl⟩
  · split
    · exact ⟨host, rfl⟩
    · exact ⟨_, rfl⟩

end Glob

private theorem Pattern.isGlob_cons {pattern : String} {c : Char} {s : List Char} (hs : pattern.toList = c :: s)
    (hslash : c ≠ '/') (hall : c = '<' ∨ c = '*' → s.head? = some '.') : IsGlob pattern where
  notAll := by
    intro hin
    rcases List.mem_cons.1 hin with rfl | hin
    · cases hs
      exact absurd (hall (.inl rfl)) (by decide)
    · obtain rfl := List.mem_singleton.1 hin
      cases hs
      exact absurd (hall (.inr rfl)) (by decide)
  noLiteral := by
    rw [hs]
    rintro ⟨⟩
    exact absurd rfl hslash

/-! ### A host before the path -/

section
variable {host rest url : String} {u : Url}

private theorem toList_hostAndPath (host rest : String) :
    (host ++ "/" ++ rest).toList = host.toList ++ '/' :: rest.toList := by
  simp [String.toList_append]

private theorem Pattern.isGlob_hostAndPath (hne : host ≠ "") (hhost : ∀ c ∈ host.toList, Glob.IsHostLetter c) :
    IsGlob (host ++ "/" ++ rest) := by
  obtain ⟨c, s, hs⟩ := List.exists_cons_of_ne_nil (mt String.toList_eq_nil_iff.1 hne)
  have hc : Glob.IsHostLetter c := hhost c (hs ▸ List.mem_cons_self)
  have hsign {sign : Char} (h : ¬ Glob.IsHostLetter sign) : c ≠ sign := fun heq => h (heq ▸ hc)
  refine isGlob_cons ((toList_hostAndPath host rest).trans (congrArg (· ++ _) hs)) (hsign (by decide)) ?_
  rintro (heq | heq)
  · exact absurd heq (hsign (by decide))
  · exact absurd heq (hsign (by decide))

private theorem Glob.unmarked_hostAndPath (hhost : ∀ c ∈ host.toList, IsHostLetter c)
    (hrest : ¬ schemeMark <:+: rest.toList) : ¬ schemeMark <:+: (host ++ "/" ++ rest).toList := by
  intro hin
  rw [toList_hostAndPath] at hin
  have hslash : schemeMark <:+: ['/'] ++ rest.toList :=
    Text.infix_of_infix_append (not_mem_of_isHostLetter hhost (by decide)) hin
  exact hrest (Text.infix_of_infix_append (by decide) hslash)

/-- A pattern that begins with a host and a slash compares its text with URLs as it is: it has no scheme, and
if it is not in ASCII, it accepts no URL. -/
theorem stands_of_accepts_host [Regex.Engine] (hne : host ≠ "") (hhost : ∀ c ∈ host.toList, Glob.IsHostLetter c)
    (hrest : ¬ Glob.schemeMark <:+: rest.toList) (hurl : Url.parse url = some u)
    (hacc : (Pattern.compile (host ++ "/" ++ rest)).accepts (Target.ofText url) = true) :
    Glob.Stands (host.toList ++ '/' :: rest.toList) (u.host ++ u.path ++ u.search).toList := by
  have hglob : Pattern.IsGlob (host ++ "/" ++ rest) := Pattern.isGlob_hostAndPath hne hhost
  have hmark := Glob.unmarked_hostAndPath hhost hrest
  have hascii : ∀ c ∈ (host ++ "/" ++ rest).toList, c.toNat < 0x80 := by
    have hkept := Glob.ascii_of_accepts hglob hurl hacc
    rw [toList_hostAndPath] at hmark hkept ⊢
    obtain ⟨host', hnormal⟩ := Glob.normalize_path (Glob.not_mem_of_isHostLetter hhost (by decide)) hmark
    rw [hnormal] at hkept
    intro c hc
    rcases List.mem_append.1 hc with hc | hc
    · exact (hhost c hc).ascii
    · exact hkept c (List.mem_append_right host' hc)
  rw [← toList_hostAndPath]
  exact ((Pattern.accepts_iff_of_ascii hglob hascii (.unmarked hmark) hurl).1 hacc).2

/-- A glob with a host before the first slash accepts URLs of this host, and otherwise only URLs that have no
host and begin their path with it. -/
theorem host_of_accepts [Regex.Engine] (hne : host ≠ "") (hhost : ∀ c ∈ host.toList, Glob.IsHostLetter c)
    (hrest : ¬ Glob.schemeMark <:+: rest.toList) (hurl : Url.parse url = some u)
    (hacc : (Pattern.compile (host ++ "/" ++ rest)).accepts (Target.ofText url) = true) :
    u.host = host ∨ u.host = "" ∧ (host ++ "/").toList <+: u.path.toList := by
  have hshape := Url.shaped_of_parse hurl
  have hstands := stands_of_accepts_host hne hhost hrest hurl hacc
  rw [Glob.stands_append (Glob.not_mem_of_isHostLetter hhost (by decide)),
    String.toList_append, String.toList_append, List.append_assoc] at hstands
  obtain ⟨_, hsubject, hstands⟩ := hstands
  obtain ⟨v, rfl, -⟩ := (Glob.stands_cons (by decide)).1 hstands
  by_cases hempty : u.host = ""
  · refine .inr ⟨hempty, Text.prefix_of_prefix_append ?_ u.search_start ⟨v, ?_⟩⟩
    · rw [String.toList_append, List.mem_append, not_or]
      exact ⟨Glob.not_mem_of_isHostLetter hhost (by decide), by decide⟩
    · simpa [hempty, String.toList_append] using hsubject.symm
  · refine .inl (String.toList_inj.1 (Text.eq_of_append_eq ?_ ?_ hsubject))
    · exact fun hslash => (hshape.host _ hslash).ne rfl
    · intro c hc
      rcases hshape.gap hempty hc with rfl | rfl
      · exact Glob.not_mem_of_isHostLetter hhost (by decide)
      · exact Glob.not_mem_of_isHostLetter hhost (by decide)

theorem host_of_accepts_query :
    ∃ u, Url.parse "https://www.Example.com:8080/a/b?c=d" = some u ∧
      (Pattern.compile ("www.example.com" ++ "/" ++ "a*")).accepts
        (Target.ofText "https://www.Example.com:8080/a/b?c=d") = true ∧
      (u.host = "www.example.com" ∨
        u.host = "" ∧ ("www.example.com" ++ "/").toList <+: u.path.toList) := by
  have hurl : Url.parse "https://www.Example.com:8080/a/b?c=d" =
      some ⟨"https", "www.example.com", "/a/b", some "c=d"⟩ := by decide +kernel
  have hacc : (Pattern.compile ("www.example.com" ++ "/" ++ "a*")).accepts
      (Target.ofText "https://www.Example.com:8080/a/b?c=d") = true := by decide +kernel
  have hhost : ∀ c ∈ "www.example.com".toList, Glob.IsHostLetter c :=
    List.all_iff_forall_prop.1 (by decide)
  exact ⟨_, hurl, hacc, host_of_accepts (by decide) hhost (by decide) hurl hacc⟩

/-- A URL without a host is accepted for its path. -/
theorem not_host_of_accepts :
    ¬ ∀ (host rest url : String) (u : Url), host ≠ "" → (∀ c ∈ host.toList, Glob.IsHostLetter c) →
      ¬ Glob.schemeMark <:+: rest.toList → Url.parse url = some u →
      (Pattern.compile (host ++ "/" ++ rest)).accepts (Target.ofText url) = true → u.host = host := by
  intro h
  have hhost : ("" : String) = "example.com" :=
    h "example.com" "*" "mailto:example.com/x" ⟨"mailto", "", "example.com/x", none⟩
      (by decide) (List.all_iff_forall_prop.1 (by decide)) (by decide) (by decide +kernel)
      (by decide +kernel)
  exact absurd hhost (by decide)

end

/-! ### A star before the domain -/

section
variable {domain url : String} {u : Url}

private theorem not_mem_dot (hdomain : ∀ c ∈ domain.toList, Glob.IsHostLetter c) {sign : Char}
    (hsign : ¬ Glob.IsHostLetter sign) : sign ∉ '.' :: domain.toList :=
  Glob.not_mem_of_isHostLetter (List.forall_mem_cons.2 ⟨by decide, hdomain⟩) hsign

private theorem toList_starDomain (domain : String) :
    ("*." ++ domain ++ "/*").toList = '*' :: ('.' :: domain.toList ++ ['/'] ++ ['*']) := by
  simp [String.toList_append]

/-- A pattern of a star, a dot, a domain, a slash and a star looks for what is between its stars. -/
theorem accepts_iff_infix [Regex.Engine] (hdomain : ∀ c ∈ domain.toList, Glob.IsHostLetter c)
    (hurl : Url.parse url = some u) :
    (Pattern.compile ("*." ++ domain ++ "/*")).accepts (Target.ofText url) = true ↔
      '.' :: domain.toList ++ ['/'] <:+: (u.host ++ u.path ++ u.search).toList := by
  have htext := toList_starDomain domain
  have hchars (c : Char) (hc : c ∈ ("*." ++ domain ++ "/*").toList) :
      c ∈ ['*', '.', '/'] ∨ Glob.IsHostLetter c := by
    have hletter := hdomain c
    rw [htext] at hc
    grind
  have hascii : ∀ c ∈ ("*." ++ domain ++ "/*").toList, c.toNat < 0x80 := by
    have hsigns : ∀ c ∈ ['*', '.', '/'], c.toNat < 0x80 := List.all_iff_forall_prop.1 (by decide)
    exact fun c hc => (hchars c hc).elim (hsigns c) Glob.IsHostLetter.ascii
  have hmark : ¬ Glob.schemeMark <:+: ("*." ++ domain ++ "/*").toList := fun hin =>
    absurd (hchars ':' (hin.mem (by decide))) (by decide)
  have hglob : Pattern.IsGlob ("*." ++ domain ++ "/*") :=
    Pattern.isGlob_cons htext (by decide) fun _ => rfl
  have hstar : '*' ∉ '.' :: domain.toList ++ ['/'] := by
    rw [List.mem_append, not_or]
    exact ⟨not_mem_dot hdomain (by decide), by decide⟩
  have hline : '\n' ∉ (u.host ++ u.path ++ u.search).toList := fun h =>
    absurd ((Url.shaped_of_parse hurl).subject '\n' h).ge (by decide)
  rw [Pattern.accepts_iff_of_ascii hglob hascii (.unmarked hmark) hurl, htext,
    Glob.stands_between_stars hstar hline]
  exact and_iff_right nofun

/-- A glob with a star before a domain accepts the hosts that end with a dot and the domain, and otherwise just
the URLs in whose path or query a dot, the domain and a slash stand one after another. -/
theorem accepts_subdomains_iff [Regex.Engine] (hdomain : ∀ c ∈ domain.toList, Glob.IsHostLetter c)
    (hurl : Url.parse url = some u) :
    (Pattern.compile ("*." ++ domain ++ "/*")).accepts (Target.ofText url) = true ↔
      ("." ++ domain).toList <:+ u.host.toList ∧ "/".toList <+: u.path.toList ∨
        ("." ++ domain ++ "/").toList <:+: (u.path ++ u.search).toList := by
  have hslash : "/".toList = ['/'] := rfl
  have hname : ("." ++ domain).toList = '.' :: domain.toList := by
    rw [String.toList_append]
    rfl
  rw [String.toList_append (s := "." ++ domain), hslash, hname, accepts_iff_infix hdomain hurl]
  refine (Url.shaped_of_parse hurl).infix_subject_iff ?_ ?_
  · exact not_mem_dot hdomain (by decide)
  · exact not_mem_dot hdomain (by decide)

theorem accepts_subdomains_iff_foreign :
    Url.parse "https://evil.com/x.example.com/" = some ⟨"https", "evil.com", "/x.example.com/", none⟩ ∧
      (Pattern.compile ("*." ++ "example.com" ++ "/*")).accepts
        (Target.ofText "https://evil.com/x.example.com/") = true := by
  have hurl : Url.parse "https://evil.com/x.example.com/" =
      some ⟨"https", "evil.com", "/x.example.com/", none⟩ := by decide +kernel
  have hdomain : ∀ c ∈ "example.com".toList, Glob.IsHostLetter c :=
    List.all_iff_forall_prop.1 (by decide)
  exact ⟨hurl, (accepts_subdomains_iff hdomain hurl).2 (.inr (by decide +kernel))⟩

/-- A path is enough for the domain to be found. -/
theorem not_subdomain_of_accepts :
    ¬ ∀ (domain url : String) (u : Url), (∀ c ∈ domain.toList, Glob.IsHostLetter c) →
      Url.parse url = some u →
      (Pattern.compile ("*." ++ domain ++ "/*")).accepts (Target.ofText url) = true →
      ("." ++ domain).toList <:+ u.host.toList := by
  intro h
  have hsuffix : ("." ++ "example.com").toList <:+ "evil.com".toList :=
    h "example.com" "https://evil.com/x.example.com/" ⟨"https", "evil.com", "/x.example.com/", none⟩
      (List.all_iff_forall_prop.1 (by decide)) (by decide +kernel) (by decide +kernel)
  exact absurd hsuffix (by decide +kernel)

end

end PagePolicy
