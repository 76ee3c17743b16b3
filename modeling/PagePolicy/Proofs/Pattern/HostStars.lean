import PagePolicy.Proofs.Host.Labels
import PagePolicy.Proofs.Pattern.UnicodeHosts
import PagePolicy.Proofs.Url.Decoded

/-! Stars in hosts that are not in ASCII. Letters stand for the stars while the host gets the form that it has in
URLs. In a label in ASCII they come out where they were, and then the pattern accepts every host that has other
words there. In any other label, Punycode writes digits that depend on the number of letters. -/

namespace PagePolicy

open Text (Filled)

/-! ### Letters for stars -/

private theorem Text.filled_replaceAll {c : Char} {word : List Char} (s : List Char) :
    Filled c (· = word) s (Text.replaceAll [c] word s) := by
  induction s with
  | nil =>
    rw [Text.replaceAll_nil (List.cons_ne_nil _ _)]
    exact .nil
  | cons d s ih =>
    by_cases hd : d = c
    · subst hd
      rw [← List.singleton_append, Text.replaceAll_mark (List.cons_ne_nil _ _)]
      exact .fill rfl ih
    · have hnot : ¬ [c] <+: d :: s := fun hprefix => hd (List.cons_prefix_cons.1 hprefix).1.symm
      rw [Text.replaceAll_cons hnot]
      exact .keep ih

namespace Glob

private theorem isWord_of_eq_letters : ∀ w, w = wildcardLetters → Text.IsWord w := by
  rintro _ rfl
  exact ⟨by decide, List.all_eq_true.1 (by decide)⟩

private theorem eq_cons_of_eq_letters : ∀ w, w = wildcardLetters → ∃ v, w = 's' :: v := by
  rintro _ rfl
  exact ⟨"gwildcard".toList, by decide⟩

section
variable {template lettered named rest tail : List Char}

/-- A star stands for the word in its place, and for a star. -/
theorem stands_star_of_filled (hnamed : Filled '*' Text.IsWord ('*' :: template) named)
    (hrest : ∀ later, Filled '*' Text.IsWord template later → Stands rest (later ++ tail)) :
    Stands ('*' :: rest) (named ++ tail) := by
  cases hnamed with
  | keep h => exact stands_star.2 ⟨['*'], _, rfl, by decide, hrest _ h⟩
  | @fill word _ later hword h =>
    have hline : '\n' ∉ word := fun hin => absurd (hword.lower '\n' hin) (by decide)
    exact stands_star.2 ⟨word, later ++ tail, List.append_assoc .., hline, hrest _ h⟩

/-- No letters that stand for a star overlap with others: their first one is not among the rest. -/
theorem exists_wildcardLetters_eq : ∃ first later, wildcardLetters = first :: later ∧ first ∉ later ∧
    '*' ∉ first :: later ∧ '\n' ∉ first :: later :=
  ⟨'s', "gwildcard".toList, by decide, by decide, by decide, by decide⟩

/-- A host with words in place of stars is one that the host with letters in place of the same stars stands
for, when the letters are stars again. Letters that the host has itself become a star as well. -/
theorem stands_of_filled (hlettered : Filled '*' (· = wildcardLetters) template lettered)
    (hnamed : Filled '*' Text.IsWord template named) (hrest : Stands rest tail) :
    Stands (Text.replaceAll wildcardLetters ['*'] lettered ++ rest) (named ++ tail) := by
  obtain ⟨first, later, hletters, hfirst, hstar, hline⟩ := exists_wildcardLetters_eq
  rw [hletters] at hlettered ⊢
  have hne : first :: later ≠ [] := List.cons_ne_nil _ _
  induction hn : template.length using Nat.strong_induction_on generalizing template lettered named with
  | _ n ih =>
    subst hn
    cases hlettered with
    | nil =>
      cases hnamed
      rw [Text.replaceAll_nil hne]
      exact hrest
    | @fill word template lettered hword h =>
      subst hword
      rw [Text.replaceAll_mark hne, List.append_assoc]
      exact stands_star_of_filled hnamed fun u hu => ih _ (Nat.lt_succ_self _) hu h rfl
    | @keep c template lettered h =>
      by_cases hprefix : first :: later <+: c :: lettered
      · obtain ⟨after, hafter⟩ := hprefix
        obtain ⟨rfl, rfl⟩ := List.cons.inj hafter
        have hstart : ∀ w, w = first :: later → ∃ d v, w = d :: v ∧ d ∉ later := by
          rintro _ rfl
          exact ⟨first, later, rfl, hfirst⟩
        obtain ⟨template', rfl, hkept⟩ := h.of_append_right hstart
        obtain ⟨u, rfl, hu⟩ := Filled.of_append_left (a := first :: later) hstar hnamed
        have hlength : template'.length < (first :: (later ++ template')).length := by
          rw [List.length_cons, List.length_append]
          omega
        have hstands := ih _ hlength hu hkept rfl
        rw [← hafter, Text.replaceAll_mark hne, List.append_assoc]
        exact stands_star.2 ⟨first :: later, u ++ tail, List.append_assoc .., hline, hstands⟩
      · rw [Text.replaceAll_cons hprefix, List.cons_append]
        by_cases hc : c = '*'
        · subst hc
          exact stands_star_of_filled hnamed fun u hu => ih _ (Nat.lt_succ_self _) hu h rfl
        · obtain ⟨u, rfl, hu⟩ := hnamed.of_cons hc
          exact (stands_cons hc).2 ⟨u ++ tail, rfl, ih _ (Nat.lt_succ_self _) hu h rfl⟩

end

end Glob

/-! ### Hosts filled in from a template -/

/-- Whether a URL of the web has a domain name, and not an address, for a host. -/
structure Url.HasDomain (u : Url) : Prop where
  noBracket : u.host.toList.head? ≠ some '['
  noAddress : ∀ address, u.host.toList ≠ Host.showV4 address

namespace Url

/-- An address has no letters. -/
theorem hasDomain_of_mem {u : Url} {c : Char} (hbracket : u.host.toList.head? ≠ some '[')
    (hc : c ∈ u.host.toList) (hdot : c ≠ '.') (hdigit : ¬ c.isDigit = true) : u.HasDomain := by
  refine ⟨hbracket, fun address h => ?_⟩
  rw [h] at hc
  rcases Text.mem_intercalate hc with hc | ⟨part, hpart, hc⟩
  · exact hdot (List.mem_singleton.1 hc)
  · obtain ⟨unit, -, rfl⟩ := List.mem_map.1 hpart
    exact hdigit (Nat.isDigit_of_mem_toDigits (by decide) (by decide) hc)

/-- Whether the labels with stars are in ASCII, in the text of a host. -/
def StarsInAscii (s : List Char) : Prop :=
  ∀ text, (decode s).bind Host.replaced = some text →
    ∀ label ∈ List.splitOn '.' text, '*' ∈ label → ∀ c ∈ label, c.toNat < 0x80

private theorem starsInAscii_iff {s text : List Char} (h : (decode s).bind Host.replaced = some text) :
    StarsInAscii s ↔
      (List.splitOn '.' text).all (fun label => !label.contains '*' || label.all (·.toNat < 0x80)) = true := by
  have htext : StarsInAscii s ↔
      ∀ label ∈ List.splitOn '.' text, '*' ∈ label → ∀ c ∈ label, c.toNat < 0x80 := by
    refine ⟨fun hstars => hstars text h, fun hascii text' h' => ?_⟩
    obtain rfl := Option.some.inj (h.symm.trans h')
    exact hascii
  rw [htext]
  simp [imp_iff_not_or]

section
variable {template lettered named letteredText namedText letteredDomain namedDomain : List Char}

/-- The domain names that a host makes, with letters and with other words in place of its stars, differ only
there. -/
theorem exists_filled_domain (hstars : StarsInAscii template)
    (hlettered : Filled '*' (· = Glob.wildcardLetters) template lettered)
    (hnamed : Filled '*' Text.IsWord template named)
    (hletteredText : decode lettered = some letteredText) (hnamedText : decode named = some namedText)
    (hletteredDomain : Host.domainToAscii letteredText = some letteredDomain)
    (hnamedDomain : Host.domainToAscii namedText = some namedDomain) :
    ∃ domain, Filled '*' (· = Glob.wildcardLetters) domain letteredDomain ∧
      Filled '*' Text.IsWord domain namedDomain := by
  have hword := Glob.isWord_of_eq_letters
  have hescape : ∀ w, w = Glob.wildcardLetters → ∃ c v, w = c :: v ∧ hexDigit? c = none := by
    intro w hw
    obtain ⟨v, hv⟩ := Glob.eq_cons_of_eq_letters w hw
    exact ⟨'s', v, hv, by decide⟩
  obtain ⟨letteredKept, hletteredKept, hletteredAscii⟩ := Host.of_domainToAscii hletteredDomain
  obtain ⟨namedKept, hnamedKept, hnamedAscii⟩ := Host.of_domainToAscii hnamedDomain
  obtain ⟨text, htext, hletteredFilled⟩ := exists_decode_of_filled hword hescape hlettered hletteredText
  obtain ⟨kept, hkept, hletteredKeptFilled⟩ := Host.exists_replaced_of_filled hword hletteredFilled hletteredKept
  -- a percent sign that is not part of an escape would be left in the domain name
  have hpercent : '%' ∉ text := by
    intro hin
    have hin' : '%' ∈ letteredText := hletteredFilled.mem_of_template hin (by decide)
    exact Host.percent_not_mem hletteredAscii (Host.mem_of_replaced hletteredKept hin' (by decide))
  have hnamedFilled := filled_of_decode (fun w => id) htext hpercent hnamed hnamedText
  obtain ⟨kept', hkept', hnamedKeptFilled⟩ := Host.exists_replaced_of_filled (fun w => id) hnamedFilled hnamedKept
  cases hkept.symm.trans hkept'
  have hlabels := hstars kept (by rw [htext, Option.bind_some, hkept])
  exact Host.exists_filled_asciiOf hword (fun w => id) hlabels hletteredKeptFilled hnamedKeptFilled
    hletteredAscii hnamedAscii

/-- The host of a URL is one that a host with stars stands for, in its form in URLs, when the URL has the host
with words in place of the stars. -/
theorem stands_webHost {form host rest tail : List Char} (hstars : StarsInAscii template)
    (hlettered : Filled '*' (· = Glob.wildcardLetters) template lettered)
    (hnamed : Filled '*' Text.IsWord template named)
    (hform : WebHost lettered form) (hhost : WebHost named host)
    (hnoBracket : host.head? ≠ some '[') (hnoAddress : ∀ address, host ≠ Host.showV4 address)
    (hrest : Glob.Stands rest tail) :
    Glob.Stands (Text.replaceAll Glob.wildcardLetters ['*'] form ++ rest) (host ++ tail) := by
  cases hhost with
  | bracket => exact absurd rfl hnoBracket
  | @address _ _ _ address => exact absurd rfl (hnoAddress address)
  | name hnamedHead hnamedText hnamedDomain _ hnoNumber =>
    cases hform with
    | bracket pieces =>
      have hstart : ∀ w, w = Glob.wildcardLetters → ∃ c v, w = c :: v ∧ c ∉ ['['] := by
        intro w hw
        obtain ⟨v, hv⟩ := Glob.eq_cons_of_eq_letters w hw
        exact ⟨'s', v, hv, by decide⟩
      obtain ⟨template', rfl, -⟩ := Filled.of_append_right (b := ['[']) hstart hlettered
      obtain ⟨inside, rfl, -⟩ := Filled.of_append_left (a := ['[']) (by decide) hnamed
      exact absurd rfl hnamedHead
    | @address _ _ domain _ _ hletteredText hletteredDomain hnumber hread =>
      -- an address has no letters for stars, and so the two domain names are the same
      obtain ⟨template', hletteredFilled, hnamedFilled⟩ := exists_filled_domain hstars hlettered hnamed
        hletteredText hnamedText hletteredDomain hnamedDomain
      have hsign {c : Char} (hc : ¬ Host.IsAddressChar c) : c ∉ domain := fun hin =>
        hc (Host.isAddressChar_of_readV4 hread hin)
      have hkept : domain = template' := by
        refine hletteredFilled.eq_of_words (c := 's') (fun w hw => ?_) (hsign (by decide))
        obtain ⟨v, rfl⟩ := Glob.eq_cons_of_eq_letters w hw
        exact List.mem_cons_self
      have hstar : '*' ∉ template' := hkept ▸ hsign (by decide)
      have hsame : host = domain := (hnamedFilled.eq_of_not_mem hstar).trans hkept.symm
      rw [hsame, hnumber] at hnoNumber
      cases hnoNumber
    | name _ hletteredText hletteredDomain =>
      obtain ⟨template', hletteredFilled, hnamedFilled⟩ := exists_filled_domain hstars hlettered hnamed
        hletteredText hnamedText hletteredDomain hnamedDomain
      exact Glob.stands_of_filled hletteredFilled hnamedFilled hrest

end

end Url

/-- Any path and query is one that a slash and a star stand for. -/
theorem Url.stands_anyPath {url : String} {u : Url} (hurl : Url.parse url = some u)
    (hpath : u.path.toList.head? = some '/') : Glob.Stands "/*".toList (u.path ++ u.search).toList := by
  obtain ⟨rest, hrest⟩ := List.head?_eq_some_iff.1 hpath
  rw [String.toList_append, hrest]
  have hline : '\n' ∉ rest ++ u.search.toList := by
    intro hin
    have hplain : IsPlain '\n' := by
      refine (shaped_of_parse hurl).subject '\n' ?_
      rw [String.toList_append, String.toList_append, hrest]
      rcases List.mem_append.1 hin with hin | hin <;> simp [hin]
    exact absurd hplain.ge (by decide)
  refine (Glob.stands_cons (by decide)).2 ⟨rest ++ u.search.toList, rfl, Glob.stands_star.2 ?_⟩
  exact ⟨_, [], (List.append_nil _).symm, hline, Glob.stands_nil.2 rfl⟩

/-- A pattern whose host is not in ASCII accepts each URL that has words in place of the stars of the host, if
each label with a star is in ASCII. -/
theorem accepts_words_for_stars [Regex.Engine] {host name : String} {u : Url} (hslash : '/' ∉ host.toList)
    (hforeign : ∃ c ∈ host.toList, 0x80 ≤ c.toNat) (hform : (Glob.asciiHost host.toList).isSome = true)
    (hstars : Url.StarsInAscii (Url.hostText host.toList))
    (hname : Filled '*' Text.IsWord host.toList name.toList)
    (hurl : Url.parse ("https://" ++ name ++ "/") = some u) (hdomain : u.HasDomain) :
    (Pattern.compile (host ++ "/*")).accepts (Target.ofText ("https://" ++ name ++ "/")) = true := by
  obtain ⟨form, hform⟩ := Option.isSome_iff_exists.1 hform
  have hmark : ¬ Glob.schemeMark <:+: (host ++ "/*").toList := by
    rw [String.toList_append, Glob.infix_schemeMark_iff hslash]
    rintro (⟨-, hslashes⟩ | hin)
    · exact absurd hslashes (by decide)
    · exact absurd hin (by decide)
  rw [Pattern.accepts_host_iff hslash hforeign hform (.inr rfl) hmark hurl]
  obtain ⟨v, hv, rfl⟩ := Option.map_eq_some_iff.1 hform
  obtain ⟨hletteredHost, -⟩ := Url.parse_https hv
  obtain ⟨hnamedHost, hpath⟩ := Url.parse_https (Url.https_eq_ofList name ▸ hurl)
  have hlettered := Url.filled_hostText Glob.isWord_of_eq_letters (Text.filled_replaceAll host.toList)
  have hnamed := Url.filled_hostText (fun w => id) hname
  have hstands := Url.stands_webHost hstars hlettered hnamed (Url.webHost_of_specialHost hletteredHost)
    (Url.webHost_of_specialHost hnamedHost) hdomain.noBracket hdomain.noAddress (Url.stands_anyPath hurl hpath)
  simpa [String.toList_append] using hstands

/-- A star behind a label that is not in ASCII stands for a word. -/
theorem accepts_words_for_stars_accented :
    Url.parse ("https://" ++ "é.abc.com" ++ "/") = some ⟨"https", "xn--9ca.abc.com", "/", none⟩ ∧
      (Pattern.compile ("é.*.com" ++ "/*")).accepts (Target.ofText ("https://" ++ "é.abc.com" ++ "/")) = true := by
  have hurl : Url.parse ("https://" ++ "é.abc.com" ++ "/") = some ⟨"https", "xn--9ca.abc.com", "/", none⟩ := by
    have hdomain : Host.domainToAscii "é.abc.com".toList = some "xn--9ca.abc.com".toList :=
      domainToAscii_accented "abc.com".toList [⟨"abc".toList, "abc".toList⟩, ⟨"com".toList, "com".toList⟩]
        (by decide +kernel) (by decide +kernel)
    rw [Url.https_eq_ofList,
      Url.parse_https_domain (List.all_iff_forall_prop.1 (by decide)) (by decide) hdomain (by decide) (by decide)]
    rfl
  have hform : (Glob.asciiHost "é.*.com".toList).isSome = true := by
    have hdomain : Host.domainToAscii "é.sgwildcard.com".toList = some "xn--9ca.sgwildcard.com".toList :=
      domainToAscii_accented "sgwildcard.com".toList
        [⟨"sgwildcard".toList, "sgwildcard".toList⟩, ⟨"com".toList, "com".toList⟩]
        (by decide +kernel) (by decide +kernel)
    have hlettered : Text.replaceAll ['*'] Glob.wildcardLetters "é.*.com".toList =
        "é.sgwildcard.com".toList := by decide +kernel
    rw [Glob.asciiHost, hlettered,
      Url.parse_https_domain (List.all_iff_forall_prop.1 (by decide)) (by decide) hdomain (by decide) (by decide)]
    rfl
  have hstars : Url.StarsInAscii (Url.hostText "é.*.com".toList) := by
    have htext : (Url.decode (Url.hostText "é.*.com".toList)).bind Host.replaced = some "é.*.com".toList := by
      have hrest : Host.replaced ".*.com".toList = some ".*.com".toList := by decide +kernel
      rw [Url.hostText_eq_self (List.all_iff_forall_prop.1 (by decide)), Url.decode_eq_self (by decide),
        Option.bind_some]
      refine (Host.replaced_cons 'é' ".*.com".toList).trans ?_
      rw [replaceChar_accented, hrest]
      rfl
    exact (Url.starsInAscii_iff htext).2 (by decide)
  have hword : Filled '*' Text.IsWord ('*' :: ".com".toList) ("abc".toList ++ ".com".toList) :=
    .fill ⟨by decide, List.all_eq_true.1 (by decide)⟩ (.refl _)
  have hname : Filled '*' Text.IsWord "é.*.com".toList "é.abc.com".toList := (Filled.refl "é.".toList).append hword
  have hdomain : Url.HasDomain ⟨"https", "xn--9ca.abc.com", "/", none⟩ :=
    Url.hasDomain_of_mem (by decide) (by decide : 'm' ∈ "xn--9ca.abc.com".toList) (by decide) (by decide)
  exact ⟨hurl, accepts_words_for_stars (by decide) ⟨'é', by decide, by decide⟩ hform hstars hname hurl hdomain⟩

end PagePolicy
