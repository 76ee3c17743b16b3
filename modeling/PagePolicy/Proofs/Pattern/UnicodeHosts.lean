import PagePolicy.Proofs.Host.Labels
import PagePolicy.Proofs.Pattern.Hosts
import PagePolicy.Proofs.Pattern.Schemes
import PagePolicy.Proofs.Text.Replaced
import PagePolicy.Proofs.Url.HostText

/-! A host that is not in ASCII and the host of the URL that it makes, as patterns. The host of a pattern goes
through a URL in which letters stand for its stars, and so the same letters come back as a star where the host
has them itself. A colon at the end of the host makes it a scheme before two slashes. -/

namespace PagePolicy

namespace Glob

private theorem wildcardLetters_ne_nil : wildcardLetters ≠ [] := by
  decide

/-! ### Marks of schemes -/

/-- A mark behind a text without a slash goes over from this text, or stands behind it. -/
theorem infix_schemeMark_iff {s path : List Char} (hs : '/' ∉ s) :
    schemeMark <:+: s ++ path ↔ ([':'] <:+ s ∧ ['/', '/'] <+: path) ∨ schemeMark <:+: path := by
  rw [List.infix_append_iff]
  constructor
  · rintro (hin | hin | ⟨start, rest, hmark, hsuffix, hbegins⟩)
    · exact absurd (hin.subset (by decide)) hs
    · exact .inr hin
    · cases start with
      | nil =>
        obtain rfl : schemeMark = rest := hmark
        exact .inr hbegins.isInfix
      | cons colon start =>
        cases start with
        | nil =>
          obtain ⟨rfl, rfl⟩ := List.cons.inj hmark
          exact .inl ⟨hsuffix, hbegins⟩
        | cons slash start =>
          obtain rfl : '/' = slash := (List.cons.inj (List.cons.inj hmark).2).1
          exact absurd (hsuffix.subset (by simp)) hs
  · rintro (⟨hsuffix, hbegins⟩ | hin)
    · exact .inr (.inr ⟨[':'], ['/', '/'], rfl, hsuffix, hbegins⟩)
    · exact .inr (.inl hin)

/-- What stands before the first mark is the same whatever stands behind it. -/
theorem Divided.marked_rest {scheme rest : List Char} (rest' : List Char)
    (h : Divided (scheme ++ schemeMark ++ rest) (some scheme) rest) :
    Divided (scheme ++ schemeMark ++ rest') (some scheme) rest' := by
  refine .marked fun before after heq => Nat.le_of_not_lt fun hlt => ?_
  have hstart : before ++ schemeMark <+: scheme ++ schemeMark :=
    List.prefix_of_prefix_length_le ⟨after, heq.symm⟩ (List.prefix_append _ rest')
      (by simpa using hlt.le)
  obtain ⟨more, hmore⟩ := hstart
  generalize hs : scheme ++ schemeMark ++ rest = s at h
  generalize hscheme : some scheme = found at h
  cases h with
  | marked first =>
    cases hscheme
    rw [List.append_cancel_left hs] at first
    exact absurd (first before (more ++ rest) (by rw [← hs, ← hmore, List.append_assoc])) (Nat.not_le.2 hlt)
  | unmarked => cases hscheme

private theorem Divided.mem {s scheme rest : List Char} (h : Divided s (some scheme) rest) {c : Char}
    (hc : c ∈ scheme) : c ∈ s := by
  generalize hscheme : some scheme = found at h
  cases h with
  | marked =>
    cases hscheme
    exact List.mem_append_left _ (List.mem_append_left _ hc)
  | unmarked => cases hscheme

/-- The scheme of a pattern stays as it is when the host gets the form that hosts have in URLs. -/
theorem divided_normalize {s scheme rest : List Char} (h : Divided s (some scheme) rest) :
    ∃ rest', Divided (normalize s) (some scheme) rest' := by
  rw [normalize, divided_iff.1 h]
  dsimp only
  have hmarked (rest' : List Char) : Divided (scheme ++ schemeMark ++ rest') (some scheme) rest' := by
    cases h with
    | marked first => exact Divided.marked_rest rest' (.marked first)
  split
  · exact ⟨rest, h⟩
  split
  · exact ⟨rest, h⟩
  next ascii _ =>
    exact ⟨ascii ++ rest.dropWhile (· ≠ '/'), by simpa using hmarked (ascii ++ rest.dropWhile (· ≠ '/'))⟩

/-- A text without a slash at the start of a pattern with a mark is part of the scheme and its colon. -/
theorem prefix_of_marked {s path scheme rest : List Char} (hs : '/' ∉ s)
    (h : s ++ path = scheme ++ schemeMark ++ rest) : s <+: scheme ++ [':'] := by
  have hmark : scheme ++ schemeMark ++ rest = (scheme ++ [':']) ++ '/' :: '/' :: rest := by
    simp [schemeMark]
  exact Text.prefix_of_prefix_append hs (.inr rfl) ⟨path, h.trans hmark⟩

private theorem exists_divided_of_infix {s : List Char} (h : schemeMark <:+: s) :
    ∃ scheme rest, s = scheme ++ schemeMark ++ rest ∧ Divided s (some scheme) rest := by
  have hdivided := divided_splitScheme s
  generalize (splitScheme s).1 = found, (splitScheme s).2 = rest at hdivided
  cases hdivided with
  | marked first => exact ⟨_, _, rfl, .marked first⟩
  | unmarked absent => exact absurd h absent

/-! ### Hosts of URLs as patterns -/

/-- A text that can stand as a host in a pattern as it does in URLs. -/
structure IsHostForm (s : List Char) : Prop where
  ne_nil : s ≠ []
  chars : ∀ c ∈ s, Host.IsHostChar c
  last : s.getLast? = some ']' ∨ ':' ∉ s

private theorem isHostForm_of_ofList {s : List Char} {v : Url}
    (h : Url.parse (String.ofList ("https://".toList ++ s ++ ['/'])) = some v) :
    IsHostForm v.host.toList := by
  obtain ⟨hhost, -⟩ := Url.parse_https h
  have hlast := (Url.webHost_of_specialHost hhost).last
  refine ⟨?_, fun c => Url.isHostChar_of_mem_specialHost hhost, ?_⟩
  · rcases hlast with hlast | ⟨hne, -⟩
    · rintro hempty
      rw [hempty] at hlast
      cases hlast
    · exact hne
  · exact hlast.imp_right fun hdomain hcolon => absurd (hdomain.2 ':' hcolon) (by decide)

private theorem isHostForm_of_parse {host : String} {v : Url} (h : Url.parse ("https://" ++ host ++ "/") = some v) :
    IsHostForm v.host.toList :=
  isHostForm_of_ofList (Url.https_eq_ofList host ▸ h)

/-- The letters that stand for stars can be stars without a change of the kind of host. -/
theorem IsHostForm.starred {s : List Char} (h : IsHostForm s) :
    IsHostForm (Text.replaceAll wildcardLetters ['*'] s) where
  ne_nil := Text.replaceAll_ne_nil wildcardLetters_ne_nil (by decide) h.ne_nil
  chars c hc := by
    rcases Text.mem_replaceAll wildcardLetters_ne_nil hc with hc | hc
    · obtain rfl := List.mem_singleton.1 hc
      decide
    · exact h.chars c hc
  last := by
    refine h.last.imp (fun hlast => ?_) fun hcolon hc => ?_
    · obtain ⟨before, rfl⟩ := List.getLast?_eq_some_iff.1 hlast
      rw [Text.replaceAll_append_cons wildcardLetters_ne_nil (by decide),
        Text.replaceAll_nil wildcardLetters_ne_nil]
      exact List.getLast?_concat
    · rcases Text.mem_replaceAll wildcardLetters_ne_nil hc with hc | hc
      · exact absurd hc (by decide)
      · exact hcolon hc

private theorem isHostForm_of_asciiHost {host form : List Char} (h : asciiHost host = some form) : IsHostForm form := by
  obtain ⟨v, hv, rfl⟩ := Option.map_eq_some_iff.1 h
  exact (isHostForm_of_ofList hv).starred

/-- A host without a star goes through the URL as it is. -/
theorem asciiHost_of_not_mem {host : String} {v : Url} (hstar : '*' ∉ host.toList)
    (hv : Url.parse ("https://" ++ host ++ "/") = some v) :
    asciiHost host.toList = some (Text.replaceAll wildcardLetters ['*'] v.host.toList) := by
  have hprobe : Text.replaceAll ['*'] wildcardLetters host.toList = host.toList :=
    Text.replaceAll_of_not_infix (by decide) fun hin => hstar (hin.subset List.mem_cons_self)
  rw [asciiHost, hprobe, ← Url.https_eq_ofList, hv, Option.map_some]

private theorem IsHostForm.slash {s : List Char} (h : IsHostForm s) : '/' ∉ s :=
  fun hc => (h.chars '/' hc).ne rfl

private theorem IsHostForm.colon {s : List Char} (h : IsHostForm s) : ¬ [':'] <:+ s := by
  rintro ⟨before, rfl⟩
  rcases h.last with hlast | hcolon
  · rw [List.getLast?_concat] at hlast
    exact absurd hlast (by decide)
  · exact hcolon (List.mem_append_right before (List.mem_singleton_self _))

private theorem IsHostForm.infix_schemeMark_iff {s path : List Char} (h : IsHostForm s) :
    schemeMark <:+: s ++ path ↔ schemeMark <:+: path := by
  rw [Glob.infix_schemeMark_iff h.slash]
  exact or_iff_right fun ⟨hsuffix, _⟩ => h.colon hsuffix

end Glob

namespace Pattern

/-- Whether a text can stand behind the host of a pattern: nothing, or a path. -/
def IsPath (path : String) : Prop :=
  path = "" ∨ path.toList.head? = some '/'

section
variable {host form path url : String} {u : Url}

private theorem takeWhile_host {s : List Char} (hs : '/' ∉ s) (hpath : IsPath path) :
    (s ++ path.toList).takeWhile (· ≠ '/') = s := by
  have hself : s.takeWhile (· ≠ '/') = s :=
    List.takeWhile_eq_self_iff.2 fun c hc => decide_eq_true fun heq => hs (heq ▸ hc)
  rcases hpath with rfl | hslash
  · simpa using hself
  · obtain ⟨rest, hrest⟩ := List.head?_eq_some_iff.1 hslash
    rw [hrest, Text.takeWhile_append_cons (by decide), hself]

private theorem dropWhile_host {s : List Char} (hs : '/' ∉ s) (hpath : IsPath path) :
    (s ++ path.toList).dropWhile (· ≠ '/') = path.toList := by
  rw [← Text.drop_length_takeWhile, takeWhile_host hs hpath, List.drop_left]

/-! ### The form that a host has in URLs, as a pattern -/

private theorem isGlob_form (h : Glob.IsHostForm form.toList) (hpath : IsPath path) : IsGlob (form ++ path) := by
  obtain ⟨c, s, hs⟩ := List.exists_cons_of_ne_nil h.ne_nil
  have hc : Host.IsHostChar c := h.chars c (hs ▸ List.mem_cons_self)
  have htext : (form ++ path).toList = c :: (s ++ path.toList) := by
    rw [String.toList_append, hs, List.cons_append]
  constructor
  · intro hin
    rcases List.mem_cons.1 hin with hall | hin
    · obtain ⟨rfl, -⟩ := List.cons.inj (htext.symm.trans (congrArg String.toList hall))
      exact absurd hc (by decide)
    · have hform := takeWhile_host h.slash hpath
      rw [← String.toList_append, List.mem_singleton.1 hin] at hform
      have hlast := h.last
      rw [← hform] at hlast
      exact absurd hlast (by decide)
  · intro hhead
    obtain rfl : c = '/' := by simpa [htext] using hhead
    exact absurd rfl hc.ne

/-- A URL has no character that is not in ASCII where a glob has one. -/
theorem not_stands_of_foreign {s : List Char} (hurl : Url.parse url = some u)
    (hforeign : ∃ c ∈ s, 0x80 ≤ c.toNat) : ¬ Glob.Stands s (u.host ++ u.path ++ u.search).toList := by
  rintro hstands
  obtain ⟨c, hc, hge⟩ := hforeign
  have hstar : c ≠ '*' := by
    rintro rfl
    exact absurd hge (by decide)
  have hlt := ((Url.shaped_of_parse hurl).subject c (Glob.mem_of_stands hstands hc hstar)).lt
  omega

/-- The form of a host is compared with URLs as it is written, together with the path. -/
theorem accepts_form_iff [Regex.Engine] (h : Glob.IsHostForm form.toList) (hpath : IsPath path)
    (hmark : ¬ Glob.schemeMark <:+: path.toList) (hurl : Url.parse url = some u) :
    (compile (form ++ path)).accepts (Target.ofText url) = true ↔
      Glob.Stands (form.toList ++ path.toList) (u.host ++ u.path ++ u.search).toList := by
  have hglob := isGlob_form h hpath
  have hunmarked : ¬ Glob.schemeMark <:+: form.toList ++ path.toList := mt h.infix_schemeMark_iff.1 hmark
  by_cases hascii : ∀ c ∈ path.toList, c.toNat < 0x80
  · have hall : ∀ c ∈ (form ++ path).toList, c.toNat < 0x80 := by
      intro c hc
      rw [String.toList_append] at hc
      exact (List.mem_append.1 hc).elim (fun hc => Nat.lt_succ_of_lt (h.chars c hc).lt) (hascii c)
    rw [← String.toList_append] at hunmarked ⊢
    rw [accepts_iff_of_ascii hglob hall (.unmarked hunmarked) hurl]
    refine and_iff_right fun name hname => ?_
    cases hname
  · push Not at hascii
    obtain ⟨c, hc, hge⟩ := hascii
    obtain ⟨rest, hrest⟩ : ∃ rest, path.toList = '/' :: rest := by
      rcases hpath with rfl | hslash
      · cases hc
      · exact List.head?_eq_some_iff.1 hslash
    have hkept : ∃ form', Glob.normalize (form ++ path).toList = form' ++ path.toList := by
      rw [String.toList_append, hrest]
      exact Glob.normalize_path h.slash (hrest ▸ hunmarked)
    obtain ⟨form', hform'⟩ := hkept
    refine iff_of_false (fun hacc => ?_)
      (not_stands_of_foreign hurl ⟨c, List.mem_append_right _ hc, hge⟩)
    have hlt := Glob.ascii_of_accepts hglob hurl hacc c (hform' ▸ List.mem_append_right _ hc)
    omega

/-- A mark of a scheme in the path makes a scheme of the host. -/
theorem rejects_form [Regex.Engine] (h : Glob.IsHostForm form.toList) (hpath : IsPath path)
    (hmark : Glob.schemeMark <:+: path.toList) (hurl : Url.parse url = some u) :
    (compile (form ++ path)).accepts (Target.ofText url) = false := by
  rw [← Bool.not_eq_true, accepts_iff_of_isGlob (isGlob_form h hpath) hurl]
  rintro ⟨hscheme, -⟩
  have hin : Glob.schemeMark <:+: (form ++ path).toList := by
    rw [String.toList_append]
    exact h.infix_schemeMark_iff.2 hmark
  obtain ⟨scheme, rest, htext, hdivided⟩ := Glob.exists_divided_of_infix hin
  obtain ⟨rest', hdivided'⟩ := Glob.divided_normalize hdivided
  rw [Glob.divided_iff.1 hdivided'] at hscheme
  refine not_scheme_of_mem_slash ?_ hurl (hscheme scheme rfl)
  by_contra hslash
  -- otherwise the host is the scheme and the colon behind it
  rw [String.toList_append] at htext
  have hbegins : form.toList <+: scheme ++ [':'] := Glob.prefix_of_marked h.slash htext
  have hbegins' : scheme ++ [':'] <+: form.toList := by
    refine Text.prefix_of_prefix_append (c := '/') (by simpa using hslash) ?_
      ⟨'/' :: '/' :: rest, by simpa [Glob.schemeMark] using htext.symm⟩
    exact hpath.imp_left fun hempty => by rw [hempty]; rfl
  exact h.colon (hbegins.eq_of_length_le hbegins'.length_le ▸ List.suffix_append scheme [':'])

/-! ### Hosts that are not in ASCII -/

private theorem isGlob_host (hslash : '/' ∉ host.toList) (hforeign : ∃ c ∈ host.toList, 0x80 ≤ c.toNat) :
    IsGlob (host ++ path) := by
  obtain ⟨c, hc, hge⟩ := hforeign
  constructor
  · intro hin
    have hall : (allUrls.all fun text => text.toList.all (·.toNat < 0x80)) = true := by decide
    have hascii := List.all_eq_true.1 (List.all_eq_true.1 hall _ hin) c
      (String.toList_append ▸ List.mem_append_left _ hc)
    exact absurd hge (Nat.not_le.2 (of_decide_eq_true hascii))
  · intro hhead
    obtain ⟨d, s, hs⟩ := List.exists_cons_of_ne_nil (List.ne_nil_of_mem hc)
    obtain rfl : d = '/' := by simpa [String.toList_append, hs] using hhead
    exact absurd (hs ▸ List.mem_cons_self) hslash

/-- A mark of a scheme behind a host that is not in ASCII makes a scheme of it that no URL has. -/
theorem rejects_host [Regex.Engine] (hslash : '/' ∉ host.toList) (hforeign : ∃ c ∈ host.toList, 0x80 ≤ c.toNat)
    (hmark : Glob.schemeMark <:+: (host ++ path).toList) (hurl : Url.parse url = some u) :
    (compile (host ++ path)).accepts (Target.ofText url) = false := by
  rw [← Bool.not_eq_true]
  intro hacc
  have hascii := Glob.ascii_of_accepts (isGlob_host hslash hforeign) hurl hacc
  obtain ⟨scheme, rest, htext, hdivided⟩ := Glob.exists_divided_of_infix hmark
  obtain ⟨rest', hdivided'⟩ := Glob.divided_normalize hdivided
  obtain ⟨c, hc, hge⟩ := hforeign
  have hbegins : host.toList <+: scheme ++ [':'] :=
    Glob.prefix_of_marked hslash (String.toList_append.symm.trans htext)
  have hscheme : c ∈ scheme := by
    rcases List.mem_append.1 (hbegins.subset hc) with hc | hc
    · exact hc
    · obtain rfl := List.mem_singleton.1 hc
      exact absurd hge (by decide)
  have hlt := hascii c (hdivided'.mem hscheme)
  omega

/-- A host that is not in ASCII is compared with URLs in the form that hosts have there. -/
theorem accepts_host_iff [Regex.Engine] {form : List Char} (hslash : '/' ∉ host.toList)
    (hforeign : ∃ c ∈ host.toList, 0x80 ≤ c.toNat) (hform : Glob.asciiHost host.toList = some form)
    (hpath : IsPath path) (hmark : ¬ Glob.schemeMark <:+: (host ++ path).toList)
    (hurl : Url.parse url = some u) :
    (compile (host ++ path)).accepts (Target.ofText url) = true ↔
      Glob.Stands (form ++ path.toList) (u.host ++ u.path ++ u.search).toList := by
  rw [String.toList_append] at hmark
  have hnormal : Glob.normalize (host ++ path).toList = form ++ path.toList := by
    have hsome : ¬ (host.toList ++ path.toList).all (·.toNat < 0x80) = true := by
      obtain ⟨c, hc, hge⟩ := hforeign
      intro hall
      have hlt := of_decide_eq_true (List.all_eq_true.1 hall c (List.mem_append_left _ hc))
      omega
    rw [String.toList_append, Glob.normalize, if_neg hsome, Glob.divided_iff.1 (.unmarked hmark)]
    dsimp only
    rw [takeWhile_host hslash hpath, dropWhile_host hslash hpath, hform]
  have hunmarked : ¬ Glob.schemeMark <:+: form ++ path.toList := by
    rw [(Glob.isHostForm_of_asciiHost hform).infix_schemeMark_iff]
    rw [Glob.infix_schemeMark_iff hslash, not_or] at hmark
    exact hmark.2
  rw [accepts_iff_of_isGlob (isGlob_host hslash hforeign) hurl, hnormal,
    Glob.divided_iff.1 (.unmarked hunmarked)]
  refine and_iff_right fun name hname => ?_
  cases hname

end

/-! ### URLs that tell a host from its form -/

section
variable {s path : List Char} (h : Glob.IsHostForm s) (hpath : ∀ c ∈ path, c = '/')
include h hpath

private theorem isPlain_of_mem_form {c : Char} (hc : c ∈ s ++ path) : 0x20 < c.toNat ∧ c.toNat < 0x7F := by
  rcases List.mem_append.1 hc with hc | hc
  · exact ⟨(h.chars c hc).gt, (h.chars c hc).lt⟩
  · rw [hpath c hc]
    decide

/-- Behind a scheme without rules, a host with slashes is a path as it is written. -/
theorem parse_opaque_form : Url.parse (String.ofList ('x' :: ':' :: (s ++ path))) =
    some ⟨"x", "", String.ofList (s ++ path), none⟩ := by
  refine Url.parse_opaque (fun c => isPlain_of_mem_form h hpath) (fun hhead => ?_) fun c hc => ?_
  · obtain ⟨c, rest, rfl⟩ := List.exists_cons_of_ne_nil h.ne_nil
    obtain rfl : c = '/' := by simpa using hhead
    exact h.slash List.mem_cons_self
  · rcases List.mem_append.1 hc with hc | hc
    · have hends : ∀ d, Url.endsPath d = true → d ∈ Host.outsideBrackets := by
        intro d hd
        simp only [Url.endsPath, Bool.or_eq_true, decide_eq_true_eq] at hd
        rcases hd with rfl | rfl <;> decide
      exact Bool.eq_false_iff.2 fun htrue => (h.chars c hc).free (hends c htrue)
    · rw [hpath c hc]
      decide

private theorem stands_self_form : Glob.Stands (s ++ path) (s ++ path) := by
  refine Glob.stands_self fun hc => ?_
  have hplain := isPlain_of_mem_form h hpath hc
  exact absurd hplain (by decide)

end

end Pattern

section
variable [Regex.Engine] {host : String} {v : Url} (hstar : '*' ∉ host.toList) (hslash : '/' ∉ host.toList)
  (hforeign : ∃ c ∈ host.toList, 0x80 ≤ c.toNat) (hv : Url.parse ("https://" ++ host ++ "/") = some v)
include hslash hforeign hv

include hstar in
/-- The letters that stand for stars, found in the form of a host, are a star in the pattern with the host. -/
theorem accepts_starred_form (hletters : Glob.wildcardLetters <:+: v.host.toList) :
    ∃ path url u, Pattern.IsPath path ∧ Url.parse url = some u ∧
      (Pattern.compile (host ++ path)).accepts (Target.ofText url) = true ∧
      (Pattern.compile (v.host ++ path)).accepts (Target.ofText url) = false := by
  have hform := Glob.isHostForm_of_parse hv
  have hpath : Pattern.IsPath "/" := .inr rfl
  have hmark : ¬ Glob.schemeMark <:+: "/".toList := by decide
  have hmarkHost : ¬ Glob.schemeMark <:+: (host ++ "/").toList := by
    rw [String.toList_append, Glob.infix_schemeMark_iff hslash]
    rintro (⟨-, hbegins⟩ | hin)
    · exact absurd hbegins (by decide)
    · exact hmark hin
  have hslashes : ∀ c ∈ "/".toList, c = '/' := List.all_iff_forall_prop.1 (by decide)
  have hurl := Pattern.parse_opaque_form hform.starred hslashes
  refine ⟨"/", _, _, hpath, hurl, ?_, ?_⟩
  · rw [Pattern.accepts_host_iff hslash hforeign (Glob.asciiHost_of_not_mem hstar hv) hpath hmarkHost hurl]
    simpa [Url.search] using Pattern.stands_self_form hform.starred hslashes
  · rw [← Bool.not_eq_true, Pattern.accepts_form_iff hform hpath hmark hurl]
    intro hstands
    have hin := Glob.infix_of_stands hstands (List.infix_append_of_infix_left hletters) (by decide)
    have hsubject : Text.replaceAll Glob.wildcardLetters ['*'] v.host.toList ++ ['/'] =
        Text.replaceAll Glob.wildcardLetters ['*'] (v.host.toList ++ ['/']) := by
      rw [Text.replaceAll_append_cons Glob.wildcardLetters_ne_nil (by decide),
        Text.replaceAll_nil Glob.wildcardLetters_ne_nil]
    refine Text.not_infix_replaceAll (s := v.host.toList ++ ['/']) Glob.wildcardLetters_ne_nil
      (c := '*') (by decide) ?_
    rw [← hsubject]
    simpa [Url.search] using hin

/-- Before two slashes, a host with a colon at its end is a scheme, and its form is not. -/
theorem accepts_form_of_colon (hcolon : [':'] <:+ host.toList) :
    ∃ path url u, Pattern.IsPath path ∧ Url.parse url = some u ∧
      (Pattern.compile (host ++ path)).accepts (Target.ofText url) = false ∧
      (Pattern.compile (v.host ++ path)).accepts (Target.ofText url) = true := by
  have hform := Glob.isHostForm_of_parse hv
  have hpath : Pattern.IsPath "//" := .inr rfl
  have hmarkHost : Glob.schemeMark <:+: (host ++ "//").toList := by
    rw [String.toList_append, Glob.infix_schemeMark_iff hslash]
    exact .inl ⟨hcolon, by decide⟩
  have hslashes : ∀ c ∈ "//".toList, c = '/' := List.all_iff_forall_prop.1 (by decide)
  have hurl := Pattern.parse_opaque_form hform hslashes
  refine ⟨"//", _, _, hpath, hurl, Pattern.rejects_host hslash hforeign hmarkHost hurl, ?_⟩
  rw [Pattern.accepts_form_iff hform hpath (by decide) hurl]
  simpa [Url.search] using Pattern.stands_self_form hform hslashes

include hstar in
/-- Else the host and its form are the same pattern. -/
theorem accepts_host_eq_form (hletters : ¬ Glob.wildcardLetters <:+: v.host.toList)
    (hcolon : ¬ [':'] <:+ host.toList) {path url : String} {u : Url} (hpath : Pattern.IsPath path)
    (hurl : Url.parse url = some u) :
    (Pattern.compile (host ++ path)).accepts (Target.ofText url) =
      (Pattern.compile (v.host ++ path)).accepts (Target.ofText url) := by
  have hform := Glob.isHostForm_of_parse hv
  have hmarks : Glob.schemeMark <:+: (host ++ path).toList ↔ Glob.schemeMark <:+: path.toList := by
    rw [String.toList_append, Glob.infix_schemeMark_iff hslash]
    exact or_iff_right fun ⟨hsuffix, _⟩ => hcolon hsuffix
  by_cases hmark : Glob.schemeMark <:+: path.toList
  · rw [Pattern.rejects_host hslash hforeign (hmarks.2 hmark) hurl, Pattern.rejects_form hform hpath hmark hurl]
  · rw [Bool.eq_iff_iff, Pattern.accepts_form_iff hform hpath hmark hurl,
      Pattern.accepts_host_iff hslash hforeign (Glob.asciiHost_of_not_mem hstar hv) hpath (mt hmarks.1 hmark) hurl,
      Text.replaceAll_of_not_infix Glob.wildcardLetters_ne_nil hletters]

end

/-- A host without a star that is not in ASCII and the form that it has in URLs accept the same URLs, whatever
path stands behind them, exactly when the form does not have the letters that stand for stars and the host
does not end in a colon. -/
theorem accepts_ascii_form_iff [Regex.Engine] {host : String} {v : Url} (hstar : '*' ∉ host.toList)
    (hslash : '/' ∉ host.toList) (hforeign : ∃ c ∈ host.toList, 0x80 ≤ c.toNat)
    (hv : Url.parse ("https://" ++ host ++ "/") = some v) :
    (∀ path url u, Pattern.IsPath path → Url.parse url = some u →
      (Pattern.compile (host ++ path)).accepts (Target.ofText url) =
        (Pattern.compile (v.host ++ path)).accepts (Target.ofText url)) ↔
      ¬ Glob.wildcardLetters <:+: v.host.toList ∧ ¬ [':'] <:+ host.toList := by
  constructor
  · intro hsame
    constructor
    · intro hletters
      obtain ⟨path, url, u, hpath, hurl, hhost, hform⟩ :=
        accepts_starred_form hstar hslash hforeign hv hletters
      exact absurd ((hhost.symm.trans (hsame path url u hpath hurl)).trans hform) (by decide)
    · intro hcolon
      obtain ⟨path, url, u, hpath, hurl, hhost, hform⟩ :=
        accepts_form_of_colon hslash hforeign hv hcolon
      exact absurd ((hhost.symm.trans (hsame path url u hpath hurl)).trans hform) (by decide)
  · rintro ⟨hletters, hcolon⟩ path url u hpath hurl
    exact accepts_host_eq_form hstar hslash hforeign hv hletters hcolon hpath hurl

/-! ### A letter with an accent as a label -/

section
open Unicode

private theorem keptInHost_accented : keptInHost.contains 'é' = true := by
  simp only [keptInHost, CodeTable.ofTexts, List.flatMap_cons, List.flatMap_nil]
  repeat rw [String.toList_ofList]
  decide +kernel

private theorem marks_accented : marks.contains 'é' = false := by
  rw [marks, CodeTable.ofText, String.toList_ofList]
  decide +kernel

private theorem decomposition_accented :
    decompositionTable.find? 'é'.toNat = some ⟨'é'.toNat, 'é'.toNat, ['e'.toNat, 0x301]⟩ := by
  simp only [decompositionTable, CodeTable.ofTexts, List.flatMap_cons, List.flatMap_nil]
  repeat rw [String.toList_ofList]
  decide +kernel

private theorem composition_accented :
    lookupPair 0x301 (compositionTable.values 'e'.toNat) = some 'é'.toNat := by
  simp only [compositionTable, CodeTable.ofTexts, List.flatMap_cons, List.flatMap_nil]
  repeat rw [String.toList_ofList]
  decide +kernel

private theorem normalize_accented : normalize ['é'] = ['é'] := by
  have hdecompose : decompose 'é'.toNat = ['e'.toNat, 0x301] :=
    decompose_of_find? (by decide) (by decide) decomposition_accented
  have hcompose : composePair? 'e'.toNat 0x301 = some 'é'.toNat :=
    composePair?_of_lookupPair (by decide) (by decide) (by decide) composition_accented
  rw [normalize_eq_recompose, recompose_of_pair (by decide) hdecompose hcompose]

private theorem runsLeftward_accented : Host.runsLeftward ['é'] = false := by
  have hright : rightToLeftTable.contains 'é' = false := by
    rw [rightToLeftTable, CodeTable.ofText, String.toList_ofList]
    decide +kernel
  have hletter : arabicLetterTable.contains 'é' = false := by
    rw [arabicLetterTable, CodeTable.ofText, String.toList_ofList]
    decide +kernel
  have hnumber : arabicNumberTable.contains 'é' = false := by
    rw [arabicNumberTable, CodeTable.ofText, String.toList_ofList]
    decide +kernel
  exact Host.runsLeftward_singleton hright hletter hnumber

theorem replaceChar_accented : Host.replaceChar 'é' = some ['é'] := by
  rw [Host.replaceChar, if_neg (by decide), if_pos keptInHost_accented]

/-- The form in ASCII of a domain name that has a letter with an accent for its first label. -/
theorem domainToAscii_accented (rest : List Char) (ls : List Host.Label) (hls : Host.labels rest = some ls)
    (hleft : ∀ l ∈ ls, Host.runsLeftward l.text = false) :
    Host.domainToAscii ('é' :: '.' :: rest) =
      some (['.'].intercalate ("xn--9ca".toList :: ls.map Host.Label.ascii)) := by
  have hencode : Host.Punycode.encode ['é'] = "9ca".toList := by decide +kernel
  have hlabel : Host.Label.ofText? ['é'] = some ⟨['é'], "xn--9ca".toList⟩ := by
    rw [Host.ofText?_singleton (by decide) keptInHost_accented marks_accented (by decide), hencode]
    rfl
  have hreplaced : Host.replaced ['é'] = some ['é'] := by
    rw [Host.replaced_cons, replaceChar_accented]
    rfl
  have hlabels : Host.labels ('é' :: '.' :: rest) = some (⟨['é'], "xn--9ca".toList⟩ :: ls) := by
    rw [← List.singleton_append, Host.labels_append hreplaced (by rw [normalize_accented]; decide),
      normalize_accented, hlabel, hls]
    rfl
  rw [Host.domainToAscii_of_labels hlabels (List.forall_mem_cons.2 ⟨runsLeftward_accented, hleft⟩),
    List.map_cons]

end

/-- Behind a label that is not in ASCII, a host is compared with URLs in its form, and letters that it has itself
are taken for stars. -/
theorem accepts_ascii_form_iff_accented :
    (∀ path url u, Pattern.IsPath path → Url.parse url = some u →
      (Pattern.compile ("é.com" ++ path)).accepts (Target.ofText url) =
        (Pattern.compile ("xn--9ca.com" ++ path)).accepts (Target.ofText url)) ∧
      ¬ ∀ path url u, Pattern.IsPath path → Url.parse url = some u →
        (Pattern.compile ("é.sgwildcard.com" ++ path)).accepts (Target.ofText url) =
          (Pattern.compile ("xn--9ca.sgwildcard.com" ++ path)).accepts (Target.ofText url) := by
  have hplain : Url.parse ("https://" ++ "é.com" ++ "/") = some ⟨"https", "xn--9ca.com", "/", none⟩ := by
    have hdomain : Host.domainToAscii "é.com".toList = some "xn--9ca.com".toList :=
      domainToAscii_accented "com".toList [⟨"com".toList, "com".toList⟩] (by decide +kernel) (by decide +kernel)
    rw [Url.https_eq_ofList,
      Url.parse_https_domain (List.all_iff_forall_prop.1 (by decide)) (by decide) hdomain (by decide) (by decide)]
    rfl
  have hletters : Url.parse ("https://" ++ "é.sgwildcard.com" ++ "/") =
      some ⟨"https", "xn--9ca.sgwildcard.com", "/", none⟩ := by
    have hdomain : Host.domainToAscii "é.sgwildcard.com".toList = some "xn--9ca.sgwildcard.com".toList :=
      domainToAscii_accented "sgwildcard.com".toList
        [⟨"sgwildcard".toList, "sgwildcard".toList⟩, ⟨"com".toList, "com".toList⟩]
        (by decide +kernel) (by decide +kernel)
    rw [Url.https_eq_ofList,
      Url.parse_https_domain (List.all_iff_forall_prop.1 (by decide)) (by decide) hdomain (by decide) (by decide)]
    rfl
  have hsame := accepts_ascii_form_iff (by decide) (by decide) ⟨'é', by decide, by decide⟩ hplain
  have hdiffer := accepts_ascii_form_iff (by decide) (by decide) ⟨'é', by decide, by decide⟩ hletters
  refine ⟨hsame.2 (by decide +kernel), fun h => (hdiffer.1 h).1 ?_⟩
  exact ⟨"xn--9ca.".toList, ".com".toList, by decide⟩

end PagePolicy
