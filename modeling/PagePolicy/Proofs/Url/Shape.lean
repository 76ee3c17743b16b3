import Mathlib.Data.Bool.AllAny
import Mathlib.Data.List.TakeWhile
import PagePolicy.Proofs.Host.Characters
import PagePolicy.Proofs.Text.Search
import PagePolicy.Url.Parser

/-! The shape of URLs that were read from a text: their characters, and what can stand where the host ends. -/

namespace PagePolicy.Url

open Host (IsHostChar)

/-- A visible character of ASCII or a space. -/
structure IsPlain (c : Char) : Prop where
  ge : 0x20 ≤ c.toNat
  lt : c.toNat < 0x7F

private theorem isPlain_of_isHostChar {c : Char} (h : IsHostChar c) : IsPlain c :=
  ⟨Nat.le_of_lt h.gt, h.lt⟩

/-! ### Encoded texts -/

private theorem isHostChar_of_mem_percentByte {b : UInt8} {c : Char} (h : c ∈ percentByte b) :
    IsHostChar c := by
  have hdigit : ∀ n < 16, IsHostChar (if n < 10 then Char.ofNat (48 + n) else Char.ofNat (55 + n)) := by
    decide
  have hlt : b.toNat / 16 < 16 := Nat.div_lt_of_lt_mul b.toNat_lt
  have hmod : b.toNat % 16 < 16 := Nat.mod_lt _ (by decide)
  rcases List.mem_cons.1 h with rfl | h
  · decide
  · rcases List.mem_cons.1 h with rfl | h
    · exact hdigit _ hlt
    · obtain rfl := List.mem_singleton.1 h
      exact hdigit _ hmod

/-- An encoded text has plain characters of the text, and else percent signs and digits. -/
theorem mem_encode {set s : List Char} {c : Char} (h : c ∈ encode set s) :
    IsHostChar c ∨ c ∈ s ∧ IsPlain c := by
  obtain ⟨d, hd, hc⟩ := List.mem_flatMap.1 h
  rw [encodeChar] at hc
  split at hc
  next =>
    obtain ⟨b, -, hc⟩ := List.mem_flatMap.1 hc
    exact .inl (isHostChar_of_mem_percentByte hc)
  next hkept =>
    obtain rfl := List.mem_singleton.1 hc
    exact .inr ⟨hd, by omega, by omega⟩

private theorem isPlain_of_mem_encode {set s : List Char} {c : Char} (h : c ∈ encode set s) : IsPlain c :=
  (mem_encode h).elim isPlain_of_isHostChar And.right

/-! ### Hosts -/

section
variable {s host : List Char} {c : Char}

private theorem isHostChar_of_mem_bracketHost (h : bracketHost s = some host) (hc : c ∈ host) :
    IsHostChar c := by
  rw [bracketHost] at h
  split at h
  next =>
    obtain ⟨pieces, -, rfl⟩ := Option.map_eq_some_iff.1 h
    rcases List.mem_append.1 hc with hc | hc
    · rcases List.mem_append.1 hc with hc | hc
      · obtain rfl := List.mem_singleton.1 hc
        decide
      · exact Host.isHostChar_of_mem_showV6 hc
    · obtain rfl := List.mem_singleton.1 hc
      decide
  next => cases h

theorem isHostChar_of_mem_specialHost (h : specialHost s = some host) (hc : c ∈ host) :
    IsHostChar c := by
  rw [specialHost.eq_def] at h
  split at h
  next => exact isHostChar_of_mem_bracketHost h hc
  next =>
    obtain ⟨text, -, h⟩ := Option.bind_eq_some_iff.1 h
    obtain ⟨domain, hdomain, h⟩ := Option.bind_eq_some_iff.1 h
    split at h
    · cases h
    · split at h
      · obtain ⟨address, -, rfl⟩ := Option.map_eq_some_iff.1 h
        exact (Host.isDomainChar_of_mem_showV4 hc).isHostChar
      · cases h
        exact (Host.isDomainChar_of_mem_domainToAscii hdomain hc).isHostChar

private theorem isHostChar_of_mem_opaqueHost (h : opaqueHost s = some host) (hc : c ∈ host) :
    IsHostChar c := by
  rw [opaqueHost.eq_def] at h
  split at h
  next => exact isHostChar_of_mem_bracketHost h hc
  next =>
    split at h
    next => cases h
    next hinside =>
      cases h
      rcases mem_encode hc with hc | ⟨hs, hplain⟩
      · exact hc
      · have hfree : outsideHost.contains c = false :=
          Bool.eq_false_iff.2 fun hout => hinside (List.any_eq_true.2 ⟨c, hs, hout⟩)
        have hspace : c.toNat ≠ 0x20 := by
          intro hn
          obtain rfl : c = ' ' := Char.toNat_inj.1 hn
          exact absurd hfree (by decide)
        have hsub : ∀ d ∈ Host.outsideBrackets, outsideHost.contains d = true :=
          List.all_iff_forall_prop.1 (by decide)
        refine ⟨Nat.lt_of_le_of_ne hplain.ge (Ne.symm hspace), hplain.lt, fun hout => ?_⟩
        exact Bool.false_ne_true (hfree.symm.trans (hsub c hout))

private theorem isHostChar_of_mem_readAuthority {kind : SchemeKind} {rest : List Char}
    (h : readAuthority kind s = some (host, rest)) (hc : c ∈ host) : IsHostChar c := by
  unfold readAuthority at h
  dsimp only at h
  rw [Option.ite_none_left_eq_some] at h
  obtain ⟨-, h⟩ := h
  by_cases hkind : kind.isSpecial = true
  · rw [if_pos hkind] at h
    obtain ⟨found, hfound, h⟩ := Option.bind_eq_some_iff.1 h
    rw [Option.ite_none_left_eq_some, Option.ite_none_left_eq_some] at h
    cases h.2.2
    exact isHostChar_of_mem_specialHost hfound hc
  · rw [if_neg hkind] at h
    obtain ⟨found, hfound, h⟩ := Option.bind_eq_some_iff.1 h
    rw [Option.ite_none_left_eq_some, Option.ite_none_left_eq_some] at h
    cases h.2.2
    exact isHostChar_of_mem_opaqueHost hfound hc

end

/-! ### Paths -/

namespace Place

/-- A place whose host and segments have the characters that URLs have there. -/
structure Sound (p : Place) : Prop where
  host : ∀ c ∈ p.host, IsHostChar c
  segments : ∀ segment ∈ p.segments, ∀ c ∈ segment, IsPlain c

private theorem sound_above {p : Place} (h : p.Sound) : p.above.Sound := by
  rw [above]
  split
  · exact h
  next last before hsegments =>
    split
    · exact h
    · exact ⟨h.host, fun segment hs => h.segments segment (hsegments ▸ List.mem_cons_of_mem _ hs)⟩

private theorem isPlain_of_driveBeforeGap? {piece drive rest : List Char}
    (h : driveBeforeGap? piece = some (drive, rest)) : ∀ c ∈ drive, IsPlain c := by
  rw [driveBeforeGap?] at h
  split at h
  next letter _ _ =>
    split at h
    next =>
      split at h
      next hdrive =>
        cases h
        have hletter : letter.isAlphanum = true := Text.isAlphanum_iff.2 (.inl hdrive.1)
        intro c hc
        rcases List.mem_cons.1 hc with rfl | hc
        · exact isPlain_of_isHostChar (Host.isHostChar_of_isAlphanum hletter)
        · obtain rfl := List.mem_singleton.1 hc
          exact ⟨by decide, by decide⟩
      next => cases h
    next => cases h
  next => cases h

private theorem sound_enter (kind : SchemeKind) {p : Place} (h : p.Sound) (piece : List Char) :
    (p.enter kind piece).Sound := by
  have hencoded (set s : List Char) : ∀ c ∈ encode set s, IsPlain c := fun c => isPlain_of_mem_encode
  rw [enter]
  split
  · exact sound_above h
  split
  · exact h
  split
  · split
    · refine ⟨nofun, fun segment hs c hc => ?_⟩
      obtain rfl := List.mem_singleton.1 hs
      rcases List.mem_append.1 hc with hc | hc
      · exact hencoded _ _ c (List.mem_of_mem_take hc)
      · obtain rfl := List.mem_singleton.1 hc
        exact ⟨by decide, by decide⟩
    · split
      next drive rest hdrive =>
        refine ⟨h.host, fun segment hs => ?_⟩
        rcases List.mem_cons.1 hs with rfl | hs
        · exact hencoded _ _
        · obtain rfl := List.mem_singleton.1 hs
          exact isPlain_of_driveBeforeGap? hdrive
      next =>
        refine ⟨h.host, fun segment hs => ?_⟩
        obtain rfl := List.mem_singleton.1 hs
        exact hencoded _ _
  · refine ⟨h.host, fun segment hs => ?_⟩
    rcases List.mem_cons.1 hs with rfl | hs
    · exact hencoded _ _
    · exact h.segments segment hs

private theorem sound_follow (kind : SchemeKind) {p : Place} (h : p.Sound) (pieces : List (List Char)) :
    (p.follow kind pieces).Sound := by
  fun_induction follow kind p pieces with
  | case1 => exact h
  | case2 p last entered segment hdot =>
    refine ⟨(sound_enter kind h last).host, fun s hs => ?_⟩
    rcases List.mem_cons.1 hs with rfl | hs
    · exact nofun
    · exact (sound_enter kind h last).segments s hs
  | case3 p last => exact sound_enter kind h last
  | case4 p piece pieces _ ih => exact ih (sound_enter kind h piece)

private theorem sound_ofText (kind : SchemeKind) {host : List Char} (h : ∀ c ∈ host, IsHostChar c)
    (s : List Char) : (ofText kind host s).Sound :=
  sound_follow kind ⟨h, List.forall_mem_nil _⟩ _

private theorem isPlain_of_mem_path {p : Place} (h : p.Sound) {c : Char} (hc : c ∈ p.path) : IsPlain c := by
  obtain ⟨segment, hs, hc⟩ := List.mem_flatMap.1 hc
  rcases List.mem_cons.1 hc with rfl | hc
  · exact ⟨by decide, by decide⟩
  · exact h.segments segment (List.mem_reverse.1 hs) c hc

private theorem path_start (p : Place) : p.path = [] ∨ p.path.head? = some '/' := by
  rw [path]
  cases p.segments.reverse with
  | nil => exact .inl rfl
  | cons => exact .inr rfl

end Place

/-! ### URLs -/

/-- The shape of a URL: of which characters its parts are, and that a path follows a host only after a slash. -/
structure Shaped (u : Url) : Prop where
  scheme : ∀ c ∈ u.scheme.toList, isSchemeChar c = true
  host : ∀ c ∈ u.host.toList, IsHostChar c
  path : ∀ c ∈ u.path.toList, IsPlain c
  search : ∀ c ∈ u.search.toList, IsPlain c
  start : u.host = "" ∨ u.path = "" ∨ u.path.toList.head? = some '/'

theorem Shaped.subject {u : Url} (h : u.Shaped) : ∀ c ∈ (u.host ++ u.path ++ u.search).toList, IsPlain c := by
  intro c hc
  rw [String.toList_append, String.toList_append] at hc
  rcases List.mem_append.1 hc with hc | hc
  · rcases List.mem_append.1 hc with hc | hc
    · exact isPlain_of_isHostChar (h.host c hc)
    · exact h.path c hc
  · exact h.search c hc

theorem search_start (u : Url) : u.search.toList = [] ∨ u.search.toList.head? = some '?' := by
  rw [search]
  split
  · split
    · exact .inl rfl
    · rw [String.toList_append]
      exact .inr rfl
  · exact .inl rfl

/-- Behind a host that is not empty there is a slash, a question mark or nothing. -/
theorem Shaped.gap {u : Url} (h : u.Shaped) (hne : u.host ≠ "") {c : Char}
    (hc : c ∈ (u.path.toList ++ u.search.toList).head?) : c = '/' ∨ c = '?' := by
  have hsearch (hc : c ∈ u.search.toList.head?) : c = '?' := by
    rcases u.search_start with hs | hs
    · simp [hs] at hc
    · simpa [hs, eq_comm] using hc
  rcases h.start with hempty | hempty | hslash
  · exact absurd hempty hne
  · exact .inr (hsearch (by simpa [hempty] using hc))
  · exact .inl (by simpa [List.head?_append, hslash, eq_comm] using hc)

/-- Where a name and a slash stand in a row in the host, the path and the query of a URL, the name ends the host
and the slash begins the path, or both are in the path and the query: no name begins in the host and goes
on behind it. -/
theorem Shaped.infix_subject_iff {u : Url} (h : u.Shaped) {name : List Char} (hslash : '/' ∉ name)
    (hquery : '?' ∉ name) :
    name ++ ['/'] <:+: (u.host ++ u.path ++ u.search).toList ↔
      (name <:+ u.host.toList ∧ ['/'] <+: u.path.toList) ∨ name ++ ['/'] <:+: (u.path ++ u.search).toList := by
  simp only [String.toList_append, List.append_assoc]
  constructor
  · rintro ⟨before, after, hs⟩
    rw [List.append_assoc, List.append_assoc, List.singleton_append] at hs
    rcases List.append_eq_append_iff.1 hs with ⟨hostEnd, hhost, hend⟩ | ⟨pathStart, -, hpath⟩
    · by_cases hempty : u.host = ""
      · obtain ⟨-, rfl⟩ := List.append_eq_nil_iff.1 (hhost.symm.trans (by rw [hempty]; rfl))
        exact .inr ⟨[], after, by simpa using hend⟩
      · have hname : hostEnd = name := by
          refine Text.eq_of_append_eq ?_ (fun c hc => ?_) hend.symm
          · exact fun hin => (h.host '/' (hhost ▸ List.mem_append_right before hin)).ne rfl
          · rcases h.gap hempty hc with rfl | rfl
            · exact hslash
            · exact hquery
        subst hname
        refine .inl ⟨⟨before, hhost.symm⟩, Text.prefix_of_prefix_append (by decide) u.search_start ?_⟩
        exact ⟨after, List.append_cancel_left hend⟩
    · exact .inr ⟨pathStart, after, by simpa using hpath.symm⟩
  · rintro (⟨⟨before, hhost⟩, ⟨after, hpath⟩⟩ | hin)
    · exact ⟨before, after ++ u.search.toList, by simp [← hhost, ← hpath]⟩
    · exact hin.trans (List.suffix_append _ _).isInfix

private theorem isPlain_of_mem_queryIn {kind : SchemeKind} {s : List Char} {query : String}
    (h : queryIn kind s = some query) : ∀ c ∈ query.toList, IsPlain c := by
  rw [queryIn] at h
  split at h
  · cases h
    intro c hc
    rw [String.toList_ofList] at hc
    exact isPlain_of_mem_encode hc
  · cases h

private theorem shaped_withQuery {kind : SchemeKind} {scheme : String} {host path : List Char} (s : List Char)
    (hscheme : ∀ c ∈ scheme.toList, isSchemeChar c = true) (hhost : ∀ c ∈ host, IsHostChar c)
    (hpath : ∀ c ∈ path, IsPlain c) (hstart : host = [] ∨ path = [] ∨ path.head? = some '/') :
    (withQuery kind scheme host path s).Shaped where
  scheme := hscheme
  host := by rwa [withQuery, String.toList_ofList]
  path := by rwa [withQuery, String.toList_ofList]
  search := by
    rw [search, withQuery]
    split
    next query hquery =>
      split
      · nofun
      · intro c hc
        rw [String.toList_append] at hc
        rcases List.mem_append.1 hc with hc | hc
        · obtain rfl := List.mem_singleton.1 hc
          exact ⟨by decide, by decide⟩
        · exact isPlain_of_mem_queryIn hquery c hc
    · nofun
  start := by
    rw [withQuery, String.toList_ofList]
    refine hstart.imp ?_ (Or.imp_left ?_)
    · rintro rfl
      rfl
    · rintro rfl
      rfl

private theorem shaped_readWithAuthority {kind : SchemeKind} {scheme : String} {s : List Char} {u : Url}
    (hscheme : ∀ c ∈ scheme.toList, isSchemeChar c = true)
    (h : readWithAuthority kind scheme s = some u) : u.Shaped := by
  obtain ⟨⟨host, rest⟩, hauthority, h⟩ := Option.bind_eq_some_iff.1 h
  have hhost (c : Char) : c ∈ host → IsHostChar c := isHostChar_of_mem_readAuthority hauthority
  cases h
  refine shaped_withQuery rest hscheme hhost ?_ ?_
  · split
    · nofun
    · exact fun c => Place.isPlain_of_mem_path (Place.sound_ofText kind hhost _)
  · split
    · exact .inr (.inl rfl)
    · exact .inr (Place.path_start _)

private theorem shaped_readOther {scheme : String} {s : List Char} {u : Url}
    (hscheme : ∀ c ∈ scheme.toList, isSchemeChar c = true) (h : readOther scheme s = some u) :
    u.Shaped := by
  rw [readOther.eq_def] at h
  split at h
  · exact shaped_readWithAuthority hscheme h
  · cases h
    exact shaped_withQuery _ hscheme (List.forall_mem_nil _)
      (fun c => Place.isPlain_of_mem_path (Place.sound_ofText _ (List.forall_mem_nil _) _)) (.inl rfl)
  · cases h
    exact shaped_withQuery _ hscheme (List.forall_mem_nil _) (fun c => isPlain_of_mem_encode) (.inl rfl)

private theorem shaped_fileAt {host : List Char} (h : ∀ c ∈ host, IsHostChar c) (s : List Char) :
    (fileAt host s).Shaped := by
  have hplace := Place.sound_ofText .file h s
  refine shaped_withQuery s (List.all_eq_true.1 (by decide)) hplace.host (fun c hc => ?_) (.inr (.inr rfl))
  rcases List.mem_cons.1 hc with rfl | hc
  · exact ⟨by decide, by decide⟩
  · exact Place.isPlain_of_mem_path hplace ((List.dropWhile_suffix _).mem hc)

private theorem shaped_readFileHost {s : List Char} {u : Url} (h : readFileHost s = some u) : u.Shaped := by
  rw [readFileHost] at h
  split at h
  · cases h
    exact shaped_fileAt (List.forall_mem_nil _) _
  split at h
  · cases h
    exact shaped_fileAt (List.forall_mem_nil _) _
  obtain ⟨host, hhost, h⟩ := Option.bind_eq_some_iff.1 h
  split at h
  · cases h
    exact shaped_fileAt (List.forall_mem_nil _) _
  · cases h
    exact shaped_fileAt (fun c => isHostChar_of_mem_specialHost hhost) _

private theorem shaped_readFile {s : List Char} {u : Url} (h : readFile s = some u) : u.Shaped := by
  rw [readFile] at h
  split at h
  · cases h
    exact shaped_fileAt (List.forall_mem_nil _) _
  · split at h
    · cases h
      exact shaped_fileAt (List.forall_mem_nil _) _
    · exact shaped_readFileHost h

theorem ascii_of_isSchemeChar {c : Char} (h : isSchemeChar c = true) : c.toNat < 0x80 := by
  simp only [isSchemeChar, Bool.or_eq_true, decide_eq_true_eq] at h
  rcases h with ((h | rfl) | rfl) | rfl
  · exact Nat.lt_succ_of_lt (Host.isHostChar_of_isAlphanum h).lt
  all_goals decide

private theorem isSchemeChar_toLower {c : Char} (h : isSchemeChar c = true) : isSchemeChar c.toLower = true := by
  have hall : ∀ n < 0x80, isSchemeChar (Char.ofNat n) = true →
      isSchemeChar (Char.ofNat n).toLower = true := by decide
  simpa only [Char.ofNat_toNat] using hall c.toNat (ascii_of_isSchemeChar h) (by rwa [Char.ofNat_toNat])

private theorem isSchemeChar_of_splitScheme {s rest : List Char} {scheme : String}
    (h : splitScheme s = some (scheme, rest)) : ∀ c ∈ scheme.toList, isSchemeChar c = true := by
  rw [splitScheme] at h
  split at h
  next =>
    split at h
    next =>
      cases h
      intro c hc
      rw [String.toList_ofList] at hc
      obtain ⟨d, hd, rfl⟩ := List.mem_map.1 hc
      obtain ⟨hd, hsignificant⟩ := List.mem_filter.1 hd
      have hstart := List.mem_takeWhile_imp hd
      rw [Bool.not_eq_true'] at hsignificant
      rw [hsignificant, Bool.or_false] at hstart
      exact isSchemeChar_toLower hstart
    next => cases h
  next => cases h

/-- Every URL that a text writes has the shape of URLs. -/
theorem shaped_of_parse {text : String} {u : Url} (h : parse text = some u) : u.Shaped := by
  obtain ⟨⟨scheme, rest⟩, hscheme, h⟩ := Option.bind_eq_some_iff.1 h
  have hchars := isSchemeChar_of_splitScheme hscheme
  dsimp only at h
  split at h
  · exact shaped_readFile h
  · exact shaped_readWithAuthority hchars h
  · exact shaped_readOther hchars h

end PagePolicy.Url
