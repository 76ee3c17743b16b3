import PagePolicy.Proofs.Text.Filled
import PagePolicy.Proofs.Url.Decoded
import PagePolicy.Proofs.Url.Shape

/-! Where the host of a URL is read from: in a URL of the web from the text behind the user, up to a colon that
is not in brackets. A URL of a scheme without rules can have no host at all. -/

namespace PagePolicy.Url

/-! ### Schemes -/

private theorem not_isControlOrSpace_of_isSchemeChar {c : Char} (h : isSchemeChar c = true) :
    isControlOrSpace c = false := by
  simp only [isSchemeChar, Bool.or_eq_true, decide_eq_true_eq] at h
  rw [isControlOrSpace, decide_eq_false_iff_not, Nat.not_le]
  rcases h with ((h | rfl) | rfl) | rfl
  · exact (Host.isHostChar_of_isAlphanum h).gt
  all_goals decide

private theorem trim_eq_self {s : List Char} (hfirst : ∀ c ∈ s.head?, isControlOrSpace c = false)
    (hlast : ∀ c ∈ s.getLast?, isControlOrSpace c = false) : trim s = s := by
  have hstart (t : List Char) (h : ∀ c ∈ t.head?, isControlOrSpace c = false) :
      t.dropWhile isControlOrSpace = t := by
    cases t with
    | nil => rfl
    | cons c t => rw [List.dropWhile_cons_of_neg (by simp [h c rfl])]
  rw [trim, hstart s hfirst, hstart s.reverse (by rwa [List.head?_reverse]), List.reverse_reverse]

private theorem significant_of_kept {s : List Char} (h : ∀ c ∈ s, isIgnored c = false) : significant s = s :=
  List.filter_eq_self.2 fun c hc => by rw [h c hc]; rfl

private theorem isIgnored_iff {c : Char} : isIgnored c = true ↔ c ∈ ['\t', '\n', '\r'] := by
  simp [isIgnored, or_assoc]

private theorem significant_eq_self {s : List Char} (h : ∀ c ∈ s, isControlOrSpace c = false) :
    significant s = s := by
  refine significant_of_kept fun c hc => Bool.eq_false_iff.2 fun hignored => ?_
  have hcontrol : ['\t', '\n', '\r'].all isControlOrSpace = true := by decide
  exact Bool.false_ne_true ((h c hc).symm.trans (List.all_eq_true.1 hcontrol c (isIgnored_iff.1 hignored)))

private theorem splitScheme_append {name rest : List Char} (hname : ∀ c ∈ name, isSchemeChar c = true)
    (hfirst : name.head?.any Char.isAlpha = true) :
    splitScheme (name ++ ':' :: rest) = some (String.ofList (name.map Char.toLower), rest) := by
  have htake : (name ++ ':' :: rest).takeWhile (fun c => isSchemeChar c || isIgnored c) = name := by
    rw [List.takeWhile_append_of_pos fun c hc => by rw [hname c hc, Bool.true_or],
      List.takeWhile_cons_of_neg (by decide), List.append_nil]
  have hsignificant : significant name = name :=
    significant_eq_self fun c hc => not_isControlOrSpace_of_isSchemeChar (hname c hc)
  rw [splitScheme, htake, List.drop_left, hsignificant]
  exact if_pos hfirst

/-- The scheme of a text that begins with a letter and ends with a visible character. -/
theorem splitScheme_trim {name rest : List Char} (hname : ∀ c ∈ name, isSchemeChar c = true)
    (hfirst : name.head?.any Char.isAlpha = true)
    (hlast : ∀ c ∈ rest.getLast?, isControlOrSpace c = false) :
    splitScheme (trim (name ++ ':' :: rest)) =
      some (String.ofList (name.map Char.toLower), rest) := by
  have htrim : trim (name ++ ':' :: rest) = name ++ ':' :: rest := by
    refine trim_eq_self (fun c hc => ?_) (fun c hc => ?_)
    · cases name with
      | nil => cases hfirst
      | cons d name =>
        obtain rfl := Option.some.inj hc
        exact not_isControlOrSpace_of_isSchemeChar (hname _ List.mem_cons_self)
    · rw [List.getLast?_append, List.getLast?_cons] at hc
      cases hrest : rest.getLast? with
      | none =>
        obtain rfl : ':' = c := by simpa [hrest] using hc
        decide
      | some d =>
        obtain rfl : d = c := by simpa [hrest] using hc
        exact hlast d hrest
  rw [htrim, splitScheme_append hname hfirst]

/-! ### URLs of the web -/

/-- What stands in an authority behind the user. -/
def afterUser (s : List Char) : List Char :=
  match Text.splitAtLast '@' s with
  | some (_, rest) => rest
  | none => s

/-- The authority at the start of a text behind `https:`. -/
def webAuthority (s : List Char) : List Char :=
  ((significant s).dropWhile (isSlash .web)).takeWhile (!endsAuthority .web ·)

/-- The text that the host of a URL is read from, given what stands behind `https:`. -/
def hostText (s : List Char) : List Char :=
  (splitHost false (afterUser (webAuthority s))).1

/-- An authority has its host behind the user and before a colon. -/
theorem specialHost_of_readAuthority {s host rest : List Char}
    (h : readAuthority .web s = some (host, rest)) :
    specialHost (splitHost false (afterUser (s.takeWhile (!endsAuthority .web ·)))).1 = some host := by
  unfold readAuthority at h
  dsimp only at h
  rw [Option.ite_none_left_eq_some] at h
  obtain ⟨-, h⟩ := h
  obtain ⟨found, hfound, h⟩ := Option.bind_eq_some_iff.1 h
  rw [Option.ite_none_left_eq_some, Option.ite_none_left_eq_some] at h
  cases h.2.2
  rw [afterUser]
  cases hsplit : Text.splitAtLast '@' (s.takeWhile (!endsAuthority .web ·)) with
  | none => simpa [hsplit] using hfound
  | some parts => simpa [hsplit] using hfound

/-- What a text is read as where a URL of the web has its host: an address in brackets, a domain name that is an
address, or any other domain name. -/
inductive WebHost : List Char → List Char → Prop where
  | bracket {s : List Char} (pieces : List Nat) : WebHost ('[' :: s) (['['] ++ Host.showV6 pieces ++ [']'])
  | address {s text domain : List Char} {address : Nat} (noBracket : s.head? ≠ some '[')
      (decoded : decode s = some text) (named : Host.domainToAscii text = some domain)
      (numeric : Host.endsInNumber domain = true) (read : Host.readV4 domain = some address) :
      WebHost s (Host.showV4 address)
  | name {s text domain : List Char} (noBracket : s.head? ≠ some '[') (decoded : decode s = some text)
      (named : Host.domainToAscii text = some domain) (ne_nil : domain ≠ [])
      (noNumber : Host.endsInNumber domain = false) : WebHost s domain

theorem webHost_of_specialHost {s host : List Char} (h : specialHost s = some host) : WebHost s host := by
  rw [specialHost.eq_def] at h
  split at h
  next rest =>
    rw [bracketHost, Option.ite_none_right_eq_some] at h
    obtain ⟨pieces, -, rfl⟩ := Option.map_eq_some_iff.1 h.2
    exact .bracket pieces
  next hbracket =>
    have hhead : s.head? ≠ some '[' := by
      intro hhead
      obtain ⟨rest, rfl⟩ := List.head?_eq_some_iff.1 hhead
      exact hbracket rest rfl
    obtain ⟨text, hdecoded, h⟩ := Option.bind_eq_some_iff.1 h
    obtain ⟨domain, hnamed, h⟩ := Option.bind_eq_some_iff.1 h
    rw [Option.ite_none_left_eq_some] at h
    obtain ⟨hne, h⟩ := h
    split at h
    next hnumeric =>
      obtain ⟨address, hread, rfl⟩ := Option.map_eq_some_iff.1 h
      exact .address hhead hdecoded hnamed hnumeric hread
    next hnumeric =>
      cases h
      exact .name hhead hdecoded hnamed hne (Bool.eq_false_iff.2 hnumeric)

/-- A host of a URL of the web ends in a bracket, or it is a text of characters of domains. -/
theorem WebHost.last {s host : List Char} (h : WebHost s host) :
    host.getLast? = some ']' ∨ host ≠ [] ∧ ∀ c ∈ host, Host.IsDomainChar c := by
  cases h with
  | bracket => exact .inl List.getLast?_concat
  | address => exact .inr ⟨by simp [Host.showV4, List.intercalate], fun c => Host.isDomainChar_of_mem_showV4⟩
  | name _ _ hnamed hne => exact .inr ⟨hne, fun c => Host.isDomainChar_of_mem_domainToAscii hnamed⟩

namespace Place

private theorem segments_enter_ne_nil (kind : SchemeKind) (p : Place) {piece : List Char}
    (hdouble : isDoubleDot (encode pathSet (significant piece)) = false)
    (hsingle : isSingleDot (encode pathSet (significant piece)) = false) :
    (p.enter kind piece).segments ≠ [] := by
  rw [enter, if_neg (Bool.eq_false_iff.1 hdouble), if_neg (Bool.eq_false_iff.1 hsingle)]
  split
  · split
    · exact List.cons_ne_nil _ _
    · split <;> exact List.cons_ne_nil _ _
  · exact List.cons_ne_nil _ _

private theorem segments_follow_ne_nil (kind : SchemeKind) (p : Place) {pieces : List (List Char)}
    (h : pieces ≠ []) : (p.follow kind pieces).segments ≠ [] := by
  fun_induction follow kind p pieces with
  | case1 => exact absurd rfl h
  | case2 => exact List.cons_ne_nil _ _
  | case3 p last entered segment hdots =>
    rw [Bool.not_eq_true, Bool.or_eq_false_iff] at hdots
    exact segments_enter_ne_nil kind p hdots.1 hdots.2
  | case4 p piece pieces hne ih => exact ih hne

end Place

private theorem splitAtSlashes_ne_nil (kind : SchemeKind) (s : List Char) : splitAtSlashes kind s ≠ [] := by
  cases s with
  | nil => exact List.cons_ne_nil _ _
  | cons c s =>
    rw [splitAtSlashes]
    split
    · exact List.cons_ne_nil _ _
    · split <;> exact List.cons_ne_nil _ _

/-- A place that a text leads to has a path that begins with a slash. -/
theorem Place.head?_path_ofText (kind : SchemeKind) (host s : List Char) :
    (Place.ofText kind host s).path.head? = some '/' := by
  have hne := Place.segments_follow_ne_nil kind ⟨host, []⟩
    (splitAtSlashes_ne_nil kind (s.takeWhile (!endsPath ·)))
  rw [Place.path, Place.ofText]
  obtain ⟨segment, segments, hsegments⟩ :=
    List.exists_cons_of_ne_nil (mt List.reverse_eq_nil_iff.1 hne)
  rw [hsegments]
  rfl

private theorem takeWhile_authority (s : List Char) :
    ((significant s ++ ['/']).dropWhile (isSlash .web)).takeWhile (!endsAuthority .web ·) = webAuthority s := by
  rw [webAuthority, List.dropWhile_append]
  split
  next hempty =>
    rw [List.isEmpty_iff.1 hempty]
    rfl
  next => exact Text.takeWhile_append_cons (by decide) _ _

theorem https_eq_ofList (s : String) :
    "https://" ++ s ++ "/" = String.ofList ("https://".toList ++ s.toList ++ ['/']) := by
  rw [← String.toList_inj]
  simp [String.toList_append]

/-- A URL of the web is read from behind the slashes before its authority. -/
theorem parse_https_eq (s : List Char) : parse (String.ofList ("https://".toList ++ s ++ ['/'])) =
    readWithAuthority .web "https" ((significant s ++ ['/']).dropWhile (isSlash .web)) := by
  have htext : "https://".toList ++ s ++ ['/'] = "https".toList ++ ':' :: '/' :: '/' :: (s ++ ['/']) := by
    simp
  have hscheme : splitScheme (trim ("https".toList ++ ':' :: '/' :: '/' :: (s ++ ['/']))) =
      some ("https", '/' :: '/' :: (s ++ ['/'])) := by
    refine splitScheme_trim (List.all_eq_true.1 (by decide)) (by decide) fun c hc => ?_
    obtain rfl : '/' = c := by simpa [List.getLast?_cons] using hc
    decide
  have hread : parse (String.ofList ("https://".toList ++ s ++ ['/'])) = readWithAuthority .web "https"
      ((significant ('/' :: '/' :: (s ++ ['/']))).dropWhile (isSlash .web)) := by
    rw [parse, String.toList_ofList, htext]
    exact congrArg (Option.bind · _) hscheme
  have hsignificant : significant ('/' :: '/' :: (s ++ ['/'])) = '/' :: '/' :: (significant s ++ ['/']) := by
    simp [significant, isIgnored]
  rw [hread, hsignificant, List.dropWhile_cons_of_pos (by decide), List.dropWhile_cons_of_pos (by decide)]

/-- The parts of a URL of the web. -/
theorem parse_https {s : List Char} {u : Url}
    (h : parse (String.ofList ("https://".toList ++ s ++ ['/'])) = some u) :
    specialHost (hostText s) = some u.host.toList ∧ u.path.toList.head? = some '/' := by
  rw [parse_https_eq] at h
  obtain ⟨⟨host, rest⟩, hauthority, hurl⟩ := Option.bind_eq_some_iff.1 h
  cases hurl
  have hhost := specialHost_of_readAuthority hauthority
  rw [takeWhile_authority] at hhost
  refine ⟨hhost.trans (congrArg some String.toList_ofList.symm), ?_⟩
  exact (congrArg List.head? String.toList_ofList).trans (Place.head?_path_ofText _ _ _)

/-! ### Hosts that are filled in from a template -/

private theorem afterUser_eq (s : List Char) : afterUser s = (s.reverse.takeWhile (· ≠ '@')).reverse := by
  rw [afterUser, Text.splitAtLast, Text.drop_length_takeWhile]
  cases hdrop : s.reverse.dropWhile (· ≠ '@') with
  | nil =>
    have hall : s.reverse.takeWhile (· ≠ '@') = s.reverse := by
      conv_rhs => rw [← List.takeWhile_append_dropWhile (p := (· ≠ '@')) (l := s.reverse), hdrop,
        List.append_nil]
    rw [hall, List.reverse_reverse]
  | cons => rfl

section
variable {IsWord : List Char → Prop} {template s : List Char}

private theorem splitHost_cons_of_ne {c : Char} (hcolon : c ≠ ':') (hopen : c ≠ '[') (hclose : c ≠ ']')
    (inBrackets : Bool) (s : List Char) :
    (splitHost inBrackets (c :: s)).1 = c :: (splitHost inBrackets s).1 := by
  rw [splitHost, if_neg fun h => hcolon h.1]
  have hstate : (decide (c = '[') || (inBrackets && c != ']')) = inBrackets := by simp [hopen, hclose]
  rw [hstate]

private theorem splitHost_of_word {w : List Char} (hw : ∀ c ∈ w, c.isLower = true) (inBrackets : Bool)
    (s : List Char) : (splitHost inBrackets (w ++ s)).1 = w ++ (splitHost inBrackets s).1 := by
  induction w with
  | nil => rfl
  | cons c w ih =>
    obtain ⟨hc, hw⟩ := List.forall_mem_cons.1 hw
    have hne {d : Char} (hd : d.isLower = false) : c ≠ d := Text.ne_of_isLower hc hd
    rw [List.cons_append, splitHost_cons_of_ne (hne rfl) (hne rfl) (hne rfl), ih hw, List.cons_append]

private theorem filled_splitHost (hword : ∀ w, IsWord w → Text.IsWord w) (inBrackets : Bool)
    (h : Text.Filled '*' IsWord template s) :
    Text.Filled '*' IsWord (splitHost inBrackets template).1 (splitHost inBrackets s).1 := by
  induction h generalizing inBrackets with
  | nil => exact .nil
  | @keep c _ _ _ ih =>
    rw [splitHost, splitHost]
    split
    · exact .nil
    · exact .keep (ih _)
  | fill hw _ ih =>
    rw [splitHost_of_word (hword _ hw).lower, splitHost_cons_of_ne (by decide) (by decide) (by decide)]
    exact .fill hw (ih _)

/-- Words do not change which part of a text the host is read from. -/
theorem filled_hostText (hword : ∀ w, IsWord w → Text.IsWord w) (h : Text.Filled '*' IsWord template s) :
    Text.Filled '*' IsWord (hostText template) (hostText s) := by
  have hsign {w : List Char} (hw : IsWord w) {c : Char} (hc : c ∈ w) {d : Char}
      (hd : d.isLower = false) : c ≠ d := Text.ne_of_isLower ((hword w hw).lower c hc) hd
  have hsignificant : Text.Filled '*' IsWord (significant template) (significant s) := by
    refine h.filter (by decide) fun w hw c hc => ?_
    simp [isIgnored, hsign hw hc]
  have hslashes : Text.Filled '*' IsWord ((significant template).dropWhile (isSlash .web))
      ((significant s).dropWhile (isSlash .web)) := by
    refine hsignificant.dropWhile (by decide) fun w hw => ⟨(hword w hw).ne_nil, fun c hc => ?_⟩
    simp [isSlash, hsign hw hc]
  have hauthority : Text.Filled '*' IsWord (webAuthority template) (webAuthority s) := by
    refine hslashes.takeWhile (by decide) fun w hw c hc => ?_
    simp [endsAuthority, endsPath, isSlash, hsign hw hc]
  have huser : Text.Filled '*' IsWord (afterUser (webAuthority template)) (afterUser (webAuthority s)) := by
    rw [afterUser_eq, afterUser_eq]
    refine (hauthority.reverse.takeWhile (by decide) fun w hw c hc => ?_).reverse.mono fun w hw => ?_
    · simpa using hsign hw (List.mem_reverse.2 hc) (d := '@') rfl
    · rwa [List.reverse_reverse] at hw
  exact filled_splitHost hword false huser

end

/-! ### URLs of the web that are a host alone -/

section
variable {s : List Char} (hs : ∀ c ∈ s, c ∉ outsideHost)
include hs

private theorem not_mem_host {c : Char} (hc : c ∈ outsideHost) : c ∉ s :=
  fun hin => hs c hin hc

private theorem splitHost_eq_self : splitHost false s = (s, []) := by
  induction s with
  | nil => rfl
  | cons c s ih =>
    obtain ⟨hc, hs⟩ := List.forall_mem_cons.1 hs
    have hcolon : c ≠ ':' := fun h => hc (h ▸ by decide)
    have hopen : c ≠ '[' := fun h => hc (h ▸ by decide)
    have hstate : (decide (c = '[') || (false && c != ']')) = false := by simp [hopen]
    rw [splitHost, if_neg fun h => hcolon h.1, hstate, ih hs]

private theorem significant_host : significant s = s := by
  refine significant_of_kept fun c hc => Bool.eq_false_iff.2 fun hignored => ?_
  have houtside : ['\t', '\n', '\r'] ⊆ outsideHost := by decide
  exact hs c hc (houtside (isIgnored_iff.1 hignored))

private theorem endsAuthority_host : ∀ c ∈ s, (!endsAuthority .web c) = true := by
  intro c hc
  rw [Bool.not_eq_true', Bool.eq_false_iff]
  intro hends
  simp only [endsAuthority, isSlash, endsPath, SchemeKind.isSpecial, Bool.and_true, Bool.or_eq_true,
    decide_eq_true_eq] at hends
  rcases hends with (rfl | rfl) | rfl | rfl <;> exact not_mem_host hs (by decide) hc

private theorem dropWhile_host (rest : List Char) (hne : s ≠ []) :
    (s ++ rest).dropWhile (isSlash .web) = s ++ rest := by
  obtain ⟨c, s, rfl⟩ := List.exists_cons_of_ne_nil hne
  have hends := endsAuthority_host hs c List.mem_cons_self
  rw [endsAuthority, Bool.not_or, Bool.and_eq_true] at hends
  rw [List.cons_append, List.dropWhile_cons_of_neg (by simpa using hends.1)]

/-- The text of a host that stands alone is read as it stands. -/
theorem hostText_eq_self : hostText s = s := by
  have hauthority : webAuthority s = s := by
    rw [webAuthority, significant_host hs]
    by_cases hne : s = []
    · rw [hne]
      rfl
    · have hstart := dropWhile_host hs [] hne
      rw [List.append_nil] at hstart
      rw [hstart, List.takeWhile_eq_self_iff.2 (endsAuthority_host hs)]
  rw [hostText, hauthority, afterUser, Text.splitAtLast_eq_none_iff.2 (not_mem_host hs (by decide))]
  exact congrArg Prod.fst (splitHost_eq_self hs)

/-- A URL of the web that is a host alone has no path but the slash. -/
theorem parse_https_host {host : List Char} (h : specialHost s = some host) :
    parse (String.ofList ("https://".toList ++ s ++ ['/'])) =
      some ⟨"https", String.ofList host, "/", none⟩ := by
  have hne : s ≠ [] := by
    rintro rfl
    cases h
  have hauthority : (s ++ ['/']).takeWhile (!endsAuthority .web ·) = s := by
    rw [List.takeWhile_append_of_pos (endsAuthority_host hs), List.takeWhile_cons_of_neg (by decide),
      List.append_nil]
  have hread : readAuthority .web (s ++ ['/']) = some (host, ['/']) := by
    rw [readAuthority, hauthority, List.drop_left,
      Text.splitAtLast_eq_none_iff.2 (not_mem_host hs (by decide))]
    simp [splitHost_eq_self hs, readAuthority.splitPortNumber, SchemeKind.isSpecial, h, isPortNumber,
      Host.number?]
  rw [parse_https_eq, significant_host hs, dropWhile_host hs _ hne, readWithAuthority, hread]
  rfl

/-- The host is the form of the domain name in ASCII, unless that is an address. -/
theorem parse_https_domain {domain : List Char} (hpercent : '%' ∉ s) (hdomain : Host.domainToAscii s = some domain)
    (hne : domain ≠ []) (hnumber : Host.endsInNumber domain = false) :
    parse (String.ofList ("https://".toList ++ s ++ ['/'])) =
      some ⟨"https", String.ofList domain, "/", none⟩ := by
  refine parse_https_host hs ?_
  rw [specialHost.eq_def]
  split
  next => exact absurd List.mem_cons_self (not_mem_host hs (by decide : '[' ∈ outsideHost))
  next => simp [decode_eq_self hpercent, hdomain, hne, hnumber]

end

/-! ### URLs without a host -/

private theorem encode_eq_self {s : List Char} (h : ∀ c ∈ s, IsPlain c) : encode [] s = s := by
  induction s with
  | nil => rfl
  | cons c s ih =>
    obtain ⟨⟨hge, hlt⟩, hs⟩ := List.forall_mem_cons.1 h
    have hkept : encodeChar [] c = [c] := if_neg (by simp; omega)
    rw [encode, List.flatMap_cons, hkept, ← encode, ih hs, List.singleton_append]

/-- Behind a scheme without rules, a text that begins with no slash is a path as it is written. -/
theorem parse_opaque {s : List Char} (hplain : ∀ c ∈ s, 0x20 < c.toNat ∧ c.toNat < 0x7F)
    (hslash : s.head? ≠ some '/') (hends : ∀ c ∈ s, endsPath c = false) :
    parse (String.ofList ('x' :: ':' :: s)) = some ⟨"x", "", String.ofList s, none⟩ := by
  have hvisible : ∀ c ∈ s, isControlOrSpace c = false := fun c hc =>
    decide_eq_false (Nat.not_le.2 (hplain c hc).1)
  have hscheme : splitScheme (trim (['x'] ++ ':' :: s)) = some ("x", s) :=
    splitScheme_trim (List.all_eq_true.1 (by decide)) (by decide) fun c hc =>
      hvisible c (List.mem_of_getLast? hc)
  have hpath : s.takeWhile (!endsPath ·) = s :=
    List.takeWhile_eq_self_iff.2 fun c hc => by simp [hends c hc]
  have hquery : s.dropWhile (!endsPath ·) = [] :=
    List.dropWhile_eq_nil_iff.2 fun c hc => by simp [hends c hc]
  have hread : parse (String.ofList ('x' :: ':' :: s)) = readOther "x" (significant s) := by
    rw [parse, String.toList_ofList]
    exact congrArg (Option.bind · _) hscheme
  rw [hread, significant_eq_self hvisible, readOther.eq_def]
  split
  next => exact absurd rfl hslash
  next => exact absurd rfl hslash
  next =>
    rw [withQuery, queryIn, hquery, hpath, encode_eq_self fun c hc => ⟨(hplain c hc).1.le, (hplain c hc).2⟩]

end PagePolicy.Url
