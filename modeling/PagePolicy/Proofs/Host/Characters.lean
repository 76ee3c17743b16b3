import Mathlib.Data.Bool.AllAny
import Mathlib.Data.List.Basic
import PagePolicy.Host.Address
import PagePolicy.Host.Domain
import PagePolicy.Proofs.Text.Letters
import PagePolicy.Proofs.Text.Search

/-! The characters of hosts: whatever text a host is read from, it is visible ASCII without a slash. Addresses
in brackets have colons and brackets, other hosts of special schemes none of the forbidden characters. -/

namespace PagePolicy.Host

open Text

/-- The visible characters of ASCII that stand in no host, not even in one in brackets. -/
def outsideBrackets : List Char :=
  ['#', '/', '<', '>', '?', '@', '\\', '^', '|']

/-- A visible character of ASCII that can stand in a host. -/
structure IsHostChar (c : Char) : Prop where
  gt : 0x20 < c.toNat
  lt : c.toNat < 0x7F
  free : c ∉ outsideBrackets

instance (c : Char) : Decidable (IsHostChar c) :=
  decidable_of_iff (0x20 < c.toNat ∧ c.toNat < 0x7F ∧ c ∉ outsideBrackets)
    ⟨fun ⟨gt, lt, free⟩ => ⟨gt, lt, free⟩, fun ⟨gt, lt, free⟩ => ⟨gt, lt, free⟩⟩

theorem IsHostChar.ne {c : Char} (h : IsHostChar c) : c ≠ '/' := by
  rintro rfl
  exact absurd h.free (by decide)

/-- A visible character of ASCII that can stand in a host without brackets around it. -/
structure IsDomainChar (c : Char) : Prop where
  gt : 0x20 < c.toNat
  lt : c.toNat < 0x7F
  free : c ∉ forbidden

instance (c : Char) : Decidable (IsDomainChar c) :=
  decidable_of_iff (0x20 < c.toNat ∧ c.toNat < 0x7F ∧ c ∉ forbidden)
    ⟨fun ⟨gt, lt, free⟩ => ⟨gt, lt, free⟩, fun ⟨gt, lt, free⟩ => ⟨gt, lt, free⟩⟩

theorem IsDomainChar.isHostChar {c : Char} (h : IsDomainChar c) : IsHostChar c := by
  have hsub : ∀ d ∈ outsideBrackets, d ∈ forbidden := List.all_iff_forall_prop.1 (by decide)
  exact ⟨h.gt, h.lt, fun hc => h.free (hsub c hc)⟩

private theorem isDomainChar_of_isAlphanum {c : Char} (h : c.isAlphanum = true) : IsDomainChar c := by
  have hrange : ((65 ≤ c.toNat ∧ c.toNat ≤ 90) ∨ (97 ≤ c.toNat ∧ c.toNat ≤ 122)) ∨
      (48 ≤ c.toNat ∧ c.toNat ≤ 57) :=
    (isAlphanum_iff.1 h).imp toNat_of_isAlpha toNat_of_isDigit
  have hnone : ∀ d ∈ forbidden, d.isAlphanum = false := List.all_iff_forall_prop.1 (by decide)
  exact ⟨by omega, by omega, fun hc => by simp [hnone c hc] at h⟩

theorem isHostChar_of_isAlphanum {c : Char} (h : c.isAlphanum = true) : IsHostChar c :=
  (isDomainChar_of_isAlphanum h).isHostChar

/-! ### Addresses -/

theorem isDomainChar_of_mem_showV4 {address : Nat} {c : Char} (h : c ∈ showV4 address) :
    IsDomainChar c := by
  rcases mem_intercalate h with h | ⟨part, hpart, h⟩
  · obtain rfl := List.mem_singleton.1 h
    decide
  · obtain ⟨unit, -, rfl⟩ := List.mem_map.1 hpart
    exact isDomainChar_of_isAlphanum (isAlphanum_of_mem_toDigits (by decide) (by decide) h)

private theorem isHostChar_of_mem_showPieces {pieces : List Nat} {c : Char} (h : c ∈ showPieces pieces) :
    IsHostChar c := by
  rcases mem_intercalate h with h | ⟨part, hpart, h⟩
  · obtain rfl := List.mem_singleton.1 h
    decide
  · obtain ⟨piece, -, rfl⟩ := List.mem_map.1 hpart
    exact isHostChar_of_isAlphanum (isAlphanum_of_mem_toDigits (by decide) (by decide) h)

theorem isHostChar_of_mem_showV6 {pieces : List Nat} {c : Char} (h : c ∈ showV6 pieces) :
    IsHostChar c := by
  unfold showV6 at h
  generalize longestZeros pieces = zeros at h
  dsimp only at h
  split at h
  · exact isHostChar_of_mem_showPieces h
  · rcases List.mem_append.1 h with h | h
    · rcases List.mem_append.1 h with h | h
      · exact isHostChar_of_mem_showPieces h
      · have hc : c = ':' := by simpa using h
        subst hc
        decide
    · exact isHostChar_of_mem_showPieces h

theorem exists_of_mapM {α β : Type} {f : α → Option β} {xs : List α} {ys : List β}
    (h : xs.mapM f = some ys) {x : α} (hx : x ∈ xs) : ∃ y ∈ ys, f x = some y := by
  induction xs generalizing ys with
  | nil => cases hx
  | cons first xs ih =>
    rw [List.mapM_cons] at h
    obtain ⟨y, hy, h⟩ := Option.bind_eq_some_iff.1 h
    obtain ⟨later, hlater, h⟩ := Option.bind_eq_some_iff.1 h
    cases h
    rcases List.mem_cons.1 hx with rfl | hx
    · exact ⟨y, List.mem_cons_self, hy⟩
    · obtain ⟨y', hy', hf⟩ := ih hlater hx
      exact ⟨y', List.mem_cons_of_mem _ hy', hf⟩

/-- A character that can stand in the text of an address of version 4. -/
def IsAddressChar (c : Char) : Prop :=
  c ∈ ['.', 'x', 'X'] ∨ c.isDigit = true ∨ ('a' ≤ c ∧ c ≤ 'f') ∨ ('A' ≤ c ∧ c ≤ 'F')

instance (c : Char) : Decidable (IsAddressChar c) :=
  inferInstanceAs (Decidable (_ ∨ _ ∨ _ ∨ _))

private theorem isAddressChar_of_digitOf? {base d : Nat} {c : Char} (h : digitOf? base c = some d) :
    IsAddressChar c := by
  by_contra hnot
  simp only [IsAddressChar, not_or] at hnot
  obtain ⟨-, hdigit, hlower, hupper⟩ := hnot
  simp [digitOf?, hdigit, hlower, hupper] at h

private theorem isAddressChar_of_number? {base n : Nat} {s : List Char} (h : number? base s = some n) {c : Char}
    (hc : c ∈ s) : IsAddressChar c := by
  rw [number?] at h
  generalize 0 = start at h
  induction s generalizing start with
  | nil => cases hc
  | cons d s ih =>
    rw [List.foldlM_cons] at h
    obtain ⟨next, hnext, h⟩ := Option.bind_eq_some_iff.1 h
    obtain ⟨digit, hdigit, -⟩ := Option.map_eq_some_iff.1 hnext
    rcases List.mem_cons.1 hc with rfl | hc
    · exact isAddressChar_of_digitOf? hdigit
    · exact ih hc next h

private theorem isAddressChar_of_partNumber? {s : List Char} {n : Nat} (h : partNumber? s = some n) {c : Char}
    (hc : c ∈ s) : IsAddressChar c := by
  rw [partNumber?.eq_def] at h
  split at h
  next => cases h
  next =>
    rcases List.mem_cons.1 hc with rfl | hc
    · decide
    · rcases List.mem_cons.1 hc with rfl | hc
      · decide
      · exact isAddressChar_of_number? h hc
  next =>
    rcases List.mem_cons.1 hc with rfl | hc
    · decide
    · rcases List.mem_cons.1 hc with rfl | hc
      · decide
      · exact isAddressChar_of_number? h hc
  next =>
    obtain rfl := List.mem_singleton.1 hc
    decide
  next =>
    rcases List.mem_cons.1 hc with rfl | hc
    · decide
    · exact isAddressChar_of_number? h hc
  next => exact isAddressChar_of_number? h hc

private theorem mem_addressParts {s part : List Char} (h : part ∈ List.splitOn '.' s) (hne : part ≠ []) :
    part ∈ addressParts s := by
  rw [addressParts]
  split
  next hlast =>
    obtain ⟨before, hbefore⟩ := List.getLast?_eq_some_iff.1 hlast
    rw [hbefore] at h ⊢
    rw [List.dropLast_concat]
    exact (List.mem_append.1 h).resolve_right fun h => hne (List.mem_singleton.1 h)
  next => exact h

/-- Whatever is read as an address is made of the characters of addresses. -/
theorem isAddressChar_of_readV4 {s : List Char} {address : Nat} (h : readV4 s = some address) {c : Char}
    (hc : c ∈ s) : IsAddressChar c := by
  obtain ⟨numbers, hnumbers, -⟩ := Option.bind_eq_some_iff.1 h
  have hparts : ['.'].intercalate (List.splitOn '.' s) = s := List.intercalate_splitOn '.'
  rw [← hparts] at hc
  rcases mem_intercalate hc with hc | ⟨part, hpart, hc⟩
  · obtain rfl := List.mem_singleton.1 hc
    decide
  · obtain ⟨n, -, hn⟩ := exists_of_mapM hnumbers (mem_addressParts hpart (List.ne_nil_of_mem hc))
    exact isAddressChar_of_partNumber? hn hc

/-! ### Punycode -/

namespace Punycode

private theorem isAlphanum_digitChar : ∀ d < base, (digitChar d).isAlphanum = true := by
  decide

private theorem isAlphanum_of_digit? {c : Char} (h : (digit? c).isSome = true) : c.isAlphanum = true := by
  rw [digit?] at h
  split at h
  next hc => exact isAlphanum_of_lower hc
  next =>
    split at h
    next hc => exact isAlphanum_of_upper hc
    next =>
      split at h
      next hc => exact isAlphanum_of_digit hc
      next => cases h

private theorem isAlphanum_of_mem_writeNumber {bias position n : Nat} {c : Char}
    (h : c ∈ writeNumber bias position n) : c.isAlphanum = true := by
  have hpos := threshold_pos bias position
  have hlt := threshold_lt_base bias position
  fun_induction writeNumber bias position n with
  | case1 position n t hle ih =>
    rcases List.mem_cons.1 h with rfl | h
    · have hmod : (n - t) % (base - t) < base - t := Nat.mod_lt _ (Nat.sub_pos_of_lt hlt)
      exact isAlphanum_digitChar _ (by omega)
    · exact ih h (threshold_pos _ _) (threshold_lt_base _ _)
  | case2 position n t hlt' =>
    obtain rfl := List.mem_singleton.1 h
    exact isAlphanum_digitChar n (by omega)

/-- The digits that have been written are letters and digits of ASCII. -/
def Progress.Plain (p : Progress) : Prop :=
  ∀ c ∈ p.digits, c.isAlphanum = true

private theorem plain_writeCode {code c : Nat} {p : Progress} (h : p.Plain) : (writeCode code p c).Plain := by
  unfold writeCode
  split
  · exact h
  · split
    · intro d hd
      rcases List.mem_append.1 hd with hd | hd
      · exact isAlphanum_of_mem_writeNumber (List.mem_reverse.1 hd)
      · exact h d hd
    · exact h

private theorem isAlphanum_of_mem_writeCodes {codes others : List Nat} {code : Nat} {p : Progress}
    (hp : p.Plain) {c : Char} (h : c ∈ writeCodes codes code p others) : c.isAlphanum = true := by
  induction others generalizing code p with
  | nil => exact hp c (List.mem_reverse.1 h)
  | cons next others ih =>
    rw [writeCodes] at h
    refine ih (p := _) ?_ h
    have hfold (codes : List Nat) {p : Progress} (hp : p.Plain) :
        (codes.foldl (writeCode next) p).Plain :=
      List.foldlRecOn codes _ hp fun _ hq _ _ => plain_writeCode hq
    exact hfold codes hp

/-- Punycode has the ASCII characters of the text, and else letters, digits and hyphens. -/
theorem mem_encode {s : List Char} {c : Char} (h : c ∈ encode s) :
    (c ∈ s ∧ c.toNat < 0x80) ∨ c = '-' ∨ c.isAlphanum = true := by
  have hbasic {c : Char} (h : c ∈ s.filter fun c => c.toNat < firstCode) : c ∈ s ∧ c.toNat < 0x80 :=
    (List.mem_filter.1 h).imp_right of_decide_eq_true
  rw [encode] at h
  rcases List.mem_append.1 h with h | h
  · split at h
    · cases h
    · rcases List.mem_append.1 h with h | h
      · exact .inl (hbasic h)
      · exact .inr (.inl (List.mem_singleton.1 h))
  · exact .inr (.inr (isAlphanum_of_mem_writeCodes (fun _ h => absurd h List.not_mem_nil) h))

/-! What can be read as Punycode is made of digits and of characters that the text has itself. -/

private theorem digits_of_readNumber {bias position weight n m : Nat} {s rest : List Char}
    (h : readNumber bias position weight n s = some (m, rest)) :
    ∃ digits, s = digits ++ rest ∧ ∀ c ∈ digits, (digit? c).isSome = true := by
  induction s generalizing position weight n with
  | nil => cases h
  | cons c s ih =>
    rw [readNumber] at h
    split at h
    next => cases h
    next d hd =>
      have hc : (digit? c).isSome = true := by rw [hd]; rfl
      split at h
      · cases h
      · split at h
        · cases h
          exact ⟨[c], rfl, by simpa using hc⟩
        · obtain ⟨digits, rfl, hdigits⟩ := ih h
          exact ⟨c :: digits, rfl, List.forall_mem_cons.2 ⟨hc, hdigits⟩⟩

private theorem mem_of_readCodes {code place bias : Nat} {codes found : List Nat} {s : List Char}
    (h : readCodes code place bias codes s = some found) :
    (∀ n ∈ codes, n ∈ found) ∧ ∀ c ∈ s, (digit? c).isSome = true := by
  fun_induction readCodes code place bias codes s with
  | case1 => 
    cases h
    exact ⟨fun _ => id, nofun⟩
  | case2 => cases h
  | case3 code place bias codes s hs n rest hread count code' hvalid ih =>
    obtain ⟨hcodes, hrest⟩ := ih h
    obtain ⟨digits, rfl, hdigits⟩ := digits_of_readNumber hread
    have hplace : n % count ≤ codes.length := Nat.le_of_lt_succ (Nat.mod_lt n (Nat.succ_pos _))
    refine ⟨fun m hm => hcodes m ((List.mem_insertIdx hplace).2 (.inr hm)), fun c hc => ?_⟩
    exact (List.mem_append.1 hc).elim (hdigits c) (hrest c)
  | case4 => cases h

/-- A text is the part before its last hyphen, the hyphen and the part after it. -/
theorem mem_of_lastHyphen {s digits : List Char} (h : (s.reverse.takeWhile (· ≠ '-')).reverse = digits)
    {c : Char} (hc : c ∈ s) : c ∈ s.take (s.length - digits.length - 1) ∨ c = '-' ∨ c ∈ digits := by
  have hs : s = (s.reverse.dropWhile (· ≠ '-')).reverse ++ digits := by
    rw [← h, ← List.reverse_append, List.takeWhile_append_dropWhile, List.reverse_reverse]
  cases hrest : s.reverse.dropWhile (· ≠ '-') with
  | nil =>
    rw [hrest, List.reverse_nil, List.nil_append] at hs
    exact .inr (.inr (hs ▸ hc))
  | cons d before =>
    have hd : d = '-' := by
      have := List.head?_dropWhile_not (· ≠ '-') s.reverse
      rw [hrest] at this
      simpa using this
    rw [hrest, List.reverse_cons, List.append_assoc] at hs
    have htake : s.take (s.length - digits.length - 1) = before.reverse := by
      conv_lhs => rw [hs]
      refine List.take_left' ?_
      rw [List.length_append, List.length_append, List.length_singleton]
      omega
    rw [htake]
    rw [hs] at hc
    simpa [hd] using hc

private theorem mem_of_decode {s label : List Char} (h : decode s = some label) {c : Char} (hc : c ∈ s) :
    c = '-' ∨ c.isAlphanum = true ∨ c ∈ label := by
  rw [decode] at h
  generalize hdigits : (s.reverse.takeWhile (· ≠ '-')).reverse = digits at h
  split at h
  next =>
    obtain ⟨codes, hcodes, rfl⟩ := Option.map_eq_some_iff.1 h
    obtain ⟨hkept, hread⟩ := mem_of_readCodes hcodes
    rcases mem_of_lastHyphen hdigits hc with hbasic | rfl | hdigit
    · have hmem := hkept _ (List.mem_map_of_mem hbasic)
      exact .inr (.inr (List.mem_map.2 ⟨_, hmem, Char.ofNat_toNat c⟩))
    · exact .inl rfl
    · refine .inr (.inl (isAlphanum_of_digit? (hread c ?_)))
      split
      · exact hc
      · exact hdigit
  next => cases h

end Punycode

/-! ### Domain names -/

theorem isDomainChar_of_isLabelChar {c : Char} (h : isLabelChar c = true) (hascii : c.toNat < 0x80) :
    IsDomainChar c := by
  rw [isLabelChar, if_pos hascii] at h
  simp only [Bool.and_eq_true, decide_eq_true_eq] at h
  obtain ⟨⟨⟨⟨hgt, hlt⟩, -⟩, -⟩, hfree⟩ := h
  exact ⟨hgt, hlt, by simpa using hfree⟩

theorem isLabelChar_of_fitLabel {s : List Char} (h : fitLabel s = true) {c : Char} (hc : c ∈ s) :
    isLabelChar c = true := by
  simp only [fitLabel, Bool.and_eq_true] at h
  exact List.all_eq_true.1 h.1.1.2 c hc

/-- The mark of a label in Punycode. -/
theorem isDomainChar_of_mem_mark {c : Char} (h : c ∈ ['x', 'n', '-', '-']) : IsDomainChar c := by
  have hall : ∀ d ∈ ['x', 'n', '-', '-'], IsDomainChar d := List.all_iff_forall_prop.1 (by decide)
  exact hall c h

private theorem decode_of_decodeLabel {encoded label : List Char} (h : decodeLabel encoded = some label) :
    Punycode.decode encoded = some label ∧ fitLabel label = true := by
  obtain ⟨-, -, h⟩ := Option.bind_eq_some_iff.1 h
  obtain ⟨label', hdecode, h⟩ := Option.bind_eq_some_iff.1 h
  split at h
  next hfit =>
    cases h
    rw [Bool.and_eq_true] at hfit
    exact ⟨hdecode, hfit.2⟩
  next => cases h

/-- A label in ASCII is the text itself, or the mark of Punycode and what the text is in Punycode. -/
theorem isDomainChar_of_mem_ascii {s : List Char} {l : Label} (h : Label.ofText? s = some l) {c : Char}
    (hc : c ∈ l.ascii) : IsDomainChar c := by
  rw [Label.ofText?.eq_def] at h
  split at h
  next encoded =>
    split at h
    next hall =>
      obtain ⟨label, hlabel, rfl⟩ := Option.map_eq_some_iff.1 h
      obtain ⟨hdecode, hfit⟩ := decode_of_decodeLabel hlabel
      have hascii := of_decide_eq_true (List.all_eq_true.1 hall c hc)
      rcases List.mem_append.1 (show c ∈ ['x', 'n', '-', '-'] ++ encoded from hc) with hc | hc
      · exact isDomainChar_of_mem_mark hc
      · rcases Punycode.mem_of_decode hdecode hc with rfl | hc | hc
        · decide
        · exact isDomainChar_of_isAlphanum hc
        · exact isDomainChar_of_isLabelChar (isLabelChar_of_fitLabel hfit hc) hascii
    next => cases h
  next =>
    split at h
    next hall =>
      split at h
      next hchars =>
        cases h
        exact isDomainChar_of_isLabelChar (List.all_eq_true.1 hchars c hc)
          (of_decide_eq_true (List.all_eq_true.1 hall c hc))
      next => cases h
    next =>
      split at h
      next hfit =>
        cases h
        rcases List.mem_append.1 hc with hc | hc
        · exact isDomainChar_of_mem_mark hc
        · rcases Punycode.mem_encode hc with ⟨hc, hascii⟩ | rfl | hc
          · exact isDomainChar_of_isLabelChar (isLabelChar_of_fitLabel hfit hc) hascii
          · decide
          · exact isDomainChar_of_isAlphanum hc
      next => cases h

private theorem exists_of_mem_mapM {α β : Type} {f : α → Option β} {xs : List α} {ys : List β}
    (h : xs.mapM f = some ys) {y : β} (hy : y ∈ ys) : ∃ x ∈ xs, f x = some y := by
  induction xs generalizing ys with
  | nil =>
    cases h
    cases hy
  | cons x xs ih =>
    rw [List.mapM_cons] at h
    obtain ⟨first, hfirst, h⟩ := Option.bind_eq_some_iff.1 h
    obtain ⟨later, hlater, h⟩ := Option.bind_eq_some_iff.1 h
    cases h
    rcases List.mem_cons.1 hy with rfl | hy
    · exact ⟨x, List.mem_cons_self, hfirst⟩
    · obtain ⟨x', hx', hf⟩ := ih hlater hy
      exact ⟨x', List.mem_cons_of_mem _ hx', hf⟩

theorem isDomainChar_of_mem_domainToAscii {s domain : List Char} (h : domainToAscii s = some domain)
    {c : Char} (hc : c ∈ domain) : IsDomainChar c := by
  obtain ⟨ls, hls, h⟩ := Option.bind_eq_some_iff.1 h
  obtain ⟨replaced, -, hls⟩ := Option.bind_eq_some_iff.1 hls
  split at h
  next => cases h
  next =>
    cases h
    rcases mem_intercalate hc with hc | ⟨part, hpart, hc⟩
    · obtain rfl := List.mem_singleton.1 hc
      decide
    · obtain ⟨l, hl, rfl⟩ := List.mem_map.1 hpart
      obtain ⟨text, -, htext⟩ := exists_of_mem_mapM hls hl
      exact isDomainChar_of_mem_ascii htext hc

end PagePolicy.Host
