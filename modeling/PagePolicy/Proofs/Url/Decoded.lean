import PagePolicy.Proofs.Text.Filled
import PagePolicy.Proofs.Text.Letters
import PagePolicy.Url.Percent

/-! Percent-decoding of texts that are filled in from a template. Where no escape reaches into a star, the bytes
of the text are filled in from those of the template, and so are the characters that they make. -/

namespace PagePolicy.Url

open Text (Filled)

/-! ### Texts as bytes -/

def bytes (s : List Char) : List UInt8 :=
  s.flatMap String.utf8EncodeChar

private theorem bytes_cons (c : Char) (s : List Char) : bytes (c :: s) = String.utf8EncodeChar c ++ bytes s :=
  List.flatMap_cons

private theorem bytes_singleton (c : Char) : bytes [c] = String.utf8EncodeChar c :=
  List.append_nil _

private theorem bytes_eq_nil {s : List Char} (h : bytes s = []) : s = [] := by
  cases s with
  | nil => rfl
  | cons c s =>
    rw [bytes_cons, List.append_eq_nil_iff] at h
    exact absurd h.1 String.utf8EncodeChar_ne_nil

private theorem utf8EncodeChar_of_ascii {c : Char} (h : c.toNat < 0x80) :
    String.utf8EncodeChar c = [c.toNat.toUInt8] :=
  if_pos (Nat.le_of_lt_succ h)

private theorem le_of_mem_utf8EncodeChar {c : Char} (h : 0x80 ≤ c.toNat) {b : UInt8}
    (hb : b ∈ String.utf8EncodeChar c) : 0x80 ≤ b.toNat := by
  have hc : ¬ c.val.toNat ≤ 0x7F := Nat.not_le.2 h
  simp only [String.utf8EncodeChar, if_neg hc] at hb
  split at hb
  · simp only [List.mem_cons, List.not_mem_nil, or_false] at hb
    rcases hb with rfl | rfl <;> rw [UInt8.toNat_ofNat'] <;> omega
  · split at hb
    · simp only [List.mem_cons, List.not_mem_nil, or_false] at hb
      rcases hb with rfl | rfl | rfl <;> rw [UInt8.toNat_ofNat'] <;> omega
    · simp only [List.mem_cons, List.not_mem_nil, or_false] at hb
      rcases hb with rfl | rfl | rfl | rfl <;> rw [UInt8.toNat_ofNat'] <;> omega

/-- The byte of a character of ASCII is in the bytes of no other one. -/
theorem eq_of_mem_utf8EncodeChar {c d : Char} (hd : d.toNat < 0x80)
    (h : d.toNat.toUInt8 ∈ String.utf8EncodeChar c) : c = d := by
  have hnat : d.toNat.toUInt8.toNat = d.toNat := by
    rw [Nat.toUInt8, UInt8.toNat_ofNat', Nat.mod_eq_of_lt (by omega)]
  by_cases hc : c.toNat < 0x80
  · rw [utf8EncodeChar_of_ascii hc, List.mem_singleton] at h
    have hsame := congrArg UInt8.toNat h
    rw [hnat, Nat.toUInt8, UInt8.toNat_ofNat', Nat.mod_eq_of_lt (by omega)] at hsame
    exact Char.toNat_inj.1 hsame.symm
  · have hle := le_of_mem_utf8EncodeChar (Nat.not_lt.1 hc) h
    omega

private theorem mem_of_mem_bytes {s : List Char} {d : Char} (hd : d.toNat < 0x80) (h : d.toNat.toUInt8 ∈ bytes s) :
    d ∈ s := by
  obtain ⟨c, hc, hin⟩ := List.mem_flatMap.1 h
  rwa [← eq_of_mem_utf8EncodeChar hd hin]

private theorem eq_append_of_bytes {s t : List Char} {rest : List UInt8} (h : bytes t = bytes s ++ rest) :
    ∃ u, t = s ++ u ∧ rest = bytes u := by
  induction s generalizing t with
  | nil => exact ⟨t, rfl, h.symm⟩
  | cons c s ih =>
    rw [bytes_cons, List.append_assoc] at h
    cases t with
    | nil => exact absurd (List.append_eq_nil_iff.1 h.symm).1 String.utf8EncodeChar_ne_nil
    | cons d t =>
      rw [bytes_cons] at h
      have hfirst := congrArg (fun l => l.toByteArray.utf8DecodeChar? 0) h
      simp only [List.toByteArray_append, ByteArray.utf8DecodeChar?_utf8EncodeChar_append] at hfirst
      obtain rfl := Option.some.inj hfirst
      obtain ⟨u, rfl, hu⟩ := ih (List.append_cancel_left h)
      exact ⟨u, rfl, hu⟩

private theorem toByteArray_eq_bytes (text : String) : text.toByteArray = (bytes text.toList).toByteArray := by
  conv_lhs => rw [← String.ofList_toList (s := text)]
  rfl

private theorem fromUTF8?_eq_some_iff {b : ByteArray} {text : String} :
    String.fromUTF8? b = some text ↔ text.toByteArray = b := by
  rw [String.fromUTF8?]
  constructor
  · intro h
    split at h
    next =>
      cases h
      rfl
    next => cases h
  · rintro rfl
    exact dif_pos text.isValidUTF8

private theorem decode_eq_some_iff {s t : List Char} : decode s = some t ↔ bytes t = decodeBytes s := by
  have hdata : (⟨(decodeBytes s).toArray⟩ : ByteArray) = (decodeBytes s).toByteArray :=
    ByteArray.ext List.data_toByteArray.symm
  rw [decode, hdata]
  constructor
  · intro h
    obtain ⟨text, htext, rfl⟩ := Option.map_eq_some_iff.1 h
    rw [fromUTF8?_eq_some_iff, toByteArray_eq_bytes] at htext
    exact List.toByteArray_inj.1 htext
  · intro h
    have htext : String.fromUTF8? (decodeBytes s).toByteArray = some (String.ofList t) := by
      rw [fromUTF8?_eq_some_iff, toByteArray_eq_bytes, String.toList_ofList, h]
    rw [htext, Option.map_some, String.toList_ofList]

/-! ### Bytes of templates -/

section
variable {IsWord : List Char → Prop}

def starByte : UInt8 := 42

/-- The bytes of a word. -/
def IsByteWord (IsWord : List Char → Prop) (w : List UInt8) : Prop :=
  ∃ v, IsWord v ∧ w = bytes v

/-- High bytes are no word, and no word begins with one. -/
theorem filled_of_high (hword : ∀ w, IsWord w → Text.IsWord w) {high rest template : List UInt8}
    (hhigh : ∀ b ∈ high, 0x80 ≤ b.toNat)
    (h : Filled starByte (IsByteWord IsWord) template (high ++ rest)) :
    ∃ template', template = high ++ template' ∧ Filled starByte (IsByteWord IsWord) template' rest := by
  refine h.of_append_right fun w hw => ?_
  obtain ⟨v, hv, rfl⟩ := hw
  obtain ⟨c, v, rfl⟩ := List.exists_cons_of_ne_nil (hword v hv).ne_nil
  have hc := Text.toNat_of_isLower ((hword _ hv).lower c List.mem_cons_self)
  refine ⟨c.toNat.toUInt8, bytes v, by rw [bytes_cons, utf8EncodeChar_of_ascii (by omega)]; rfl, fun hin => ?_⟩
  have hle := hhigh _ hin
  rw [Nat.toUInt8, UInt8.toNat_ofNat'] at hle
  omega

/-- What the bytes of a text are filled in from are the bytes of what the text is filled in from. -/
theorem exists_filled_of_bytes (hword : ∀ w, IsWord w → Text.IsWord w) {template : List UInt8} {s : List Char}
    (h : Filled starByte (IsByteWord IsWord) template (bytes s)) :
    ∃ t, template = bytes t ∧ Filled '*' IsWord t s := by
  induction hn : s.length using Nat.strong_induction_on generalizing s template with
  | _ n ih =>
    subst hn
    cases s with
    | nil =>
      generalize hs : bytes [] = rest at h
      cases h with
      | nil => exact ⟨[], rfl, .nil⟩
      | keep => cases hs
      | fill hw =>
        obtain ⟨v, hv, rfl⟩ := hw
        have hempty := bytes_eq_nil (List.append_eq_nil_iff.1 hs.symm).1
        exact absurd hempty (hword v hv).ne_nil
    | cons c s =>
      by_cases hc : 0x80 ≤ c.toNat
      · rw [bytes_cons] at h
        obtain ⟨template', rfl, hrest⟩ := filled_of_high hword (fun b => le_of_mem_utf8EncodeChar hc) h
        obtain ⟨t, rfl, ht⟩ := ih s.length (Nat.lt_succ_self _) hrest rfl
        exact ⟨c :: t, (bytes_cons c t).symm, .keep ht⟩
      · have hencode := utf8EncodeChar_of_ascii (Nat.not_le.1 hc)
        generalize hs : bytes (c :: s) = rest at h
        cases h with
        | nil => cases bytes_eq_nil hs
        | keep h =>
          rw [bytes_cons, hencode] at hs
          obtain ⟨rfl, rfl⟩ := List.cons.inj hs
          obtain ⟨t, rfl, ht⟩ := ih s.length (Nat.lt_succ_self _) h rfl
          exact ⟨c :: t, by rw [bytes_cons, hencode]; rfl, .keep ht⟩
        | fill hw h =>
          obtain ⟨v, hv, rfl⟩ := hw
          obtain ⟨u, hu, rfl⟩ := eq_append_of_bytes hs
          have hlength : u.length < (c :: s).length := by
            rw [hu, List.length_append]
            exact Nat.lt_add_of_pos_left (List.length_pos_iff.2 (hword v hv).ne_nil)
          obtain ⟨t, rfl, ht⟩ := ih u.length hlength h rfl
          rw [hu]
          exact ⟨'*' :: t, rfl, .fill hv ht⟩

/-- Texts whose bytes are filled in from each other are so themselves. -/
theorem filled_of_bytes {t s : List Char} (h : Filled starByte (IsByteWord IsWord) (bytes t) (bytes s)) :
    Filled '*' IsWord t s := by
  induction t generalizing s with
  | nil =>
    generalize hs : bytes s = rest at h
    cases h with
    | nil =>
      rw [bytes_eq_nil hs]
      exact .nil
  | cons c t ih =>
    rw [bytes_cons] at h
    obtain ⟨first, rest, hs, hfirst, hrest⟩ := h.of_append
    by_cases hc : c = '*'
    · subst hc
      cases hfirst with
      | keep hnil =>
        cases hnil
        obtain ⟨u, rfl, rfl⟩ := eq_append_of_bytes (s := ['*']) hs
        exact .keep (ih hrest)
      | fill hw hnil =>
        cases hnil
        obtain ⟨v, hv, rfl⟩ := hw
        rw [List.append_nil] at hs
        obtain ⟨u, rfl, rfl⟩ := eq_append_of_bytes hs
        exact .fill hv (ih hrest)
    · have hstar : starByte ∉ String.utf8EncodeChar c := fun hin =>
        hc (eq_of_mem_utf8EncodeChar (d := '*') (by decide) hin)
      have hkept := Filled.eq_of_not_mem hstar hfirst
      rw [hkept, ← bytes_singleton] at hs
      obtain ⟨u, rfl, rfl⟩ := eq_append_of_bytes hs
      exact .keep (ih hrest)

end

/-! ### Escapes -/

/-- The byte that two hexadecimal digits at the start of a text write, and the rest of the text. -/
def escaped? : List Char → Option (UInt8 × List Char)
  | first :: second :: s => do
    let high ← hexDigit? first
    let low ← hexDigit? second
    some ((16 * high + low).toUInt8, s)
  | _ => none

private theorem decodeBytes_percent (s : List Char) :
    decodeBytes ('%' :: s) =
      match escaped? s with
      | some (b, rest) => b :: decodeBytes rest
      | none => '%'.toUInt8 :: decodeBytes s := by
  match s with
  | [] => rfl
  | [_] => rfl
  | first :: second :: s =>
    rw [decodeBytes, escaped?]
    cases hexDigit? first <;> cases hexDigit? second <;> rfl

private theorem decodeBytes_of_ne {c : Char} (hc : c ≠ '%') (s : List Char) :
    decodeBytes (c :: s) = String.utf8EncodeChar c ++ decodeBytes s := by
  rw [decodeBytes]
  rintro _ _ _ rfl
  exact absurd rfl hc

private theorem decodeBytes_append {w : List Char} (hw : '%' ∉ w) (s : List Char) :
    decodeBytes (w ++ s) = bytes w ++ decodeBytes s := by
  induction w with
  | nil => rfl
  | cons c w ih =>
    rw [List.mem_cons, not_or] at hw
    rw [List.cons_append, decodeBytes_of_ne (Ne.symm hw.1), ih hw.2, bytes_cons, List.append_assoc]

theorem decode_eq_self {s : List Char} (h : '%' ∉ s) : decode s = some s := by
  have hbytes := decodeBytes_append h []
  rw [List.append_nil] at hbytes
  exact decode_eq_some_iff.2 (hbytes.trans (List.append_nil _)).symm

private theorem escaped?_eq_some_iff {s rest : List Char} {b : UInt8} :
    escaped? s = some (b, rest) ↔ ∃ first second high low, s = first :: second :: rest ∧
      hexDigit? first = some high ∧ hexDigit? second = some low ∧ (16 * high + low).toUInt8 = b := by
  constructor
  · intro h
    match s with
    | first :: second :: s =>
      obtain ⟨high, hhigh, h⟩ := Option.bind_eq_some_iff.1 h
      obtain ⟨low, hlow, h⟩ := Option.bind_eq_some_iff.1 h
      cases h
      exact ⟨first, second, high, low, rfl, hhigh, hlow, rfl⟩
  · rintro ⟨first, second, high, low, rfl, hhigh, hlow, rfl⟩
    rw [escaped?, hhigh, hlow]
    rfl

private theorem length_lt_of_escaped? {s rest : List Char} {b : UInt8} (h : escaped? s = some (b, rest)) :
    rest.length < s.length := by
  obtain ⟨first, second, high, low, rfl, -⟩ := escaped?_eq_some_iff.1 h
  exact Nat.lt_succ_of_lt (Nat.lt_succ_self _)

section
variable {IsWord : List Char → Prop} {template s t rest : List Char} {b : UInt8}

private theorem escaped?_of_filled (h : Filled '*' IsWord template s) (hescaped : escaped? template = some (b, rest)) :
    ∃ rest', escaped? s = some (b, rest') ∧ Filled '*' IsWord rest rest' := by
  have hstar {c : Char} {n : Nat} (hc : hexDigit? c = some n) : c ≠ '*' := by
    rintro rfl
    cases hc
  obtain ⟨first, second, high, low, rfl, hhigh, hlow, hb⟩ := escaped?_eq_some_iff.1 hescaped
  obtain ⟨u, rfl, hu⟩ := h.of_cons (hstar hhigh)
  obtain ⟨rest', rfl, hrest⟩ := hu.of_cons (hstar hlow)
  exact ⟨rest', escaped?_eq_some_iff.2 ⟨first, second, high, low, rfl, hhigh, hlow, hb⟩, hrest⟩

/-- Words that begin with no digit complete no escape. -/
theorem escaped?_template (hword : ∀ w, IsWord w → ∃ c v, w = c :: v ∧ hexDigit? c = none)
    (h : Filled '*' IsWord template s) (hescaped : escaped? s = some (b, rest)) :
    ∃ rest', escaped? template = some (b, rest') := by
  obtain ⟨first, second, high, low, rfl, hhigh, hlow, hb⟩ := escaped?_eq_some_iff.1 hescaped
  have hdigits : ∀ w, IsWord w → ∃ c v, w = c :: v ∧ c ∉ [first, second] := by
    intro w hw
    obtain ⟨c, v, rfl, hc⟩ := hword w hw
    refine ⟨c, v, rfl, fun hin => ?_⟩
    rcases List.mem_cons.1 hin with rfl | hin
    · cases hc.symm.trans hhigh
    · obtain rfl := List.mem_singleton.1 hin
      cases hc.symm.trans hlow
  obtain ⟨rest', rfl, -⟩ := Filled.of_append_right (b := [first, second]) hdigits h
  exact ⟨rest', escaped?_eq_some_iff.2 ⟨first, second, high, low, rfl, hhigh, hlow, hb⟩⟩

/-- The bytes of a text are filled in from those of its template, if each percent sign of the template writes a
byte, or no word can be part of an escape. -/
theorem filled_decodeBytes (hword : ∀ w, IsWord w → Text.IsWord w)
    (hescape : '%'.toUInt8 ∉ decodeBytes template ∨
      ∀ w, IsWord w → ∃ c v, w = c :: v ∧ hexDigit? c = none)
    (h : Filled '*' IsWord template s) :
    Filled starByte (IsByteWord IsWord) (decodeBytes template) (decodeBytes s) := by
  induction hn : template.length using Nat.strong_induction_on generalizing template s with
  | _ n ih =>
    subst hn
    cases h with
    | nil => exact .nil
    | @keep c template s h =>
      by_cases hc : c = '%'
      · subst hc
        rw [decodeBytes_percent] at hescape
        rw [decodeBytes_percent, decodeBytes_percent]
        cases htemplate : escaped? template with
        | some found =>
          obtain ⟨b, rest⟩ := found
          obtain ⟨rest', hs, hrest⟩ := escaped?_of_filled h htemplate
          rw [htemplate] at hescape
          rw [hs]
          refine .keep (ih _ ?_ ?_ hrest rfl)
          · exact Nat.lt_succ_of_lt (length_lt_of_escaped? htemplate)
          · exact hescape.imp_left fun hnot hin => hnot (List.mem_cons_of_mem _ hin)
        | none =>
          rw [htemplate] at hescape
          have hword' := hescape.resolve_left fun hnot => hnot List.mem_cons_self
          have hs : escaped? s = none := by
            cases hs : escaped? s with
            | none => rfl
            | some found =>
              obtain ⟨rest, hrest⟩ := escaped?_template hword' h hs
              cases htemplate.symm.trans hrest
          rw [hs]
          exact .keep (ih _ (Nat.lt_succ_self _) (.inr hword') h rfl)
      · rw [decodeBytes_of_ne hc] at hescape
        rw [decodeBytes_of_ne hc, decodeBytes_of_ne hc]
        refine (Filled.refl _).append (ih _ (Nat.lt_succ_self _) ?_ h rfl)
        exact hescape.imp_left fun hnot hin => hnot (List.mem_append_right _ hin)
    | @fill w template s hw h =>
      have hpercent : '%' ∉ w := fun hin => absurd ((hword w hw).lower '%' hin) (by decide)
      rw [decodeBytes_of_ne (by decide)] at hescape
      rw [decodeBytes_of_ne (by decide), decodeBytes_append hpercent]
      refine .fill ⟨w, hw, rfl⟩ (ih _ (Nat.lt_succ_self _) ?_ h rfl)
      exact hescape.imp_left fun hnot hin => hnot (List.mem_append_right _ hin)

/-! ### Decoded texts -/

/-- What a decoded text is filled in from, if no word can be part of an escape: the decoded template. -/
theorem exists_decode_of_filled (hword : ∀ w, IsWord w → Text.IsWord w)
    (hescape : ∀ w, IsWord w → ∃ c v, w = c :: v ∧ hexDigit? c = none)
    (h : Filled '*' IsWord template s) (hs : decode s = some t) :
    ∃ t', decode template = some t' ∧ Filled '*' IsWord t' t := by
  have hbytes := filled_decodeBytes hword (.inr hescape) h
  rw [← decode_eq_some_iff.1 hs] at hbytes
  obtain ⟨t', ht', hfilled⟩ := exists_filled_of_bytes hword hbytes
  exact ⟨t', decode_eq_some_iff.2 ht'.symm, hfilled⟩

/-- A decoded text is filled in from the decoded template, if that has no percent sign. -/
theorem filled_of_decode (hword : ∀ w, IsWord w → Text.IsWord w) {t' : List Char}
    (ht' : decode template = some t') (hpercent : '%' ∉ t') (h : Filled '*' IsWord template s)
    (hs : decode s = some t) : Filled '*' IsWord t' t := by
  have hescape : '%'.toUInt8 ∉ decodeBytes template := by
    rw [← decode_eq_some_iff.1 ht']
    exact fun hin => hpercent (mem_of_mem_bytes (d := '%') (by decide) hin)
  have hbytes := filled_decodeBytes hword (.inl hescape) h
  rw [← decode_eq_some_iff.1 ht', ← decode_eq_some_iff.1 hs] at hbytes
  exact filled_of_bytes hbytes

end

end PagePolicy.Url
