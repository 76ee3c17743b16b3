import PagePolicy.Proofs.Host.Characters
import PagePolicy.Proofs.Text.Filled
import PagePolicy.Proofs.Text.Search
import PagePolicy.Proofs.Unicode.Composition

/-! Domain names are brought into ASCII label by label, so that a label in ASCII comes out as it is, whatever
the other labels are. Punycode mixes the characters of a label only. -/

namespace PagePolicy.Host

open Text (Filled)

/-- A text with those characters that a domain name has for its characters. -/
def replaced (s : List Char) : Option (List Char) :=
  (s.mapM replaceChar).map List.flatten

/-- The form in ASCII of a text whose characters are replaced, the directions of its labels apart. -/
def asciiOf (s : List Char) : Option (List Char) :=
  ((List.splitOn '.' (Unicode.normalize s)).mapM Label.ofText?).map fun labels =>
    ['.'].intercalate (labels.map Label.ascii)

theorem of_domainToAscii {s domain : List Char} (h : domainToAscii s = some domain) :
    ∃ t, replaced s = some t ∧ asciiOf t = some domain := by
  obtain ⟨ls, hls, h⟩ := Option.bind_eq_some_iff.1 h
  obtain ⟨parts, hparts, hls⟩ := Option.bind_eq_some_iff.1 hls
  rw [Option.ite_none_left_eq_some] at h
  refine ⟨parts.flatten, by rw [replaced, hparts, Option.map_some], ?_⟩
  rw [asciiOf, hls]
  exact h.2

/-! ### Replaced characters -/

section
variable {IsWord : List Char → Prop} {template s t : List Char}

theorem replaced_cons (c : Char) (s : List Char) :
    replaced (c :: s) = (replaceChar c).bind fun part => (replaced s).map (part ++ ·) := by
  rw [replaced, List.mapM_cons, replaced]
  cases replaceChar c with
  | none => rfl
  | some part => cases s.mapM replaceChar <;> rfl

theorem mem_of_replaced {c : Char} (h : replaced s = some t) (hc : c ∈ s) (hkept : replaceChar c = some [c]) :
    c ∈ t := by
  obtain ⟨parts, hparts, rfl⟩ := Option.map_eq_some_iff.1 h
  obtain ⟨part, hin, hpart⟩ := exists_of_mapM hparts hc
  cases hkept.symm.trans hpart
  exact List.mem_flatten_of_mem hin (List.mem_singleton_self c)

private theorem replaceChar_of_isLower {c : Char} (h : c.isLower = true) : replaceChar c = some [c] := by
  have hrange := Text.toNat_of_isLower h
  have hlower : c.toLower = c := dif_neg fun hupper => by
    have hle : c.toNat ≤ 90 := hupper.2
    omega
  rw [replaceChar, if_pos (by omega), hlower]

private theorem replaced_append_word {w : List Char} (hw : ∀ c ∈ w, c.isLower = true) (s : List Char) :
    replaced (w ++ s) = (replaced s).map (w ++ ·) := by
  induction w with
  | nil => simp
  | cons c w ih =>
    obtain ⟨hc, hw⟩ := List.forall_mem_cons.1 hw
    rw [List.cons_append, replaced_cons, replaceChar_of_isLower hc, ih hw, Option.bind_some, Option.map_map]
    rfl

theorem exists_replaced_of_filled (hword : ∀ w, IsWord w → Text.IsWord w)
    (h : Filled '*' IsWord template s) (hs : replaced s = some t) :
    ∃ t', replaced template = some t' ∧ Filled '*' IsWord t' t := by
  induction h generalizing t with
  | nil => exact ⟨t, hs, .refl t⟩
  | @keep c template s _ ih =>
    rw [replaced_cons] at hs ⊢
    obtain ⟨part, hpart, hs⟩ := Option.bind_eq_some_iff.1 hs
    obtain ⟨rest, hrest, rfl⟩ := Option.map_eq_some_iff.1 hs
    obtain ⟨rest', hrest', hfilled⟩ := ih hrest
    exact ⟨part ++ rest', by rw [hpart, hrest']; rfl, (Filled.refl part).append hfilled⟩
  | @fill w template s hw _ ih =>
    rw [replaced_append_word (hword w hw).lower] at hs
    obtain ⟨rest, hrest, rfl⟩ := Option.map_eq_some_iff.1 hs
    obtain ⟨rest', hrest', hfilled⟩ := ih hrest
    have hstar : replaceChar '*' = some ['*'] := by decide
    exact ⟨'*' :: rest', by rw [replaced_cons, hstar, hrest']; rfl, .fill hw hfilled⟩

end

/-! ### Labels -/

/-- The form in ASCII of a text with a dot is that of the texts around the dot. -/
theorem of_asciiOf_append {s t domain : List Char} (h : asciiOf (s ++ '.' :: t) = some domain) :
    ∃ ds dt, asciiOf s = some ds ∧ asciiOf t = some dt ∧ domain = ds ++ '.' :: dt := by
  obtain ⟨ls, hls, rfl⟩ := Option.map_eq_some_iff.1 h
  rw [Unicode.normalize_append_cons (by decide), List.splitOn_append_cons_self, List.mapM_append] at hls
  obtain ⟨first, hfirst, hls⟩ := Option.bind_eq_some_iff.1 hls
  obtain ⟨later, hlater, hls⟩ := Option.bind_eq_some_iff.1 hls
  cases hls
  have hne {s : List Char} {ls : List Label}
      (h : (List.splitOn '.' (Unicode.normalize s)).mapM Label.ofText? = some ls) :
      ls.map Label.ascii ≠ [] := by
    obtain ⟨part, parts, hparts⟩ := List.exists_cons_of_ne_nil (List.splitOn_ne_nil '.' (Unicode.normalize s))
    obtain ⟨l, hl, -⟩ := exists_of_mapM h (hparts ▸ List.mem_cons_self)
    exact List.ne_nil_of_mem (List.mem_map_of_mem hl)
  refine ⟨_, _, by rw [asciiOf, hfirst]; rfl, by rw [asciiOf, hlater]; rfl, ?_⟩
  rw [List.map_append, Text.intercalate_append (hne hfirst) (hne hlater)]

private theorem labels_eq (s : List Char) :
    labels s = (replaced s).bind fun t => (List.splitOn '.' (Unicode.normalize t)).mapM Label.ofText? := by
  rw [labels, replaced]
  cases s.mapM replaceChar <;> rfl

/-- A label before a dot is read on its own. -/
theorem labels_append {s t rest : List Char} (hs : replaced s = some t) (hdot : '.' ∉ Unicode.normalize t) :
    labels (s ++ '.' :: rest) =
      (Label.ofText? (Unicode.normalize t)).bind fun l => (labels rest).map (l :: ·) := by
  obtain ⟨parts, hparts, rfl⟩ := Option.map_eq_some_iff.1 hs
  have hreplaced : replaced (s ++ '.' :: rest) = (replaced rest).map fun u => parts.flatten ++ '.' :: u := by
    have hmark : replaceChar '.' = some ['.'] := by decide
    rw [replaced, List.mapM_append, hparts, List.mapM_cons, hmark, replaced]
    cases rest.mapM replaceChar <;> simp
  rw [labels_eq, labels_eq, hreplaced]
  cases replaced rest with
  | none => cases Label.ofText? (Unicode.normalize parts.flatten) <;> rfl
  | some u =>
    rw [Option.map_some, Option.bind_some, Option.bind_some, Unicode.normalize_append_cons (by decide),
      List.splitOn_append_cons_self, List.splitOn_eq_singleton hdot, List.singleton_append, List.mapM_cons]
    cases Label.ofText? (Unicode.normalize parts.flatten) with
    | none => rfl
    | some l => cases (List.splitOn '.' (Unicode.normalize u)).mapM Label.ofText? <;> rfl

theorem domainToAscii_of_labels {s : List Char} {ls : List Label} (h : labels s = some ls)
    (hleft : ∀ l ∈ ls, runsLeftward l.text = false) :
    domainToAscii s = some (['.'].intercalate (ls.map Label.ascii)) := by
  have hnone : ls.any (runsLeftward ·.text) = false := List.any_eq_false.2 fun l hl => by simp [hleft l hl]
  rw [domainToAscii, h]
  exact if_neg (by simp [hnone])

/-- A character that domain names keep is a label on its own, unless it is a mark or a joiner. -/
theorem ofText?_singleton {c : Char} (hforeign : 0x80 ≤ c.toNat) (hkept : Unicode.keptInHost.contains c = true)
    (hmark : Unicode.marks.contains c = false) (hjoiner : c ≠ joiner ∧ c ≠ nonJoiner) :
    Label.ofText? [c] = some ⟨[c], ['x', 'n', '-', '-'] ++ Punycode.encode [c]⟩ := by
  have hchar : isLabelChar c = true := by rw [isLabelChar, if_neg (Nat.not_lt.2 hforeign), hkept]
  have hfit : fitLabel [c] = true := by
    have hchars : [c].all isLabelChar = true := by rw [List.all_cons, hchar, List.all_nil, Bool.and_true]
    have hstart : [c].head?.any Unicode.marks.contains = false := by
      rw [List.head?_cons, Option.any_some, hmark]
    have hjoiners : joinersApt [] [c] = true := by
      rw [joinersApt, if_neg (not_or.2 hjoiner), joinersApt, Bool.and_true]
    rw [fitLabel, hchars, hstart, hjoiners]
    rfl
  have hnot : ¬ [c].all (·.toNat < 0x80) = true := by simpa using hforeign
  rw [Label.ofText?.eq_def]
  split
  next heq => cases heq
  next => rw [if_neg hnot, if_pos hfit]

theorem runsLeftward_singleton {c : Char} (hright : Unicode.rightToLeftTable.contains c = false)
    (hletter : Unicode.arabicLetterTable.contains c = false)
    (hnumber : Unicode.arabicNumberTable.contains c = false) : runsLeftward [c] = false := by
  have hdirection : [Direction.right, .arabicLetter, .arabicNumber].contains (direction c) = false := by
    rw [direction, hright, hletter, hnumber, if_neg Bool.false_ne_true, if_neg Bool.false_ne_true,
      if_neg Bool.false_ne_true]
    repeat' split
    all_goals decide
  rw [runsLeftward, List.any_cons, hdirection, Bool.and_false]
  rfl

/-- A text in ASCII that is a label is the form of the label in ASCII. -/
theorem ascii_of_ofText? {s : List Char} {l : Label} (hs : ∀ c ∈ s, c.toNat < 0x80)
    (h : Label.ofText? s = some l) : l.ascii = s := by
  have hall : s.all (·.toNat < 0x80) = true := List.all_eq_true.2 fun c hc => decide_eq_true (hs c hc)
  rw [Label.ofText?.eq_def] at h
  split at h
  next =>
    rw [if_pos hall] at h
    obtain ⟨label, -, rfl⟩ := Option.map_eq_some_iff.1 h
    rfl
  next =>
    rw [if_pos hall] at h
    split at h
    · cases h
      rfl
    · cases h

private theorem map_ascii_of_mapM {parts : List (List Char)} {ls : List Label}
    (hparts : ∀ part ∈ parts, ∀ c ∈ part, c.toNat < 0x80) (h : parts.mapM Label.ofText? = some ls) :
    ls.map Label.ascii = parts := by
  induction parts generalizing ls with
  | nil =>
    cases h
    rfl
  | cons part parts ih =>
    obtain ⟨hpart, hparts⟩ := List.forall_mem_cons.1 hparts
    rw [List.mapM_cons] at h
    obtain ⟨l, hl, h⟩ := Option.bind_eq_some_iff.1 h
    obtain ⟨later, hlater, h⟩ := Option.bind_eq_some_iff.1 h
    cases h
    rw [List.map_cons, ascii_of_ofText? hpart hl, ih hparts hlater]

private theorem asciiOf_of_ascii {s domain : List Char} (hs : ∀ c ∈ s, c.toNat < 0x80)
    (h : asciiOf s = some domain) : domain = s := by
  obtain ⟨ls, hls, rfl⟩ := Option.map_eq_some_iff.1 h
  rw [Unicode.normalize_of_ascii hs] at hls
  have hparts : ∀ part ∈ List.splitOn '.' s, ∀ c ∈ part, c.toNat < 0x80 := fun part hpart c hc =>
    hs c (Text.mem_of_mem_splitOn hpart hc)
  rw [map_ascii_of_mapM hparts hls, List.intercalate_splitOn]

private theorem isDomainChar_of_mem_label {s : List Char} {l : Label} (h : Label.ofText? s = some l) {c : Char}
    (hc : c ∈ s) (hascii : c.toNat < 0x80) : IsDomainChar c := by
  by_cases hs : ∀ c ∈ s, c.toNat < 0x80
  · exact isDomainChar_of_mem_ascii h (ascii_of_ofText? hs h ▸ hc)
  · have hall : ¬ s.all (·.toNat < 0x80) = true := by simpa using hs
    rw [Label.ofText?.eq_def] at h
    split at h
    next =>
      rw [if_neg hall] at h
      cases h
    next =>
      rw [if_neg hall] at h
      split at h
      next hfit => exact isDomainChar_of_isLabelChar (isLabelChar_of_fitLabel hfit hc) hascii
      next => cases h

/-- A percent sign stands in no domain name. -/
theorem percent_not_mem {s domain : List Char} (h : asciiOf s = some domain) : '%' ∉ s := by
  intro hin
  obtain ⟨before, after, rfl⟩ := List.append_of_mem hin
  obtain ⟨ls, hls, -⟩ := Option.map_eq_some_iff.1 h
  rw [Unicode.normalize_append_cons (by decide)] at hls
  have hmem : '%' ∈ ['.'].intercalate
      (List.splitOn '.' (Unicode.normalize before ++ '%' :: Unicode.normalize after)) := by
    rw [List.intercalate_splitOn]
    simp
  rcases Text.mem_intercalate hmem with hdot | ⟨part, hpart, hin⟩
  · exact absurd hdot (by decide)
  · obtain ⟨l, -, hl⟩ := exists_of_mapM hls hpart
    exact absurd (isDomainChar_of_mem_label hl hin (by decide)) (by decide)

/-! ### Templates -/

section
variable {IsWord IsWord' : List Char → Prop} {template s t ds dt : List Char}

private theorem ascii_of_filled (hword : ∀ w, IsWord w → Text.IsWord w) (htemplate : ∀ c ∈ template, c.toNat < 0x80)
    (h : Filled '*' IsWord template s) : ∀ c ∈ s, c.toNat < 0x80 := by
  intro c hc
  rcases h.mem hc with hc | ⟨w, hw, hc⟩
  · exact htemplate c hc
  · have hrange := Text.toNat_of_isLower ((hword w hw).lower c hc)
    omega

section
variable (hword : ∀ w, IsWord w → Text.IsWord w) (hword' : ∀ w, IsWord' w → Text.IsWord w)
include hword hword'

private theorem exists_filled_label (hascii : '*' ∈ template → ∀ c ∈ template, c.toNat < 0x80)
    (hs : Filled '*' IsWord template s) (ht : Filled '*' IsWord' template t)
    (hds : asciiOf s = some ds) (hdt : asciiOf t = some dt) :
    ∃ d, Filled '*' IsWord d ds ∧ Filled '*' IsWord' d dt := by
  by_cases hstar : '*' ∈ template
  · have hkept := hascii hstar
    rw [asciiOf_of_ascii (ascii_of_filled hword hkept hs) hds,
      asciiOf_of_ascii (ascii_of_filled hword' hkept ht) hdt]
    exact ⟨template, hs, ht⟩
  · rw [hs.eq_of_not_mem hstar] at hds
    rw [ht.eq_of_not_mem hstar, hds] at hdt
    cases hdt
    exact ⟨ds, .refl ds, .refl ds⟩

/-- Where the labels with stars are in ASCII, the forms of two texts that are filled in from one template are
filled in from one template. -/
theorem exists_filled_asciiOf
    (hascii : ∀ label ∈ List.splitOn '.' template, '*' ∈ label → ∀ c ∈ label, c.toNat < 0x80)
    (hs : Filled '*' IsWord template s) (ht : Filled '*' IsWord' template t)
    (hds : asciiOf s = some ds) (hdt : asciiOf t = some dt) :
    ∃ d, Filled '*' IsWord d ds ∧ Filled '*' IsWord' d dt := by
  induction template using Text.pieces_induction '.' generalizing s t ds dt with
  | last label hdot =>
    rw [List.splitOn_eq_singleton hdot, List.forall_mem_singleton] at hascii
    exact exists_filled_label hword hword' hascii hs ht hds hdt
  | next label template hdot ih =>
    rw [List.splitOn_append_cons_self, List.splitOn_eq_singleton hdot, List.singleton_append,
      List.forall_mem_cons] at hascii
    obtain ⟨s₁, u, rfl, hs₁, hu⟩ := hs.of_append
    obtain ⟨s₂, rfl, hs₂⟩ := hu.of_cons (by decide)
    obtain ⟨t₁, u, rfl, ht₁, hu⟩ := ht.of_append
    obtain ⟨t₂, rfl, ht₂⟩ := hu.of_cons (by decide)
    obtain ⟨ds₁, ds₂, hds₁, hds₂, rfl⟩ := of_asciiOf_append hds
    obtain ⟨dt₁, dt₂, hdt₁, hdt₂, rfl⟩ := of_asciiOf_append hdt
    obtain ⟨d₁, hd₁, hd₁'⟩ := exists_filled_label hword hword' hascii.1 hs₁ ht₁ hds₁ hdt₁
    obtain ⟨d₂, hd₂, hd₂'⟩ := ih hascii.2 hs₂ ht₂ hds₂ hdt₂
    exact ⟨d₁ ++ '.' :: d₂, hd₁.append (.keep hd₂), hd₁'.append (.keep hd₂')⟩

end

end

end PagePolicy.Host
