import PagePolicy.Unicode.Composition

/-! What stands around a sign of ASCII is normalized on its own. No mark is moved across it, and it composes
with nothing before or after it. -/

namespace PagePolicy.Unicode

private theorem combiningClass_of_lt {code : Nat} (h : code < firstMark) : combiningClass code = 0 :=
  if_pos h

private theorem decompose_of_lt {code : Nat} (h : code < firstDecomposed) : decompose code = [code] :=
  if_pos h

theorem decompose_of_find? {code : Nat} {e : Entry} (hfirst : firstDecomposed ≤ code)
    (hhangul : hangulLetters? code = none) (he : decompositionTable.find? code = some e) :
    decompose code = e.values := by
  rw [decompose, if_neg (Nat.not_lt.2 hfirst), hhangul, he]

theorem composePair?_of_lookupPair {first second code : Nat} (hfirst : firstComposing ≤ first)
    (hsecond : firstMark ≤ second) (hhangul : hangulSyllable? first second = none)
    (hcode : lookupPair second (compositionTable.values first) = some code) :
    composePair? first second = some code := by
  rw [composePair?, if_neg (by omega), hhangul, hcode]
  rfl

private theorem composePair?_of_first {first second : Nat} (h : first < firstComposing) :
    composePair? first second = none :=
  if_pos (.inl h)

private theorem composePair?_of_second {first second : Nat} (h : second < firstMark) :
    composePair? first second = none :=
  if_pos (.inr h)

/-! ### The order of marks -/

section
variable {code : Nat}

private theorem insertMark_of_lt (h : code < firstMark) (before : List Nat) :
    insertMark code before = code :: before := by
  cases before with
  | nil => rfl
  | cons last before => rw [insertMark, if_neg (by simp [combiningClass_of_lt h])]

/-- No mark is put before a code point that is not a mark. -/
theorem insertMark_append_cons (h : code < firstMark) (mark : Nat) (after before : List Nat) :
    insertMark mark (after ++ code :: before) = insertMark mark after ++ code :: before := by
  induction after with
  | nil => exact if_neg (by simp [combiningClass_of_lt h])
  | cons last after ih =>
    rw [List.cons_append, insertMark, insertMark, ih]
    split <;> rfl

/-- The code points that have been read, backwards, with their marks in order. -/
def readMarks (before codes : List Nat) : List Nat :=
  codes.foldl (fun before code => insertMark code before) before

private theorem readMarks_append_cons (h : code < firstMark) (codes after before : List Nat) :
    readMarks (after ++ code :: before) codes = readMarks after codes ++ code :: before := by
  induction codes generalizing after with
  | nil => rfl
  | cons mark codes ih =>
    rw [readMarks, List.foldl_cons, insertMark_append_cons h]
    exact ih _

private theorem orderMarks_append_cons (h : code < firstMark) (codes codes' : List Nat) :
    orderMarks (codes ++ code :: codes') = orderMarks codes ++ code :: orderMarks codes' := by
  have hread : readMarks [] (codes ++ code :: codes') =
      readMarks [] codes' ++ code :: readMarks [] codes := by
    rw [readMarks, List.foldl_append, List.foldl_cons, insertMark_of_lt h]
    exact readMarks_append_cons h codes' [] _
  rw [orderMarks, ← readMarks, hread, List.reverse_append, List.reverse_cons, List.append_assoc]
  rfl

end

/-! ### Composition -/

section
variable {code : Nat}

private theorem composeAfter_cons_of_none {starter : Nat} {marks : List Nat} (codes : List Nat)
    (h : composePair? starter code = none) :
    composeAfter starter marks (code :: codes) =
      if combiningClass code = 0 then starter :: marks.reverse ++ composeAfter code [] codes
      else composeAfter starter (code :: marks) codes := by
  rw [composeAfter, h, ite_self]

/-- A code point that composes with nothing before it begins anew. -/
theorem composeAfter_append_cons (h : code < firstMark) (starter : Nat) (marks codes codes' : List Nat) :
    composeAfter starter marks (codes ++ code :: codes') =
      composeAfter starter marks codes ++ composeAfter code [] codes' := by
  induction codes generalizing starter marks with
  | nil =>
    rw [List.nil_append, composeAfter_cons_of_none _ (composePair?_of_second h),
      if_pos (combiningClass_of_lt h), composeAfter]
  | cons next codes ih =>
    rw [List.cons_append, composeAfter, composeAfter]
    split
    · exact ih _ _
    · split
      · rw [ih, List.append_assoc]
      · exact ih _ _

private theorem compose_cons_starter (h : combiningClass code = 0) (codes : List Nat) :
    compose (code :: codes) = composeAfter code [] codes := by
  rw [compose, List.dropWhile_cons_of_neg (by simp [h]), List.takeWhile_cons_of_neg (by simp [h])]
  rfl

private theorem compose_cons_mark (h : combiningClass code ≠ 0) (codes : List Nat) :
    compose (code :: codes) = code :: compose codes := by
  rw [compose, compose, List.dropWhile_cons_of_pos (by simp [h]), List.takeWhile_cons_of_pos (by simp [h])]
  split <;> rfl

/-- What follows a code point that composes with nothing is composed on its own. -/
theorem composeAfter_of_lt (h : code < firstComposing) (marks codes : List Nat) :
    composeAfter code marks codes = code :: marks.reverse ++ compose codes := by
  induction codes generalizing marks with
  | nil => rw [composeAfter, compose, List.dropWhile_nil, List.append_nil]
  | cons next codes ih =>
    rw [composeAfter_cons_of_none _ (composePair?_of_first h)]
    by_cases hnext : combiningClass next = 0
    · rw [if_pos hnext, compose_cons_starter hnext]
    · rw [if_neg hnext, ih, compose_cons_mark hnext, List.reverse_cons, List.cons_append, List.cons_append,
        List.append_assoc]
      rfl

private theorem compose_append_cons (h : code < firstComposing) (codes codes' : List Nat) :
    compose (codes ++ code :: codes') = compose codes ++ code :: compose codes' := by
  have hmark : code < firstMark := Nat.lt_trans h (by decide)
  have hcode : composeAfter code [] codes' = code :: compose codes' := composeAfter_of_lt h [] codes'
  induction codes with
  | nil =>
    rw [List.nil_append, compose_cons_starter (combiningClass_of_lt hmark), hcode]
    rfl
  | cons first codes ih =>
    rw [List.cons_append]
    by_cases hfirst : combiningClass first = 0
    · rw [compose_cons_starter hfirst, compose_cons_starter hfirst, composeAfter_append_cons hmark, hcode]
    · rw [compose_cons_mark hfirst, compose_cons_mark hfirst, ih, List.cons_append]

end

/-! ### Normalization -/

/-- A text decomposed, with its marks in order, and composed again. -/
def recompose (s : List Char) : List Char :=
  (compose (orderMarks (s.flatMap fun c => decompose c.toNat))).map Char.ofNat

private theorem recompose_append_cons {c : Char} (hc : c.toNat < firstComposing) (s t : List Char) :
    recompose (s ++ c :: t) = recompose s ++ c :: recompose t := by
  have hmark : c.toNat < firstMark := Nat.lt_trans hc (by decide)
  have hdecompose : decompose c.toNat = [c.toNat] := decompose_of_lt (Nat.lt_trans hc (by decide))
  rw [recompose, List.flatMap_append, List.flatMap_cons, hdecompose, List.singleton_append,
    orderMarks_append_cons hmark, compose_append_cons hc, List.map_append, List.map_cons, Char.ofNat_toNat]
  rfl

/-- A letter that has its mark is composed already. -/
theorem recompose_of_pair {c : Char} {letter mark : Nat} (hletter : letter < firstMark)
    (hdecompose : decompose c.toNat = [letter, mark]) (hcompose : composePair? letter mark = some c.toNat) :
    recompose [c] = [c] := by
  have horder : orderMarks [letter, mark] = [letter, mark] := by
    have hmark : insertMark mark [letter] = [mark, letter] := by
      rw [insertMark, combiningClass_of_lt hletter, if_neg (by simp)]
    rw [orderMarks, List.foldl_cons, List.foldl_cons, insertMark_of_lt hletter, hmark]
    rfl
  have hcodes : compose [letter, mark] = [c.toNat] := by
    rw [compose_cons_starter (combiningClass_of_lt hletter), composeAfter, hcompose]
    rfl
  rw [recompose, List.flatMap_singleton, hdecompose, horder, hcodes, List.map_singleton, Char.ofNat_toNat]

private theorem compose_of_lt {codes : List Nat} (h : ∀ code ∈ codes, code < firstMark) : compose codes = codes := by
  cases codes with
  | nil => rfl
  | cons code codes =>
    obtain ⟨hcode, hcodes⟩ := List.forall_mem_cons.1 h
    rw [compose_cons_starter (combiningClass_of_lt hcode)]
    clear hcode h
    induction codes generalizing code with
    | nil => rfl
    | cons next codes ih =>
      obtain ⟨hnext, hcodes⟩ := List.forall_mem_cons.1 hcodes
      rw [composeAfter_cons_of_none _ (composePair?_of_second hnext), if_pos (combiningClass_of_lt hnext),
        ih next hcodes]
      rfl

private theorem orderMarks_of_lt {codes : List Nat} (h : ∀ code ∈ codes, code < firstMark) :
    orderMarks codes = codes := by
  induction codes with
  | nil => rfl
  | cons code codes ih =>
    obtain ⟨hcode, hcodes⟩ := List.forall_mem_cons.1 h
    rw [← List.nil_append (code :: codes), orderMarks_append_cons hcode, ih hcodes]
    rfl

private theorem recompose_of_ascii {s : List Char} (h : ∀ c ∈ s, c.toNat < 0x80) : recompose s = s := by
  have hdecompose : (s.flatMap fun c => decompose c.toNat) = s.map Char.toNat := by
    induction s with
    | nil => rfl
    | cons c s ih =>
      obtain ⟨hc, hs⟩ := List.forall_mem_cons.1 h
      rw [List.flatMap_cons, decompose_of_lt (Nat.lt_trans hc (by decide)), ih hs]
      rfl
  have hlt : ∀ code ∈ s.map Char.toNat, code < firstMark := by
    intro code hcode
    obtain ⟨c, hc, rfl⟩ := List.mem_map.1 hcode
    exact Nat.lt_trans (h c hc) (by decide)
  have hback : (s.map Char.toNat).map Char.ofNat = s := by
    rw [List.map_map]
    exact (List.map_congr_left fun c _ => Char.ofNat_toNat c).trans (List.map_id s)
  rw [recompose, hdecompose, orderMarks_of_lt hlt, compose_of_lt hlt, hback]

theorem normalize_of_ascii {s : List Char} (h : ∀ c ∈ s, c.toNat < 0x80) : normalize s = s :=
  if_pos (List.all_eq_true.2 fun c hc => decide_eq_true (h c hc))

/-- A text in ASCII needs no rule of its own. -/
theorem normalize_eq_recompose (s : List Char) : normalize s = recompose s := by
  rw [normalize]
  split
  next hall => exact (recompose_of_ascii fun c hc => of_decide_eq_true (List.all_eq_true.1 hall c hc)).symm
  next => rfl

/-- The texts around a sign below the letters of ASCII are normalized one by one. -/
theorem normalize_append_cons {c : Char} (hc : c.toNat < firstComposing) (s t : List Char) :
    normalize (s ++ c :: t) = normalize s ++ c :: normalize t := by
  rw [normalize_eq_recompose, normalize_eq_recompose, normalize_eq_recompose, recompose_append_cons hc]

end PagePolicy.Unicode
