import PagePolicy.Proofs.Regex.Parsed

/-! A closing parenthesis after the parts of a regular expression. Their readers leave it over, unless they have
read all that is before it: then it can end up in a comment, or in a text that has no end. -/

namespace PagePolicy.Regex

open Text (Reader)
open Text.Reader

variable {α : Type} {mode : Mode}

/-! ### Blanks and comments -/

private theorem dropComments_concat (inComment : Bool) (s : List Char) :
    dropComments inComment (s ++ [')']) = dropComments inComment s ++ [')'] ∨
      dropComments inComment s = [] ∧ dropComments inComment (s ++ [')']) = [] := by
  induction s generalizing inComment with
  | nil =>
    cases inComment with
    | false => exact .inl rfl
    | true => exact .inr ⟨rfl, rfl⟩
  | cons c s ih =>
    rw [List.cons_append, dropComments, dropComments]
    split
    · exact ih _
    · split
      · exact ih _
      · split
        · exact ih _
        · exact .inl rfl

/-- A parenthesis at the end of a text is left over with the text, unless it is in a comment. -/
theorem dropSpace_concat (mode : Mode) (s : List Char) :
    dropSpace mode (s ++ [')']) = dropSpace mode s ++ [')'] ∨
      dropSpace mode s = [] ∧ dropSpace mode (s ++ [')']) = [] := by
  rw [dropSpace, dropSpace]
  split
  · exact dropComments_concat false s
  · exact .inl rfl

theorem results_skipSpace (mode : Mode) (s : List Char) :
    (skipSpace mode).results s = some ((), dropSpace mode s) :=
  rfl

theorem steady_skipSpace (mode : Mode) : (skipSpace mode).Steady ')' := by
  intro s
  rw [results_skipSpace, results_skipSpace]
  rcases dropSpace_concat mode s with hleft | ⟨hnil, hpassed⟩
  · rw [hleft]
    exact .left () _
  · rw [hnil, hpassed]
    exact .passed ()

private theorem steady_nextSpaced (mode : Mode) : (nextSpaced mode).Steady ')' :=
  Steady.next.bind fun c => (steady_skipSpace mode).bind fun _ => (Apart.pure c).steady

@[simp]
theorem results_runSpaced_nil (mode : Mode) (p : Char → Bool) :
    Reader.results (runSpaced mode p) [] = some ([], []) := by
  show (runSpaced mode p []).map Text.Reading.result = _
  rw [runSpaced]
  rfl

theorem results_runSpaced_cons (mode : Mode) (p : Char → Bool) (c : Char) (s : List Char) :
    Reader.results (runSpaced mode p) (c :: s) =
      if p c then (Reader.results (runSpaced mode p) (dropSpace mode s)).map fun (a, rest) => (c :: a, rest)
      else some ([], c :: s) := by
  show (runSpaced mode p (c :: s)).map Text.Reading.result =
    if p c then ((runSpaced mode p (dropSpace mode s)).map Text.Reading.result).map _ else _
  rw [runSpaced]
  split
  · cases runSpaced mode p (dropSpace mode s) <;> rfl
  · rfl

/-- A run of characters either ends before the parenthesis or has all of the text read. -/
theorem runSpaced_concat (mode : Mode) (p : Char → Bool) (s : List Char) :
    ∃ a rest, Reader.results (runSpaced mode p) s = some (a, rest) ∧
      (Reader.results (runSpaced mode p) (s ++ [')']) = some (a, rest ++ [')']) ∨
        rest = [] ∧ ∃ b, Reader.results (runSpaced mode p) (s ++ [')']) = some (b, []) ∧
          (p ')' = false → b = a)) := by
  induction s using runSpaced.induct mode p with
  | case1 =>
    refine ⟨[], [], results_runSpaced_nil mode p, ?_⟩
    rw [List.nil_append, results_runSpaced_cons]
    cases hp : p ')' with
    | false => exact .inl rfl
    | true =>
      refine .inr ⟨rfl, [')'], ?_, nofun⟩
      rw [dropSpace_nil, results_runSpaced_nil]
      rfl
  | case2 c s hc hle hlt ih =>
    rw [List.cons_append, results_runSpaced_cons, results_runSpaced_cons, if_pos hc, if_pos hc]
    rcases dropSpace_concat mode s with hleft | ⟨hnil, hpassed⟩
    · obtain ⟨a, rest, hs, hconcat | ⟨hrest, b, hconcat, hb⟩⟩ := ih
      · exact ⟨c :: a, rest, by rw [hs]; rfl, .inl (by rw [hleft, hconcat]; rfl)⟩
      · refine ⟨c :: a, rest, by rw [hs]; rfl, .inr ⟨hrest, c :: b, by rw [hleft, hconcat]; rfl, ?_⟩⟩
        intro hp
        rw [hb hp]
    · rw [hnil, hpassed, results_runSpaced_nil]
      exact ⟨[c], [], rfl, .inr ⟨rfl, [c], rfl, fun _ => rfl⟩⟩
  | case3 c s hc =>
    rw [List.cons_append, results_runSpaced_cons, results_runSpaced_cons, if_neg hc, if_neg hc]
    exact ⟨[], c :: s, rfl, .inl rfl⟩

theorem steady_runSpaced {p : Char → Bool} (hp : p ')' = false) : Reader.Steady ')' (runSpaced mode p) := by
  intro s
  obtain ⟨a, rest, hs, hconcat | ⟨rfl, b, hconcat, hb⟩⟩ := runSpaced_concat mode p s
  · rw [hs, hconcat]
    exact .left a rest
  · rw [hs, hconcat, hb hp]
    exact .passed a

/-- Another character has to follow the run, so it does not matter whether the run takes the parenthesis. -/
theorem steady_runSpaced_expect (p : Char → Bool) (d : Char) {f : List Char → Reader α}
    (hf : ∀ a, (f a).Steady ')') :
    Reader.Steady ')' (Bind.bind (m := Reader) (runSpaced mode p) fun a => expect d >>= fun _ => f a) := by
  refine Steady.bind_expect (fun s => ?_) hf
  obtain ⟨a, rest, hs, hconcat | ⟨hrest, b, hconcat, -⟩⟩ := runSpaced_concat mode p s
  · exact ⟨a, rest, hs, .inl hconcat⟩
  · exact ⟨a, rest, hs, .inr ⟨hrest, b, hconcat⟩⟩

/-! ### Escapes -/

private theorem steady_hexDigits (n : Nat) : (hexDigits mode n).Steady ')' := by
  induction n with
  | zero => exact (Apart.pure []).steady
  | succ n ih =>
    refine (steady_nextSpaced mode).bind fun c => ?_
    exact (Apart.require _).steady.bind fun _ => ih.bind fun digits => (Apart.pure _).steady

private theorem steady_codePoint (count : Nat) : (codePoint mode count).Steady ')' := by
  refine (steady_skipSpace mode).bind fun _ => ?_
  refine (Apart.accept (by decide)).steady.bind fun inBraces => ?_
  cases inBraces with
  | true =>
    refine (steady_skipSpace mode).bind fun _ => steady_runSpaced_expect _ _ fun digits => ?_
    refine (steady_skipSpace mode).bind fun _ => ?_
    exact (Apart.ofOption _).steady.bind fun c => (Apart.pure _).steady
  | false =>
    refine (steady_hexDigits count).bind fun digits => ?_
    exact (Apart.ofOption _).steady.bind fun c => (Apart.pure _).steady

private theorem steady_propertyName : (propertyName mode).Steady ')' := by
  refine (steady_skipSpace mode).bind fun _ => ?_
  refine (Apart.accept (by decide)).steady.bind fun inBraces => ?_
  cases inBraces with
  | true =>
    refine (steady_skipSpace mode).bind fun _ => steady_runSpaced_expect _ _ fun name => ?_
    exact (Apart.ofOption _).steady
  | false => exact (steady_nextSpaced mode).bind fun c => (Apart.ofOption _).steady

private theorem steady_property (negated : Bool) : (property mode negated).Steady ')' := by
  refine steady_propertyName.bind fun (opposite, k) => ?_
  exact (Apart.require _).steady.bind fun _ => (Apart.pure _).steady

private theorem steady_letterClass (negated : Bool) (k : CharClass) : (letterClass mode negated k).Steady ')' :=
  (Apart.require _).steady.bind fun _ => (Apart.pure _).steady

/-- A brace after which there is nothing but the parenthesis: it opens neither the name of an edge of a word nor
the bounds of a loop. -/
def OpensNothing (mode : Mode) (rest : List Char) : Prop :=
  ∃ t, rest = '{' :: t ∧ dropSpace mode t = [')']

theorem dropSpace_brace (mode : Mode) (t : List Char) : dropSpace mode ('{' :: t) = '{' :: t := by
  rw [dropSpace]
  split
  · rfl
  · rfl

private theorem startsEdgeName_of_ne {c : Char} (h : c ≠ '{') (t : List Char) :
    startsEdgeName mode (c :: t) = false := by
  unfold startsEdgeName
  split
  next heq => exact absurd (List.cons.inj heq).1 h
  next => rfl

/-- A brace at the end of a text is taken for that of the name of an edge, unless the parenthesis follows. -/
theorem startsEdgeName_concat (mode : Mode) (s : List Char) :
    startsEdgeName mode (s ++ [')']) = startsEdgeName mode s ∨
      startsEdgeName mode (s ++ [')']) = false ∧
        ∃ t, s = '{' :: t ∧ dropSpace mode t = [] ∧ dropSpace mode (t ++ [')']) = [')'] := by
  cases s with
  | nil => exact .inl rfl
  | cons c t =>
    by_cases hc : c = '{'
    · subst hc
      show (dropSpace mode (t ++ [')'])).head?.all isEdgeLetter = (dropSpace mode t).head?.all isEdgeLetter ∨
        (dropSpace mode (t ++ [')'])).head?.all isEdgeLetter = false ∧ _
      rcases dropSpace_concat mode t with hleft | ⟨hnil, hpassed⟩
      · rw [hleft]
        cases hdrop : dropSpace mode t with
        | nil => exact .inr ⟨rfl, t, rfl, hdrop, by rw [hleft, hdrop, List.nil_append]⟩
        | cons d rest => exact .inl rfl
      · rw [hnil, hpassed]
        exact .inl rfl
    · rw [List.cons_append, startsEdgeName_of_ne hc, startsEdgeName_of_ne hc]
      exact .inl rfl

/-- An edge of a word with its name in braces. -/
def edgeName (mode : Mode) : Reader WordEdge := do
  expect '{'
  skipSpace mode
  let name ← runSpaced mode isEdgeLetter
  expect '}'
  ofOption (edgeNamed? name)

private theorem results_wordEdge (mode : Mode) (s : List Char) :
    (wordEdge mode).results s =
      if startsEdgeName mode s then (edgeName mode).results s else some (.boundary, s) := by
  rw [wordEdge, results_bind, results_remaining]
  show Reader.results (if startsEdgeName mode s then edgeName mode else Pure.pure .boundary) s = _
  split <;> rfl

private theorem steady_edgeName : (edgeName mode).Steady ')' := by
  refine (Steady.expect _).bind fun _ => (steady_skipSpace mode).bind fun _ => ?_
  exact steady_runSpaced_expect _ _ fun name => (Apart.ofOption _).steady

private theorem results_edgeName_of_nil {t : List Char} (h : dropSpace mode t = []) :
    (edgeName mode).results ('{' :: t) = none := by
  rw [edgeName, results_bind, results_expect_cons, if_pos rfl, Option.bind_some]
  show (skipSpace mode >>= fun _ => _).results t = none
  rw [results_bind, results_skipSpace, h]
  exact results_bind_expect_nil _ _ _

/-- Where an edge of a word has no name for want of the parenthesis, a brace follows that opens nothing. -/
theorem steadyBut_wordEdge : (wordEdge mode).SteadyBut ')' fun _ => OpensNothing mode := by
  intro s
  rw [results_wordEdge, results_wordEdge]
  rcases startsEdgeName_concat mode s with hsame | ⟨hnot, t, rfl, hnil, hdrop⟩
  · rw [hsame]
    split
    · exact steady_edgeName.steadyBut _ s
    · exact .left _ s
  · have hname : startsEdgeName mode ('{' :: t) = true := by
      rw [startsEdgeName, hnil]
      rfl
    rw [hname, hnot, if_pos rfl, results_edgeName_of_nil hnil]
    exact .strayed ⟨t ++ [')'], rfl, hdrop⟩

/-- What an escape stands for that can have a brace after it that opens nothing. -/
def EdgeBefore (mode : Mode) (a : Primitive) (rest : List Char) : Prop :=
  (∃ condition, a = .assertion condition) ∧ OpensNothing mode rest

theorem steadyBut_escape : (escape mode).SteadyBut ')' (EdgeBefore mode) := by
  refine Steady.next.bind fun c => ?_
  split
  case h_20 =>
    -- Only an edge of a word depends on what stands after it.
    refine steadyBut_wordEdge.bind (fun edge => (Apart.pure _).steadyBut _) fun edge rest hrest => ?_
    exact .strayed ⟨⟨mode.word edge, rfl⟩, hrest⟩
  case h_24 => exact (Apart.require _).steady.bind fun _ => (Apart.pure _).steadyBut _
  all_goals first
    | exact (Apart.pure _).steadyBut _
    | exact (steady_letterClass _ _).steadyBut _
    | exact (steady_property _).steadyBut _
    | exact (steady_codePoint _).steadyBut _

/-! ### Brackets -/

private theorem steadyBut_bracketItem (c : Char) : (bracketItem mode c).SteadyBut ')' (EdgeBefore mode) := by
  rw [bracketItem]
  split
  · exact steadyBut_escape
  · exact (Apart.pure _).steadyBut _

private theorem head?_concat {c d : Char} (h : c ≠ d) (s : List Char) :
    (s ++ [c]).head? = some d ↔ s.head? = some d := by
  cases s with
  | nil => simp [h]
  | cons e s => rfl

/-- The text after blanks and the sign of a comment, which is all that is passed over to look for a character. -/
def pastBlanks (s : List Char) : List Char :=
  match s.dropWhile Text.isBlank with
  | '#' :: rest => rest.dropWhile Text.isBlank
  | rest => rest

private theorem pastBlanks_hash {s rest : List Char} (h : s.dropWhile Text.isBlank = '#' :: rest) :
    pastBlanks s = rest.dropWhile Text.isBlank := by
  rw [pastBlanks, h]
  rfl

private theorem pastBlanks_of_ne {s : List Char} (h : (s.dropWhile Text.isBlank).head? ≠ some '#') :
    pastBlanks s = s.dropWhile Text.isBlank := by
  rw [pastBlanks]
  split
  next rest hrest =>
    rw [hrest] at h
    exact absurd rfl h
  next => rfl

private theorem peekPastSpace_eq (mode : Mode) (s : List Char) :
    peekPastSpace mode s = if mode.spaced then (pastBlanks s).head? <|> s.head? else s.head? := by
  rw [peekPastSpace]
  split
  · split
    next rest hrest => rw [pastBlanks_hash hrest]
    next hrest =>
      rw [pastBlanks_of_ne]
      intro hhash
      obtain ⟨rest, hcons⟩ := List.head?_eq_some_iff.1 hhash
      exact hrest rest hcons
  · rfl

private theorem pastBlanks_concat (s : List Char) : pastBlanks (s ++ [')']) = pastBlanks s ++ [')'] := by
  have hdrop (t : List Char) := Text.dropWhile_concat (p := Text.isBlank) (c := ')') rfl t
  cases hs : s.dropWhile Text.isBlank with
  | nil =>
    rw [pastBlanks_of_ne (by rw [hdrop, hs]; decide), pastBlanks_of_ne (by rw [hs]; decide), hdrop]
  | cons c rest =>
    by_cases hc : c = '#'
    · subst hc
      have hconcat : (s ++ [')']).dropWhile Text.isBlank = '#' :: (rest ++ [')']) := by
        rw [hdrop, hs]
        rfl
      rw [pastBlanks_hash hs, pastBlanks_hash hconcat, hdrop]
    · rw [pastBlanks_of_ne (by rw [hdrop, hs]; simpa using hc), pastBlanks_of_ne (by rw [hs]; simpa using hc), hdrop]

/-- A character that is looked for after a dash is no parenthesis, and is not passed over. -/
theorem peekPastSpace_concat {d : Char} (hblank : Text.isBlank d = false) (hhash : d ≠ '#') (hclose : ')' ≠ d)
    (s : List Char) : peekPastSpace mode (s ++ [')']) = some d ↔ peekPastSpace mode s = some d := by
  rw [peekPastSpace_eq, peekPastSpace_eq]
  split
  next =>
    rw [pastBlanks_concat]
    cases hpast : pastBlanks s with
    | nil =>
      have hnot : s.head? ≠ some d := by
        intro hs
        obtain ⟨t, rfl⟩ := List.head?_eq_some_iff.1 hs
        have hdrop : (d :: t).dropWhile Text.isBlank = d :: t := by rw [List.dropWhile_cons, hblank]; rfl
        rw [pastBlanks_of_ne (by rw [hdrop]; simpa using hhash), hdrop] at hpast
        cases hpast
      exact iff_of_false (by simpa using hclose) (by simpa using hnot)
    | cons e rest => exact Iff.rfl
  next => exact head?_concat hclose s

private theorem steady_bracketRange (c : Char) : (bracketRange mode c).Steady ')' := by
  refine (steadyBut_bracketItem c).bind (fun first => ?_) ?_
  · refine (steady_skipSpace mode).bind fun _ => Steady.remaining (fun s => ?_) fun s => ?_
    · cases s with
      | nil => rfl
      | cons d s =>
        by_cases hd : d = '-'
        · subst hd
          simp only [List.cons_append, peekPastSpace_concat (d := ']') rfl (by decide) (by decide),
            peekPastSpace_concat (d := '-') rfl (by decide) (by decide)]
        · rw [List.cons_append]
          split
          next heq => exact absurd (List.cons.inj heq).1 hd
          next => 
            split
            next heq => exact absurd (List.cons.inj heq).1 hd
            next => rfl
    · split
      · split
        · exact (Apart.ofOption _).steady
        · refine (steady_nextSpaced mode).bind fun _ => Steady.next.bind fun d => ?_
          refine (steadyBut_bracketItem d).bind (fun last => ?_) ?_
          · refine (Apart.ofOption _).steady.bind fun low => (Apart.ofOption _).steady.bind fun high => ?_
            exact (Apart.require _).steady.bind fun _ => (Apart.pure _).steady
          · rintro _ rest ⟨⟨condition, rfl⟩, -⟩
            rw [results_bind]
            cases rangeEnd mode first with
            | none => exact .refused
            | some low => exact .refused
      · exact (Apart.ofOption _).steady
  · rintro _ _ ⟨⟨condition, rfl⟩, t, rfl, -⟩
    rw [results_bind, results_skipSpace, dropSpace_brace]
    exact .refused

private theorem apart_namedClass : namedClass.Apart ')' := by
  refine (Apart.expect (by decide)).bind fun _ => (Apart.accept (by decide)).bind fun negated => ?_
  refine Apart.run_expect (by decide) fun name => (Apart.expect (by decide)).bind fun _ => ?_
  exact (Apart.ofOption _).bind fun k => Apart.pure _

private theorem steady_bracketOpening : (bracketOpening mode).Steady ')' := by
  refine (steady_skipSpace mode).bind fun _ => (Apart.accept (by decide)).steady.bind fun negated => ?_
  refine (steady_skipSpace mode).bind fun _ => (steady_runSpaced rfl).bind fun dashes => ?_
  split
  · exact (Apart.pure _).steady
  · refine (Apart.accept (by decide)).steady.bind fun closed => ?_
    cases closed with
    | true => exact (steady_skipSpace mode).bind fun _ => (Apart.pure _).steady
    | false => exact (Apart.pure _).steady

private theorem results_bracketItems_nil {left : Option (SetOperation × Nested CharClass)} {items : Items}
    {s : List Char} (h : dropSpace mode s = []) : Reader.results (bracketItems mode left items) s = none := by
  show (bracketItems mode left items s).map Text.Reading.result = none
  rw [bracketItems.eq_def]
  dsimp only
  split
  next => rfl
  next hcons =>
    rw [h] at hcons
    cases hcons

private theorem results_bracket (mode : Mode) (s : List Char) :
    (bracket mode).results s = ((bracketOpening mode).results s).bind fun ((negated, items), rest) =>
      (Reader.results (bracketItems mode none items) rest).bind fun (a, rest') =>
        (closeBrackets mode negated a).map fun a => (a, rest') := by
  rw [bracket, results_bind]
  congr 1
  funext ⟨⟨negated, items⟩, rest⟩
  refine (results_bind (bracketItems mode none items) _ rest).trans ?_
  congr 1
  funext ⟨a, rest'⟩
  exact results_ofOption _ rest'

/-- What is next within brackets is the closing one, an inner class, an operation or an item. -/
theorem results_bracketItems_cons {left : Option (SetOperation × Nested CharClass)} {items : Items}
    {s : List Char} {c : Char} {rest : List Char} (h : dropSpace mode s = c :: rest) :
    Reader.results (bracketItems mode left items) s =
      let more (r : Nested CharClass × List Char) := Reader.results (bracketItems mode left (items.add r.1)) r.2
      if c = ']' then some (joinItems mode left items, rest)
      else if c = '[' then
        match namedClass.results rest with
        | some ((negated, k), rest') => (closeClass mode negated k).bind fun k => more (.leaf k, rest')
        | none => ((bracket mode).results rest).bind more
      else match setOperation? (c :: rest) with
        | some operation =>
          Reader.results (bracketItems mode (some (operation, joinItems mode left items)) ⟨.none, []⟩) rest.tail
        | none => ((bracketRange mode c).results rest).bind fun (k, rest') => more (.leaf k, rest') := by
  show (bracketItems mode left items s).map Text.Reading.result = _
  rw [bracketItems.eq_def]
  dsimp only
  split
  next hnil =>
    rw [h] at hnil
    cases hnil
  next d rest' hcons =>
    obtain ⟨rfl, rfl⟩ := List.cons.inj (h.symm.trans hcons)
    split
    next => rfl
    next =>
      split
      next =>
        split
        next negated k rest' h' hnamed =>
          have hread : namedClass.results rest = some ((negated, k), rest') := by rw [results, hnamed]; rfl
          rw [hread]
          dsimp only
          cases closeClass mode negated k with
          | none => rfl
          | some k => exact Text.result_widen _ _
        next hnamed =>
          have hread : namedClass.results rest = none := by rw [results, hnamed]; rfl
          rw [hread, results_bracket, results]
          cases bracketOpening mode rest with
          | none => rfl
          | some r =>
            obtain ⟨⟨negated, inner⟩, rest', h'⟩ := r
            simp only [Option.map_some, Option.bind_some, Text.Reading.result, results]
            cases bracketItems mode none inner rest' with
            | none => rfl
            | some r =>
              dsimp only
              simp only [Option.map_some, Option.bind_some, Text.Reading.result]
              cases closeBrackets mode negated r.value with
              | none => rfl
              | some a => exact Text.result_widen _ _
      next =>
        cases setOperation? (c :: rest) with
        | some operation => exact Text.result_widen _ _
        | none =>
          dsimp only
          rw [results]
          cases bracketRange mode c rest with
          | none => rfl
          | some r => exact Text.result_widen _ _

private theorem steadyOn_bracket {s : List Char}
    (hitems : ∀ items t, t.length ≤ s.length → SteadyOn ')' t (bracketItems mode none items)) :
    SteadyOn ')' s (bracket mode) := by
  refine SteadyOn.bind (steady_bracketOpening s) fun (negated, items) rest hrest => ?_
  refine SteadyOn.bind (hitems items rest hrest) fun a rest' _ => ?_
  exact (Apart.ofOption _).steady rest'

private theorem setOperation?_concat (c : Char) (rest : List Char) :
    setOperation? (c :: (rest ++ [')'])) = setOperation? (c :: rest) := by
  cases rest with
  | nil =>
    unfold setOperation?
    split <;> simp_all
  | cons d rest =>
    unfold setOperation?
    split <;> simp_all

private theorem tail_concat_of_setOperation? {c : Char} {rest : List Char} {operation : SetOperation}
    (h : setOperation? (c :: rest) = some operation) : (rest ++ [')']).tail = rest.tail ++ [')'] := by
  cases rest with
  | nil => 
    unfold setOperation? at h
    split at h <;> simp_all
  | cons d rest => rfl

/-- Nothing closes the brackets at a parenthesis with no text before it. -/
theorem results_bracketItems_parenthesis {left : Option (SetOperation × Nested CharClass)} {items : Items}
    {s : List Char} (h : dropSpace mode s = [')']) : Reader.results (bracketItems mode left items) s = none := by
  rw [results_bracketItems_cons h]
  show ((bracketRange mode ')').results []).bind _ = none
  cases hrange : (bracketRange mode ')').results [] with
  | none => rfl
  | some r =>
    obtain ⟨k, rest⟩ := r
    obtain rfl := rest_eq_nil_of_results hrange
    exact results_bracketItems_nil (dropSpace_nil mode)

private theorem steadyOn_bracketItems {left : Option (SetOperation × Nested CharClass)} {items : Items} {s : List Char}
    (hshorter : ∀ left items t, t.length < s.length → SteadyOn ')' t (bracketItems mode left items)) :
    SteadyOn ')' s (bracketItems mode left items) := by
  unfold SteadyOn
  rcases dropSpace_concat mode s with hleft | ⟨hnil, hpassed⟩
  · cases hdrop : dropSpace mode s with
    | nil =>
      rw [hdrop] at hleft
      rw [results_bracketItems_nil hdrop, results_bracketItems_parenthesis hleft]
      exact .refused
    | cons c rest =>
      rw [hdrop, List.cons_append] at hleft
      have hlt := length_lt_of_dropSpace hdrop
      have hmore (a : Nested CharClass) (t : List Char) (ht : t.length ≤ rest.length) :
          SteadyOn ')' t (bracketItems mode left (items.add a)) :=
        hshorter _ _ t (Nat.lt_of_le_of_lt ht hlt)
      rw [results_bracketItems_cons hdrop, results_bracketItems_cons hleft]
      dsimp only
      split
      next => exact .left _ _
      next =>
        split
        next =>
          -- A name between colons is there with the parenthesis exactly if it is there without it.
          rw [apart_namedClass]
          cases hnamed : namedClass.results rest with
          | none =>
            have hbracket : SteadyOn ')' rest (bracket mode) :=
              steadyOn_bracket fun items t ht => hshorter _ _ t (Nat.lt_of_le_of_lt ht hlt)
            exact Prolonged.bind hbracket (fun a t ht => hmore a t (length_le_of_results ht)) fun _ _ => False.elim
          | some r =>
            obtain ⟨⟨negated, k⟩, t⟩ := r
            dsimp only [Option.map_some]
            cases closeClass mode negated k with
            | none => exact .refused
            | some k => exact hmore (.leaf k) t (length_le_of_results hnamed)
        next =>
          rw [setOperation?_concat]
          split
          next operation hoperation =>
            rw [tail_concat_of_setOperation? hoperation]
            exact hshorter _ _ _ (Nat.lt_of_le_of_lt (List.tail_sublist rest).length_le hlt)
          next =>
            exact (steady_bracketRange c rest).bind (fun k t ht => hmore (.leaf k) t (length_le_of_results ht))
              fun _ _ => False.elim
  · rw [results_bracketItems_nil hnil, results_bracketItems_nil hpassed]
    exact .refused

/-- No parenthesis closes brackets. -/
theorem steady_bracketItems (left : Option (SetOperation × Nested CharClass)) (items : Items) :
    Reader.Steady ')' (bracketItems mode left items) := by
  intro s
  induction s using (measure List.length).wf.induction generalizing left items with
  | _ s ih => exact steadyOn_bracketItems fun left items t ht => ih t ht left items

theorem steady_bracket : (bracket mode).Steady ')' :=
  fun _ => steadyOn_bracket fun items t _ => steady_bracketItems none items t

end PagePolicy.Regex
