import PagePolicy.Text.Reader

/-! What readers come to, on a text and on the same text with one more character at its end. A reader that is
steady either leaves that character over, or has read all of the text by then. -/

namespace PagePolicy.Text

/-- What a reading gives, whatever text it is a reading of. -/
def Reading.result {α : Type} {s : List Char} (r : Reading α s) : α × List Char :=
  (r.value, r.rest)

theorem result_widen {α : Type} {s t : List Char} (h : t.length ≤ s.length) (r : Option (Reading α t)) :
    (r.map (Reading.widen h)).map Reading.result = r.map Reading.result := by
  cases r <;> rfl

theorem dropWhile_concat {p : Char → Bool} {c : Char} (hc : p c = false) (s : List Char) :
    (s ++ [c]).dropWhile p = s.dropWhile p ++ [c] := by
  rw [List.dropWhile_append]
  split
  next h =>
    rw [List.isEmpty_iff.1 h, List.dropWhile_cons, hc]
    rfl
  next => rfl

namespace Reader

variable {α β : Type} {c : Char}

/-- What a reader comes to on a text: a value and the rest of the text, if it does not fail. -/
def results (p : Reader α) (s : List Char) : Option (α × List Char) :=
  (p s).map Reading.result

/-! ### Readers one after another -/

@[simp]
theorem results_pure (a : α) (s : List Char) : (pure a : Reader α).results s = some (a, s) :=
  rfl

@[simp]
theorem results_bind (p : Reader α) (f : α → Reader β) (s : List Char) :
    (p >>= f).results s = (p.results s).bind fun (a, rest) => (f a).results rest := by
  have hbind : (p >>= f) s = (p s).bind fun a => (f a.value a.rest).map (Reading.widen a.length_le) := rfl
  rw [results, results, hbind]
  cases p s with
  | none => rfl
  | some a =>
    show ((f a.value a.rest).map (Reading.widen a.length_le)).map Reading.result = (f a.value).results a.rest
    rw [results]
    cases f a.value a.rest <;> rfl

theorem length_le_of_results {p : Reader α} {s rest : List Char} {a : α} (h : p.results s = some (a, rest)) :
    rest.length ≤ s.length := by
  obtain ⟨r, -, hr⟩ := Option.map_eq_some_iff.1 h
  obtain ⟨-, rfl⟩ := Prod.mk.inj hr
  exact r.length_le

theorem rest_eq_nil_of_results {p : Reader α} {rest : List Char} {a : α} (h : p.results [] = some (a, rest)) :
    rest = [] :=
  List.eq_nil_of_length_eq_zero (Nat.le_zero.1 (length_le_of_results h))

/-! ### Simple readers -/

@[simp]
theorem results_ofOption (a : Option α) (s : List Char) : (ofOption a).results s = a.map fun a => (a, s) := by
  cases a <;> rfl

private theorem results_require (condition : Bool) (s : List Char) :
    (require condition).results s = if condition then some ((), s) else none := by
  cases condition <;> rfl

@[simp]
theorem results_remaining (s : List Char) : remaining.results s = some (s, s) :=
  rfl

@[simp]
theorem results_next_cons (d : Char) (s : List Char) : next.results (d :: s) = some (d, s) :=
  rfl

private theorem results_run (p : Char → Bool) (s : List Char) :
    (run p).results s = some (s.takeWhile p, s.dropWhile p) :=
  rfl

private theorem results_accept (text s : List Char) :
    (accept text).results s =
      if text.isPrefixOf s then some (true, s.drop text.length) else some (false, s) := by
  rw [results, accept]
  split <;> rfl

@[simp]
theorem results_expect_nil (d : Char) : (expect d).results [] = none :=
  rfl

theorem results_expect_cons (d e : Char) (s : List Char) :
    (expect d).results (e :: s) = if d = e then some ((), s) else none := by
  rw [expect, results_bind, results_next_cons, Option.bind_some]
  simp only [results_require, decide_eq_true_eq]

/-- No character is next at the end of a text, whatever has been read there. -/
theorem results_bind_expect_nil (p : Reader α) (d : Char) (f : α → Reader β) :
    (p >>= fun a => expect d >>= fun _ => f a).results [] = none := by
  rw [results_bind]
  cases hp : p.results [] with
  | none => rfl
  | some r =>
    show (expect d >>= fun _ => f r.1).results r.2 = none
    rw [rest_eq_nil_of_results hp, results_bind, results_expect_nil, Option.bind_none]

/-! ### What readers come to -/

/-- Whether all values that a reader comes to are of some kind. -/
def Yields (p : Reader α) (kind : α → Prop) : Prop :=
  ∀ s a rest, p.results s = some (a, rest) → kind a

namespace Yields

variable {kind : α → Prop}

theorem pure {a : α} (h : kind a) : (Pure.pure a : Reader α).Yields kind := by
  rintro s _ rest ⟨⟩
  exact h

theorem ofOption {a : Option α} (h : ∀ b ∈ a, kind b) : (Reader.ofOption a).Yields kind := by
  intro s b rest hb
  rw [results_ofOption] at hb
  obtain ⟨b, hmem, heq⟩ := Option.map_eq_some_iff.1 hb
  cases heq
  exact h b hmem

/-- What the last reader comes to is what all of them come to. -/
theorem bind {p : Reader β} {f : β → Reader α} (h : ∀ b, (f b).Yields kind) : (p >>= f).Yields kind := by
  intro s a rest ha
  rw [results_bind] at ha
  obtain ⟨r, -, hr⟩ := Option.bind_eq_some_iff.1 ha
  exact h r.1 r.2 a rest hr

theorem require {condition : Bool} {p : Unit → Reader α} (h : condition = true → (p ()).Yields kind) :
    (Reader.require condition >>= p).Yields kind := by
  cases condition with
  | false => exact fun s a rest ha => nomatch ha
  | true => exact bind fun _ => h rfl

end Yields

/-! ### Readers that leave a character over -/

/-- Whether a reader leaves `c` over at the end of every text, and is not changed by it. -/
def Apart (c : Char) (p : Reader α) : Prop :=
  ∀ s, p.results (s ++ [c]) = (p.results s).map fun (a, rest) => (a, rest ++ [c])

namespace Apart

theorem pure (a : α) : (Pure.pure a : Reader α).Apart c :=
  fun _ => rfl

private theorem fail : (Reader.fail : Reader α).Apart c :=
  fun _ => rfl

theorem ofOption (a : Option α) : (Reader.ofOption a).Apart c := by
  cases a with
  | none => exact fail
  | some a => exact pure a

theorem require (condition : Bool) : (Reader.require condition).Apart c := by
  cases condition with
  | false => exact fail
  | true => exact pure ()

theorem bind {p : Reader α} {f : α → Reader β} (hp : p.Apart c) (hf : ∀ a, (f a).Apart c) :
    (p >>= f).Apart c := by
  intro s
  rw [results_bind, results_bind, hp]
  cases p.results s with
  | none => rfl
  | some r => exact hf r.1 r.2

theorem expect {d : Char} (hd : d ≠ c) : (Reader.expect d).Apart c := by
  intro s
  cases s with
  | nil => rw [List.nil_append, results_expect_cons, if_neg hd, results_expect_nil, Option.map_none]
  | cons e s =>
    rw [List.cons_append, results_expect_cons, results_expect_cons]
    split <;> rfl

theorem accept {text : List Char} (hc : c ∉ text) : (Reader.accept text).Apart c := by
  intro s
  have hprefix : text.isPrefixOf (s ++ [c]) = text.isPrefixOf s := by
    rw [Bool.eq_iff_iff, List.isPrefixOf_iff_prefix, List.isPrefixOf_iff_prefix, List.prefix_concat_iff]
    refine or_iff_right ?_
    rintro rfl
    simp at hc
  rw [results_accept, results_accept, hprefix]
  split
  next h =>
    rw [List.drop_append_of_le_length (List.isPrefixOf_iff_prefix.1 h).length_le]
    rfl
  next => rfl

theorem run {p : Char → Bool} (hc : p c = false) : (Reader.run p).Apart c := by
  intro s
  have htake : (s ++ [c]).takeWhile p = s.takeWhile p := by
    rw [List.takeWhile_append]
    split
    next h =>
      rw [(List.takeWhile_prefix p).eq_of_length h]
      simp [hc]
    next => rfl
  rw [results_run, results_run, htake, dropWhile_concat hc]
  rfl

/-- A run of any characters after which another one has to follow ends before the end of the text. -/
theorem run_expect {p : Char → Bool} {d : Char} {f : List Char → Reader β} (hd : d ≠ c)
    (hf : ∀ a, (f a).Apart c) : (Reader.run p >>= fun a => Reader.expect d >>= fun _ => f a).Apart c := by
  intro s
  rw [results_bind, results_bind, results_run, results_run, Option.bind_some, Option.bind_some]
  show (Reader.expect d >>= fun _ => f _).results _ = ((Reader.expect d >>= fun _ => f _).results _).map _
  cases hs : s.dropWhile p with
  | nil =>
    have hnone : (Reader.expect d).results ((s ++ [c]).dropWhile p) = none := by
      rw [List.dropWhile_append, hs, List.isEmpty_nil, if_pos rfl, List.dropWhile_cons]
      split
      · rfl
      · rw [results_expect_cons, if_neg hd]
    rw [results_bind, hnone]
    rfl
  | cons e rest =>
    have hdrop : (s ++ [c]).dropWhile p = e :: rest ++ [c] := by
      rw [List.dropWhile_append, hs]
      rfl
    have htake : (s ++ [c]).takeWhile p = s.takeWhile p := by
      rw [List.takeWhile_append, if_neg]
      intro hlength
      have hsplit := List.takeWhile_append_dropWhile (p := p) (l := s)
      rw [(List.takeWhile_prefix p).eq_of_length hlength, hs] at hsplit
      simp at hsplit
    rw [hdrop, htake]
    exact (expect hd).bind (fun _ => hf _) (e :: rest)

end Apart

/-! ### Readers that can pass over a character or need it -/

/-- What a reader can come to on a text and on the text with `c` after it. -/
inductive Prolonged (c : Char) (stray : α → List Char → Prop) :
    Option (α × List Char) → Option (α × List Char) → Prop where
  /-- The reader does not get as far as the character. -/
  | left (a : α) (rest : List Char) : Prolonged c stray (some (a, rest)) (some (a, rest ++ [c]))
  /-- The reader passes over the character, which changes nothing. -/
  | passed (a : α) : Prolonged c stray (some (a, [])) (some (a, []))
  /-- The reader needs the character. -/
  | taken (a : α) : Prolonged c stray none (some (a, []))
  /-- The reader goes astray without the character, and comes with it to a value and a rest of some kind. -/
  | strayed {a : α} {rest : List Char} (h : stray a rest) : Prolonged c stray none (some (a, rest))
  | refused : Prolonged c stray none none

/-- Whether one more character matters to a reader only where all of the text before it has been read, or
where the reader comes to a value and a rest of some kind. -/
def SteadyBut (c : Char) (stray : α → List Char → Prop) (p : Reader α) : Prop :=
  ∀ s, Prolonged c stray (p.results s) (p.results (s ++ [c]))

/-- Whether one more character matters to a reader only where all of the text before it has been read. -/
abbrev Steady (c : Char) (p : Reader α) : Prop :=
  p.SteadyBut c fun _ _ => False

/-- Whether a reader is steady as far as one text goes. -/
abbrev SteadyOn (c : Char) (s : List Char) (p : Reader α) : Prop :=
  Prolonged c (fun _ _ => False) (p.results s) (p.results (s ++ [c]))

/-- What follows a reading is read as if that reading had not been prolonged: where the character has been
read, no text is left. -/
theorem Prolonged.bind {stray : α → List Char → Prop} {stray' : β → List Char → Prop}
    {x y : Option (α × List Char)} {f : α → Reader β} (h : Prolonged c stray x y)
    (hf : ∀ a rest, x = some (a, rest) → Prolonged c stray' ((f a).results rest) ((f a).results (rest ++ [c])))
    (hstray : ∀ a rest, stray a rest → Prolonged c stray' none ((f a).results rest)) :
    Prolonged c stray' (x.bind fun (a, rest) => (f a).results rest)
      (y.bind fun (a, rest) => (f a).results rest) := by
  have hend (a : α) : (f a).results [] = none ∨ ∃ b, (f a).results [] = some (b, []) := by
    cases hresult : (f a).results [] with
    | none => exact .inl rfl
    | some r => exact .inr ⟨r.1, by rw [← rest_eq_nil_of_results hresult]⟩
  cases h with
  | left a rest => exact hf a rest rfl
  | passed a =>
    show Prolonged c stray' ((f a).results []) ((f a).results [])
    rcases hend a with hnone | ⟨b, hb⟩
    · rw [hnone]
      exact .refused
    · rw [hb]
      exact .passed b
  | taken a =>
    show Prolonged c stray' none ((f a).results [])
    rcases hend a with hnone | ⟨b, hb⟩
    · rw [hnone]
      exact .refused
    · rw [hb]
      exact .taken b
  | strayed hrest => exact hstray _ _ hrest
  | refused => exact .refused

theorem Prolonged.eq_of_some {stray : α → List Char → Prop} {a : α} {rest : List Char}
    {y : Option (α × List Char)} (h : Prolonged c stray (some (a, rest)) y) :
    y = some (a, rest ++ [c]) ∨ rest = [] ∧ y = some (a, []) := by
  cases h with
  | left => exact .inl rfl
  | passed => exact .inr ⟨rfl, rfl⟩

theorem Prolonged.eq_of_left {a : α} {d : Char} {rest : List Char} {x : Option (α × List Char)}
    (h : Prolonged c (fun _ _ => False) x (some (a, d :: rest))) :
    ∃ rest', x = some (a, rest') ∧ d :: rest = rest' ++ [c] := by
  generalize hy : some (a, d :: rest) = y at h
  cases h with
  | left _ rest' =>
    obtain ⟨rfl, hrest⟩ := Prod.mk.inj (Option.some.inj hy)
    exact ⟨rest', rfl, hrest⟩
  | passed => cases hy
  | taken => cases hy
  | strayed hfalse => exact hfalse.elim
  | refused => cases hy

/-- One reader after another on one text, of which the second one has a shorter part. -/
theorem Prolonged.results_bind {stray : α → List Char → Prop} {stray' : β → List Char → Prop} {p : Reader α}
    {f : α → Reader β} {s : List Char} (h : Prolonged c stray (p.results s) (p.results (s ++ [c])))
    (hf : ∀ a rest, rest.length ≤ s.length →
      Prolonged c stray' ((f a).results rest) ((f a).results (rest ++ [c])))
    (hstray : ∀ a rest, stray a rest → Prolonged c stray' none ((f a).results rest)) :
    Prolonged c stray' ((p >>= f).results s) ((p >>= f).results (s ++ [c])) := by
  rw [Reader.results_bind, Reader.results_bind]
  exact h.bind (fun a rest hrest => hf a rest (length_le_of_results hrest)) hstray

theorem SteadyOn.bind {p : Reader α} {f : α → Reader β} {s : List Char} (hp : SteadyOn c s p)
    (hf : ∀ a rest, rest.length ≤ s.length → SteadyOn c rest (f a)) : SteadyOn c s (p >>= f) :=
  Prolonged.results_bind hp hf fun _ _ => False.elim

theorem SteadyBut.bind {stray : α → List Char → Prop} {stray' : β → List Char → Prop} {p : Reader α}
    {f : α → Reader β} (hp : p.SteadyBut c stray) (hf : ∀ a, (f a).SteadyBut c stray')
    (hstray : ∀ a rest, stray a rest → Prolonged c stray' none ((f a).results rest)) :
    (p >>= f).SteadyBut c stray' :=
  fun s => (hp s).results_bind (fun a rest _ => hf a rest) hstray

theorem Apart.steadyBut {p : Reader α} (hp : p.Apart c) (stray : α → List Char → Prop) :
    p.SteadyBut c stray := by
  intro s
  rw [hp]
  cases p.results s with
  | none => exact .refused
  | some r => exact .left r.1 r.2

theorem Apart.steady {p : Reader α} (hp : p.Apart c) : p.Steady c :=
  hp.steadyBut _

namespace Steady

theorem steadyBut {p : Reader α} (hp : p.Steady c) (stray : α → List Char → Prop) :
    p.SteadyBut c stray := by
  intro s
  have h := hp s
  generalize p.results s = x at h ⊢
  generalize p.results (s ++ [c]) = y at h ⊢
  cases h with
  | left a rest => exact .left a rest
  | passed a => exact .passed a
  | taken a => exact .taken a
  | strayed h => exact h.elim
  | refused => exact .refused

theorem bind {stray : β → List Char → Prop} {p : Reader α} {f : α → Reader β} (hp : p.Steady c)
    (hf : ∀ a, (f a).SteadyBut c stray) : (p >>= f).SteadyBut c stray :=
  SteadyBut.bind hp hf fun _ _ => False.elim

theorem map {p : Reader α} (hp : p.Steady c) (f : α → β) : (f <$> p).Steady c :=
  hp.bind fun a => (Apart.pure (f a)).steady

theorem next : Reader.next.Steady c := by
  intro s
  cases s with
  | nil => exact .taken c
  | cons d s => exact .left d s

theorem expect (d : Char) : (Reader.expect d).Steady c :=
  next.bind fun e => (Apart.require (d = e)).steady

/-- Where another character has to follow, it does not matter what the reader before it makes of the end of the
text. -/
theorem bind_expect {p : Reader α} {d : Char} {f : α → Reader β}
    (hp : ∀ s, ∃ a rest, p.results s = some (a, rest) ∧
      (p.results (s ++ [c]) = some (a, rest ++ [c]) ∨ rest = [] ∧ ∃ b, p.results (s ++ [c]) = some (b, [])))
    (hf : ∀ a, (f a).Steady c) : (p >>= fun a => Reader.expect d >>= fun _ => f a).Steady c := by
  intro s
  have hend (a : α) : (Reader.expect d >>= fun _ => f a).results [] = none :=
    results_bind_expect_nil (Pure.pure a) d f
  obtain ⟨a, rest, hs, hconcat | ⟨rfl, b, hconcat⟩⟩ := hp s
  · rw [results_bind, results_bind, hs, hconcat]
    exact (expect d).bind (fun _ => hf a) rest
  · rw [results_bind, results_bind, hs, hconcat]
    show Prolonged c _ ((Reader.expect d >>= fun _ => f a).results [])
      ((Reader.expect d >>= fun _ => f b).results [])
    rw [hend, hend]
    exact .refused

/-- A look at the text that goes on changes nothing if it is not changed by the character. -/
theorem remaining {f : List Char → Reader β} (hsame : ∀ s, f (s ++ [c]) = f s) (hf : ∀ s, (f s).Steady c) :
    (Reader.remaining >>= f).Steady c := by
  intro s
  rw [results_bind, results_bind, results_remaining, results_remaining, Option.bind_some, Option.bind_some]
  dsimp only
  rw [hsame]
  exact hf s s

end Steady

end Reader

end PagePolicy.Text
