import PagePolicy.Proofs.Condition.Grammar

/-! Conditions read from left to right. What the tokens that were read allow to come next, and how many groups
are open, is all that a reader has to keep: some tokens begin a condition exactly when each of them was
allowed, and write one when nothing more is missing. -/

namespace PagePolicy.Condition

/-- What can come next. -/
inductive Awaited where
  /-- A negation, a group or a test. -/
  | condition
  | regex
  | text
  /-- A sign between two conditions, or the end of a group. -/
  | sign

/-- How far the reading of a condition has come: what can come next, and how many groups are open. -/
structure Progress where
  awaited : Awaited
  depth : Nat

namespace Progress

/-- The progress after a token, if it can come next. -/
def step : Progress → Token → Option Progress
  | ⟨.condition, depth⟩, .not => some ⟨.condition, depth⟩
  | ⟨.condition, depth⟩, .leftParen => some ⟨.condition, depth + 1⟩
  | ⟨.condition, depth⟩, .operator _ sign =>
    if sign = "=~" then some ⟨.regex, depth⟩
    else (CompareOp.parse sign).map fun _ => ⟨.text, depth⟩
  | ⟨.condition, depth⟩, .identifier _ => some ⟨.regex, depth⟩
  | ⟨.condition, depth⟩, .regex _ _ => some ⟨.sign, depth⟩
  | ⟨.regex, depth⟩, .regex _ _ => some ⟨.sign, depth⟩
  | ⟨.text, depth⟩, .text _ => some ⟨.sign, depth⟩
  | ⟨.sign, depth⟩, .and => some ⟨.condition, depth⟩
  | ⟨.sign, depth⟩, .or => some ⟨.condition, depth⟩
  | ⟨.sign, depth + 1⟩, .rightParen => some ⟨.sign, depth⟩
  | _, _ => none

/-- The progress after some tokens, if each of them can come where it does. -/
def run (p : Progress) (ts : List Token) : Option Progress :=
  ts.foldlM step p

variable {p q : Progress} {ts us : List Token}

theorem run_cons (p : Progress) (t : Token) (ts : List Token) :
    p.run (t :: ts) = (p.step t).bind fun q => q.run ts := List.foldlM_cons

theorem run_singleton (p : Progress) (t : Token) : p.run [t] = p.step t := by
  rw [run_cons]
  exact Option.bind_fun_some _

private theorem run_append (p : Progress) (ts us : List Token) :
    p.run (ts ++ us) = (p.run ts).bind fun q => q.run us := List.foldlM_append

theorem run_append_of_eq (h : p.run ts = some q) : p.run (ts ++ us) = q.run us := by
  rw [run_append, h, Option.bind_some]

/-- After a condition there comes a sign or, in a group, its end. -/
theorem step_sign_eq_none {depth : Nat} {t : Token} (hor : t ≠ .or) (hand : t ≠ .and)
    (hclose : t = .rightParen → depth = 0) : (Progress.mk .sign depth).step t = none := by
  cases t with
  | or => exact absurd rfl hor
  | and => exact absurd rfl hand
  | rightParen =>
    obtain rfl := hclose rfl
    rfl
  | _ => rfl

end Progress

/-! ### The tokens of a condition -/

/-- The tokens of a condition can come wherever a condition can, and after them a sign. -/
theorem Writes.run_eq {level : Level} {ts : List Token} {a : Condition} (h : Writes level ts a)
    (depth : Nat) : (Progress.mk .condition depth).run ts = some ⟨.sign, depth⟩ := by
  induction h generalizing depth with
  | single _ ih => exact ih depth
  | @join k _ _ _ _ _ _ ihchain ihoperand =>
    rw [Progress.run_append_of_eq (ihchain depth), Progress.run_cons]
    cases k with
    | or => exact ihoperand depth
    | and => exact ihoperand depth
  | not _ ih => exact ih depth
  | primary _ ih => exact ih depth
  | group _ ih =>
    rw [Progress.run_cons]
    exact Progress.run_append_of_eq (ih (depth + 1))
  | comparison hsign hop =>
    rw [Progress.run_cons, Progress.step, if_neg hsign, hop]
    rfl
  | regexOperator => rfl
  | regexIdentifier => rfl
  | regexUrl => rfl

/-- A conjunction with one more condition, which joins the last alternative. -/
theorem Writes.exists_and {ts us : List Token} {a b : Condition} (h : Writes (.chain .or) ts a)
    (hunit : Writes .unit us b) : ∃ c, Writes (.chain .or) (ts ++ .and :: us) c := by
  cases h with
  | single hand => exact ⟨_, .single (.join hand hunit)⟩
  | join hor hand =>
    rw [List.append_assoc]
    exact ⟨_, .join hor (.join hand hunit)⟩

/-! ### What tokens can be completed to -/

/-- Whether some tokens write a condition but for the ends of the groups that are open. What stands before an
open group and a condition in place of the group do so too, with one group less. -/
def WrittenUpTo : Nat → List Token → Prop
  | 0, ts => ∃ a, Writes (.chain .or) ts a
  | depth + 1, ts => ∃ before inner a, ts = before ++ .leftParen :: inner ∧ Writes (.chain .or) inner a ∧
      ∀ us b, Writes .unit us b → WrittenUpTo depth (before ++ us)

/-- What holds of the tokens that led to a progress: with what is awaited after them, they write a condition
but for the ends of the open groups. -/
def Progress.Holds : Progress → List Token → Prop
  | ⟨.condition, depth⟩, ts => ∀ us a, Writes .unit us a → WrittenUpTo depth (ts ++ us)
  | ⟨.regex, depth⟩, ts => ∀ pattern flags, WrittenUpTo depth (ts ++ [.regex pattern flags])
  | ⟨.text, depth⟩, ts => ∀ value, WrittenUpTo depth (ts ++ [.text value])
  | ⟨.sign, depth⟩, ts => WrittenUpTo depth ts

section
variable {depth : Nat} {ts us : List Token}

/-- A condition after a sign goes on what was written. -/
theorem WrittenUpTo.join (h : WrittenUpTo depth ts) (k : Connective) {b : Condition}
    (hunit : Writes .unit us b) : WrittenUpTo depth (ts ++ k.token :: us) := by
  have hjoin {ts : List Token} {a : Condition} (hwrites : Writes (.chain .or) ts a) :
      ∃ c, Writes (.chain .or) (ts ++ k.token :: us) c := by
    cases k with
    | or => exact ⟨_, .join hwrites (.single hunit)⟩
    | and => exact hwrites.exists_and hunit
  cases depth with
  | zero =>
    obtain ⟨a, ha⟩ := h
    exact hjoin ha
  | succ depth =>
    obtain ⟨before, inner, a, rfl, hinner, hbefore⟩ := h
    obtain ⟨c, hc⟩ := hjoin hinner
    exact ⟨before, _, c, List.append_assoc .., hc, hbefore⟩

private theorem WrittenUpTo.close (h : WrittenUpTo (depth + 1) ts) : WrittenUpTo depth (ts ++ [.rightParen]) := by
  obtain ⟨before, inner, a, rfl, hinner, hbefore⟩ := h
  rw [List.append_assoc]
  exact hbefore _ a (.primary (.group hinner))

/-- The groups that are open can be closed. -/
theorem WrittenUpTo.exists_writes (h : WrittenUpTo depth ts) :
    ∃ us a, Writes (.chain .or) (ts ++ us) a := by
  induction depth generalizing ts with
  | zero =>
    obtain ⟨a, ha⟩ := h
    exact ⟨[], a, by rwa [List.append_nil]⟩
  | succ depth ih =>
    obtain ⟨us, a, ha⟩ := ih h.close
    rw [List.append_assoc] at ha
    exact ⟨_, a, ha⟩

end

namespace Progress
variable {p q : Progress} {t : Token} {ts us : List Token}

/-- A token that can come next keeps what holds of the tokens so far. -/
theorem Holds.step (h : p.Holds ts) (hstep : p.step t = some q) : q.Holds (ts ++ [t]) := by
  revert h hstep
  fun_cases Progress.step p t with
  | case1 depth => -- a negation
    rintro h ⟨⟩ us a hunit
    rw [List.append_assoc]
    exact h _ _ (.not hunit)
  | case2 depth => -- the start of a group
    rintro h ⟨⟩ us a hunit
    exact ⟨ts, us, a, List.append_assoc .., .single (.single hunit), h⟩
  | case3 depth property => -- a property and the sign of a regular expression
    rintro h ⟨⟩ pattern flags
    rw [List.append_assoc]
    exact h _ _ (.primary .regexOperator)
  | case4 depth property sign hsign => -- a property and another sign
    intro h hstep
    obtain ⟨op, hop, rfl⟩ := Option.map_eq_some_iff.1 hstep
    intro value
    rw [List.append_assoc]
    exact h _ _ (.primary (.comparison hsign hop))
  | case5 depth property => -- a property
    rintro h ⟨⟩ pattern flags
    rw [List.append_assoc]
    exact h _ _ (.primary .regexIdentifier)
  | case6 depth pattern flags => -- a regular expression as a test
    rintro h ⟨⟩
    exact h _ _ (.primary .regexUrl)
  | case7 depth pattern flags => -- a regular expression after a property
    rintro h ⟨⟩
    exact h pattern flags
  | case8 depth value => -- the text after a comparison
    rintro h ⟨⟩
    exact h value
  | case9 depth => -- the sign of a conjunction
    rintro h ⟨⟩ us a hunit
    rw [List.append_assoc]
    exact h.join .and hunit
  | case10 depth => -- the sign of an alternative
    rintro h ⟨⟩ us a hunit
    rw [List.append_assoc]
    exact h.join .or hunit
  | case11 depth => -- the end of a group
    rintro h ⟨⟩
    exact h.close
  | case12 => -- a token that cannot come next
    rintro h ⟨⟩

private theorem Holds.run (h : p.Holds ts) (hrun : p.run us = some q) : q.Holds (ts ++ us) := by
  induction us generalizing p ts with
  | nil =>
    obtain rfl := Option.some.inj hrun
    rwa [List.append_nil]
  | cons t us ih =>
    rw [run_cons] at hrun
    obtain ⟨r, hstep, hrun⟩ := Option.bind_eq_some_iff.1 hrun
    have hlater := ih (h.step hstep) hrun
    rwa [List.append_assoc] at hlater

private theorem Holds.exists_writes (h : p.Holds ts) : ∃ us a, Writes (.chain .or) (ts ++ us) a := by
  have hafter {t : Token} (hwritten : WrittenUpTo p.depth (ts ++ [t])) :
      ∃ us a, Writes (.chain .or) (ts ++ us) a := by
    obtain ⟨us, a, ha⟩ := hwritten.exists_writes
    rw [List.append_assoc] at ha
    exact ⟨_, a, ha⟩
  obtain ⟨awaited, depth⟩ := p
  cases awaited with
  | condition => exact hafter (h [.regex "" ""] _ (.primary .regexUrl))
  | regex => exact hafter (h "" "")
  | text => exact hafter (h "")
  | sign => exact WrittenUpTo.exists_writes h

def start : Progress :=
  ⟨.condition, 0⟩

private theorem holds_start : start.Holds [] := fun _ a hunit => ⟨a, .single (.single hunit)⟩

end Progress

/-- Some tokens begin a condition exactly when each of them can come where it does. -/
theorem exists_writes_append_iff (ts : List Token) :
    (∃ us a, Writes (.chain .or) (ts ++ us) a) ↔ (Progress.start.run ts).isSome := by
  constructor
  · rintro ⟨us, a, h⟩
    have hrun := h.run_eq 0
    rw [Progress.run_append] at hrun
    obtain ⟨q, hq, -⟩ := Option.bind_eq_some_iff.1 hrun
    exact Option.isSome_iff_exists.2 ⟨q, hq⟩
  · intro h
    obtain ⟨q, hq⟩ := Option.isSome_iff_exists.1 h
    have hholds := Progress.holds_start.run hq
    exact hholds.exists_writes

/-- Some tokens write a condition exactly when each of them can come where it does, and after them a sign could
come and no group is open. -/
theorem exists_writes_iff (ts : List Token) :
    (∃ a, Writes (.chain .or) ts a) ↔ Progress.start.run ts = some ⟨.sign, 0⟩ :=
  ⟨fun ⟨_, h⟩ => h.run_eq 0, fun h => Progress.holds_start.run h⟩

/-- A token that cannot come next after some tokens begins no condition with them. -/
theorem not_writes_of_step {q : Progress} {t : Token} {ts : List Token}
    (hrun : Progress.start.run ts = some q) (hstep : q.step t = none) (us : List Token) (a : Condition) :
    ¬ Writes (.chain .or) (ts ++ t :: us) a := by
  intro h
  have hnone : Progress.start.run (ts ++ t :: us) = none := by
    rw [Progress.run_append_of_eq hrun, Progress.run_cons, hstep, Option.bind_none]
  exact Option.some_ne_none _ ((h.run_eq 0).symm.trans hnone)

end PagePolicy.Condition
