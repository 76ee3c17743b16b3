import Mathlib.Data.Nat.Bitwise
import Mathlib.Logic.Function.Iterate
import PagePolicy.Regex.Search

/-! The search for a regular expression finds exactly the parts of a text that it matches. Its sets of places
are carried along a relation between places, one for each regular expression. -/

namespace PagePolicy.Regex

/-! ### Sets of places -/

/-- Whether every place of a set is a place of a text. -/
def Within (s : List Char) (places : Nat) : Prop :=
  ∀ i, places.testBit i = true → i ≤ s.length

private theorem testBit_placesWhere (p : Option Char → Option Char → Bool) (before : Option Char)
    (s : List Char) (i : Nat) :
    (placesWhere p before s).testBit i = true ↔
      ∃ l r, s = l ++ r ∧ i = l.length ∧ p (l.getLast?.or before) r.head? = true := by
  induction s generalizing before i with
  | nil =>
    cases h : p before none <;> cases i <;> simp [placesWhere, h, Nat.testBit_succ]
  | cons c s ih =>
    cases i with
    | zero =>
      have hbit : (placesWhere p before (c :: s)).testBit 0 = p before (some c) := by
        cases h : p before (some c) <;> simp [placesWhere, h]
      rw [hbit]
      constructor
      · intro h
        exact ⟨[], c :: s, rfl, rfl, h⟩
      · rintro ⟨l, r, hs, hl, h⟩
        obtain rfl := List.length_eq_zero_iff.1 hl.symm
        obtain rfl : c :: s = r := hs
        exact h
    | succ i =>
      have hbit : (placesWhere p before (c :: s)).testBit (i + 1) =
          (placesWhere p (some c) s).testBit i := by
        rw [Nat.testBit_succ, placesWhere]
        have := Bool.toNat_lt (p before (some c))
        congr 1
        omega
      have hlast (l : List Char) : (c :: l).getLast?.or before = l.getLast?.or (some c) := by
        cases l <;> simp [List.getLast?_cons]
      rw [hbit, ih]
      constructor
      · rintro ⟨l, r, rfl, rfl, h⟩
        exact ⟨c :: l, r, rfl, rfl, by rwa [hlast]⟩
      · rintro ⟨_ | ⟨d, l⟩, r, hs, hl, h⟩
        · exact absurd hl (Nat.succ_ne_zero i)
        · obtain ⟨rfl, rfl⟩ := List.cons.inj hs
          exact ⟨l, r, rfl, Nat.succ.inj hl, by rwa [← hlast]⟩

private theorem testBit_allPlaces (s : List Char) (i : Nat) :
    (allPlaces s).testBit i = true ↔ i ≤ s.length := by
  rw [allPlaces, testBit_placesWhere]
  constructor
  · rintro ⟨l, r, rfl, rfl, -⟩
    rw [List.length_append]
    exact Nat.le_add_right _ _
  · intro h
    exact ⟨s.take i, s.drop i, (List.take_append_drop i s).symm, by
      rw [List.length_take, Nat.min_eq_left h], rfl⟩

/-! ### From place to place -/

/-- A regular expression leads from one place of a text to another when it matches what is between. -/
def Leads (a : Regex) (s : List Char) (i j : Nat) : Prop :=
  ∃ l u r, s = l ++ u ++ r ∧ i = l.length ∧ j = (l ++ u).length ∧ Matches a l u r

/-- The regular expression that matches so many times in a row what another one matches. -/
def rounds (a : Regex) (n : Nat) : Regex :=
  loop a n (some n)

section
variable {a b : Regex} {s : List Char} {i j : Nat}

private theorem Leads.le (h : Leads a s i j) : i ≤ j := by
  obtain ⟨l, u, r, -, rfl, rfl, -⟩ := h
  rw [List.length_append]
  exact Nat.le_add_right _ _

private theorem Leads.le_length (h : Leads a s i j) : j ≤ s.length := by
  obtain ⟨l, u, r, rfl, -, rfl, -⟩ := h
  exact (List.prefix_append (l ++ u) r).length_le

/-- What matches the empty text leads nowhere else. -/
theorem leads_of_nil (p : List Char → List Char → Prop)
    (h : ∀ l u r, Matches a l u r ↔ u = [] ∧ p l r) :
    Leads a s i j ↔ i = j ∧ ∃ l r, s = l ++ r ∧ i = l.length ∧ p l r := by
  constructor
  · rintro ⟨l, u, r, rfl, rfl, rfl, hm⟩
    obtain ⟨rfl, hp⟩ := (h l u r).1 hm
    rw [List.append_nil]
    exact ⟨rfl, l, r, rfl, rfl, hp⟩
  · rintro ⟨rfl, l, r, rfl, rfl, hp⟩
    exact ⟨l, [], r, by rw [List.append_nil], rfl, by rw [List.append_nil], (h l [] r).2 ⟨rfl, hp⟩⟩

private theorem leads_empty : Leads empty s i j ↔ i = j ∧ i ≤ s.length := by
  rw [leads_of_nil (fun _ _ => True)]
  · refine and_congr_right fun _ => ⟨?_, fun h => ?_⟩
    · rintro ⟨l, r, rfl, rfl, -⟩
      rw [List.length_append]
      exact Nat.le_add_right _ _
    · exact ⟨s.take i, s.drop i, (List.take_append_drop i s).symm, by
        rw [List.length_take, Nat.min_eq_left h], trivial⟩
  · intro l u r
    constructor
    · rintro ⟨⟩
      exact ⟨rfl, trivial⟩
    · rintro ⟨rfl, -⟩
      exact .empty

private theorem leads_assert {condition : Assertion} :
    Leads (.assert condition) s i j ↔
      i = j ∧ ∃ l r, s = l ++ r ∧ i = l.length ∧ condition.holds l.getLast? r.head? = true := by
  refine leads_of_nil _ fun l u r => ⟨?_, ?_⟩
  · rintro ⟨⟩
    exact ⟨rfl, ‹_›⟩
  · rintro ⟨rfl, h⟩
    exact .assert h

private theorem leads_one {k : CharClass} :
    Leads (one k) s i j ↔
      j = i + 1 ∧ ∃ l r, s = l ++ r ∧ i = l.length ∧ r.head?.any k.contains = true := by
  constructor
  · rintro ⟨l, u, r, rfl, rfl, rfl, ⟨⟩⟩
    exact ⟨by rw [List.length_append]; rfl, l, _, List.append_assoc .., rfl, ‹_›⟩
  · rintro ⟨rfl, l, _ | ⟨c, r⟩, rfl, rfl, h⟩
    · cases h
    · exact ⟨l, [c], r, by simp, rfl, by simp, .one h⟩

private theorem leads_seq : Leads (seq a b) s i j ↔ ∃ k, Leads a s i k ∧ Leads b s k j := by
  constructor
  · rintro ⟨l, _, r, rfl, rfl, rfl, hm⟩
    cases hm with
    | @seq _ _ _ u v _ ha hb =>
      exact ⟨(l ++ u).length, ⟨l, u, v ++ r, by simp, rfl, rfl, ha⟩,
        l ++ u, v, r, by simp, rfl, by simp, hb⟩
  · rintro ⟨k, ⟨l, u, r, rfl, rfl, rfl, ha⟩, l', v, r', hs, hk, rfl, hb⟩
    rw [List.append_assoc l'] at hs
    obtain ⟨rfl, rfl⟩ := List.append_inj hs hk
    exact ⟨l, u ++ v, r', by simp, rfl, by simp, .seq ha hb⟩

private theorem leads_alt : Leads (alt a b) s i j ↔ Leads a s i j ∨ Leads b s i j := by
  constructor
  · rintro ⟨l, u, r, hs, hi, hj, hm⟩
    cases hm with
    | altLeft h => exact .inl ⟨l, u, r, hs, hi, hj, h⟩
    | altRight h => exact .inr ⟨l, u, r, hs, hi, hj, h⟩
  · rintro (⟨l, u, r, hs, hi, hj, h⟩ | ⟨l, u, r, hs, hi, hj, h⟩)
    · exact ⟨l, u, r, hs, hi, hj, .altLeft h⟩
    · exact ⟨l, u, r, hs, hi, hj, .altRight h⟩

/-! ### Rounds of loops -/

theorem matches_rounds_zero {l u r : List Char} : Matches (rounds a 0) l u r ↔ u = [] := by
  constructor
  · rintro (_ | _ | _ | _ | _ | _ | _ | ⟨hmost, -, -⟩)
    · rfl
    · exact absurd rfl hmost
  · rintro rfl
    exact .loopEnd

/-- The first of several rounds and those after it are matches in a row. -/
theorem matches_rounds_succ {n : Nat} {l u r : List Char} :
    Matches (rounds a (n + 1)) l u r ↔ Matches (seq a (rounds a n)) l u r := by
  constructor
  · rintro ⟨⟩
    exact .seq ‹_› ‹_›
  · rintro (_ | _ | _ | ⟨ha, hl⟩)
    exact .loopNext (by simp) ha hl

/-- A loop matches what some number of rounds within its bounds matches. -/
theorem matches_loop {least : Nat} {most : Option Nat} {l u r : List Char} :
    Matches (loop a least most) l u r ↔
      ∃ n, least ≤ n ∧ (∀ m ∈ most, n ≤ m) ∧ Matches (rounds a n) l u r := by
  constructor
  · intro h
    generalize hb : loop a least most = b at h
    induction h generalizing least most with
    | loopEnd =>
      obtain ⟨rfl, rfl, rfl⟩ := loop.inj hb
      exact ⟨0, Nat.le_refl 0, fun _ _ => Nat.zero_le _, matches_rounds_zero.2 rfl⟩
    | loopNext hmost ha _ _ ih =>
      obtain ⟨rfl, rfl, rfl⟩ := loop.inj hb
      obtain ⟨n, hleast, hle, hn⟩ := ih rfl
      refine ⟨n + 1, Nat.le_add_of_sub_le hleast, fun m hm => ?_,
        matches_rounds_succ.2 (.seq ha hn)⟩
      obtain rfl := Option.mem_def.1 hm
      have hpos : m ≠ 0 := fun h => hmost (congrArg some h)
      have := hle (m - 1) rfl
      omega
    | _ => cases hb
  · rintro ⟨n, hleast, hle, hn⟩
    induction n generalizing least most l u with
    | zero =>
      obtain rfl := matches_rounds_zero.1 hn
      obtain rfl := Nat.le_zero.1 hleast
      exact .loopEnd
    | succ n ih =>
      cases matches_rounds_succ.1 hn with
      | seq ha hl =>
        refine .loopNext (fun h => absurd (hle 0 h) (Nat.not_succ_le_zero n)) ha
          (ih (Nat.sub_le_of_le_add hleast) (fun m hm => ?_) hl)
        obtain ⟨bound, hbound, rfl⟩ := Option.mem_map.1 hm
        have := hle bound hbound
        omega

private theorem leads_rounds_zero : Leads (rounds a 0) s i j ↔ i = j ∧ i ≤ s.length := by
  rw [← leads_empty]
  have h (l u r : List Char) : Matches (rounds a 0) l u r ↔ Matches empty l u r := by
    rw [matches_rounds_zero]
    exact ⟨by rintro rfl; exact .empty, by rintro ⟨⟩; rfl⟩
  simp only [Leads, h]

private theorem leads_rounds_succ {n : Nat} :
    Leads (rounds a (n + 1)) s i j ↔ ∃ k, Leads a s i k ∧ Leads (rounds a n) s k j := by
  rw [← leads_seq]
  simp only [Leads, matches_rounds_succ]

private theorem leads_loop {least : Nat} {most : Option Nat} :
    Leads (loop a least most) s i j ↔
      ∃ n, least ≤ n ∧ (∀ m ∈ most, n ≤ m) ∧ Leads (rounds a n) s i j := by
  simp only [Leads, matches_loop]
  constructor
  · rintro ⟨l, u, r, hs, hi, hj, n, hleast, hle, hn⟩
    exact ⟨n, hleast, hle, l, u, r, hs, hi, hj, hn⟩
  · rintro ⟨n, hleast, hle, l, u, r, hs, hi, hj, hn⟩
    exact ⟨l, u, r, hs, hi, hj, n, hleast, hle, hn⟩

private theorem leads_rounds_add {m n : Nat} :
    Leads (rounds a (m + n)) s i j ↔ ∃ k, Leads (rounds a m) s i k ∧ Leads (rounds a n) s k j := by
  induction m generalizing i with
  | zero =>
    simp only [Nat.zero_add, leads_rounds_zero]
    constructor
    · intro h
      exact ⟨i, ⟨rfl, Nat.le_trans h.le h.le_length⟩, h⟩
    · rintro ⟨k, ⟨rfl, -⟩, h⟩
      exact h
  | succ m ih =>
    rw [Nat.succ_add_eq_add_succ, Nat.add_succ, leads_rounds_succ]
    simp only [ih, leads_rounds_succ]
    constructor
    · rintro ⟨k, hk, k', hm, hn⟩
      exact ⟨k', ⟨k, hk, hm⟩, hn⟩
    · rintro ⟨k', ⟨k, hk, hm⟩, hn⟩
      exact ⟨k, hk, k', hm, hn⟩

/-- Rounds that match the empty text can be left out, and every other one goes on by a place or more. -/
theorem leads_rounds_short {n : Nat} (h : Leads (rounds a n) s i j) :
    ∃ m, m ≤ j - i ∧ Leads (rounds a m) s i j := by
  induction n generalizing i with
  | zero => exact ⟨0, Nat.zero_le _, h⟩
  | succ n ih =>
    obtain ⟨k, hk, hn⟩ := leads_rounds_succ.1 h
    obtain ⟨m, hm, hshort⟩ := ih hn
    rcases Nat.eq_or_lt_of_le hk.le with rfl | hlt
    · exact ⟨m, hm, hshort⟩
    · have := hn.le
      exact ⟨m + 1, by omega, leads_rounds_succ.2 ⟨k, hk, hshort⟩⟩

end

/-! ### The search -/

/-- Whether a function carries every set of places of a text along a relation between places. -/
def Carries (s : List Char) (f : Nat → Nat) (relation : Nat → Nat → Prop) : Prop :=
  ∀ places, Within s places → ∀ j,
    (f places).testBit j = true ↔ ∃ i, places.testBit i = true ∧ relation i j

private theorem Carries.within {s : List Char} {f : Nat → Nat} {a : Regex} (h : Carries s f (Leads a s))
    {places : Nat} (hp : Within s places) : Within s (f places) := by
  intro j hj
  obtain ⟨i, -, hlead⟩ := (h places hp j).1 hj
  exact hlead.le_length

private theorem repeatUntilSteady_eq_iterate (f : Nat → Nat) (n places : Nat) :
    repeatUntilSteady f n places = f^[n] places := by
  induction n generalizing places with
  | zero => rfl
  | succ n ih =>
    rw [repeatUntilSteady, Function.iterate_succ_apply]
    split
    next hsteady => rw [hsteady, Function.iterate_fixed hsteady]
    next => exact ih (f places)

section
variable {a : Regex} {s : List Char} {f : Nat → Nat}

private theorem Carries.iterate (h : Carries s f (Leads a s)) (n : Nat) :
    Carries s f^[n] (Leads (rounds a n) s) := by
  intro places hp j
  induction n generalizing places with
  | zero =>
    simp only [leads_rounds_zero]
    constructor
    · intro hj
      exact ⟨j, hj, rfl, hp j hj⟩
    · rintro ⟨i, hi, rfl, -⟩
      exact hi
  | succ n ih =>
    rw [Function.iterate_succ_apply, ih _ (h.within hp)]
    simp only [h places hp, leads_rounds_succ]
    constructor
    · rintro ⟨k, ⟨i, hi, hik⟩, hkj⟩
      exact ⟨i, hi, k, hik, hkj⟩
    · rintro ⟨i, hi, k, hik, hkj⟩
      exact ⟨k, ⟨i, hi, hik⟩, hkj⟩

/-- Rounds that keep what was reached before reach what any number of rounds reaches, up to theirs. -/
theorem Carries.iterate_or (h : Carries s f (Leads a s)) (n : Nat) :
    Carries s (fun reached => reached ||| f reached)^[n]
      (fun i j => ∃ m ≤ n, Leads (rounds a m) s i j) := by
  intro places hp j
  induction n generalizing places with
  | zero =>
    simp only [Nat.le_zero, exists_eq_left]
    exact h.iterate 0 places hp j
  | succ n ih =>
    have hor (k : Nat) : (places ||| f places).testBit k = true ↔
        places.testBit k = true ∨ ∃ i, places.testBit i = true ∧ Leads a s i k := by
      rw [Nat.testBit_or, Bool.or_eq_true, h places hp]
    have hwithin : Within s (places ||| f places) := fun k hk => by
      rcases (hor k).1 hk with hk | ⟨i, -, hlead⟩
      · exact hp k hk
      · exact hlead.le_length
    rw [Function.iterate_succ_apply, ih _ hwithin]
    simp only [hor]
    constructor
    · rintro ⟨k, hk | ⟨i, hi, hik⟩, m, hm, hkj⟩
      · exact ⟨k, hk, m, Nat.le_succ_of_le hm, hkj⟩
      · exact ⟨i, hi, m + 1, Nat.succ_le_succ hm, leads_rounds_succ.2 ⟨k, hik, hkj⟩⟩
    · rintro ⟨i, hi, _ | m, hm, hij⟩
      · exact ⟨i, .inl hi, 0, Nat.zero_le n, hij⟩
      · obtain ⟨k, hik, hkj⟩ := leads_rounds_succ.1 hij
        exact ⟨k, .inr ⟨i, hi, hik⟩, m, Nat.le_of_succ_le_succ hm, hkj⟩

end

/-- Whether no loop of a regular expression asks for more rounds than it allows. -/
def Ordered : Regex → Prop
  | seq a b | alt a b => a.Ordered ∧ b.Ordered
  | loop a least most => a.Ordered ∧ ∀ n ∈ most, least ≤ n
  | _ => True

/-- As many rounds of a loop as there are places reach what any number of rounds reaches. -/
theorem leads_loop_iff {a : Regex} {s : List Char} {i j least : Nat} {most : Option Nat}
    (hmost : ∀ n ∈ most, least ≤ n) :
    Leads (loop a least most) s i j ↔ ∃ k, Leads (rounds a least) s i k ∧
      ∃ m ≤ (most.map (· - least)).getD (s.length + 1), Leads (rounds a m) s k j := by
  rw [leads_loop]
  constructor
  · rintro ⟨n, hleast, hle, hn⟩
    obtain ⟨m, rfl⟩ := Nat.exists_eq_add_of_le hleast
    obtain ⟨k, hik, hkj⟩ := leads_rounds_add.1 hn
    cases most with
    | none =>
      obtain ⟨m', hm', hshort⟩ := leads_rounds_short hkj
      have := hkj.le_length
      exact ⟨k, hik, m', by simp only [Option.map_none, Option.getD_none]; omega, hshort⟩
    | some n =>
      have := hle n rfl
      exact ⟨k, hik, m, by simp only [Option.map_some, Option.getD_some]; omega, hkj⟩
  · rintro ⟨k, hik, m, hm, hkj⟩
    refine ⟨least + m, Nat.le_add_right _ _, fun n hn => ?_, leads_rounds_add.2 ⟨k, hik, hkj⟩⟩
    obtain rfl := Option.mem_def.1 hn
    have := hmost n rfl
    simp only [Option.map_some, Option.getD_some] at hm
    omega

/-- The moves of a regular expression carry sets of places to where it leads. -/
theorem carries_moves (s : List Char) {a : Regex} (h : a.Ordered) :
    Carries s (a.moves s).run (Leads a s) := by
  induction a with
  | empty =>
    intro places hp j
    simp only [moves, Moves.run, Nat.testBit_and, Bool.and_eq_true, testBit_allPlaces, leads_empty]
    constructor
    · rintro ⟨hj, hle⟩
      exact ⟨j, hj, rfl, hle⟩
    · rintro ⟨i, hi, rfl, hle⟩
      exact ⟨hi, hle⟩
  | one k =>
    intro places hp j
    simp only [moves, Moves.run, Nat.testBit_shiftLeft, Nat.testBit_and, Bool.and_eq_true,
      decide_eq_true_eq, testBit_placesWhere, leads_one]
    constructor
    · rintro ⟨hpos, hj, hk⟩
      exact ⟨j - 1, hj, (Nat.sub_add_cancel hpos).symm, hk⟩
    · rintro ⟨i, hi, rfl, hk⟩
      exact ⟨Nat.le_add_left 1 i, hi, hk⟩
  | assert condition =>
    intro places hp j
    simp only [moves, Moves.run, Nat.testBit_and, Bool.and_eq_true, testBit_placesWhere,
      leads_assert, Option.or_none]
    constructor
    · rintro ⟨hj, hc⟩
      exact ⟨j, hj, rfl, hc⟩
    · rintro ⟨i, hi, rfl, hc⟩
      exact ⟨hi, hc⟩
  | seq a b iha ihb =>
    intro places hp j
    rw [moves, Moves.run, ihb h.2 _ ((iha h.1).within hp)]
    simp only [iha h.1 places hp, leads_seq]
    constructor
    · rintro ⟨k, ⟨i, hi, hik⟩, hkj⟩
      exact ⟨i, hi, k, hik, hkj⟩
    · rintro ⟨i, hi, k, hik, hkj⟩
      exact ⟨k, ⟨i, hi, hik⟩, hkj⟩
  | alt a b iha ihb =>
    intro places hp j
    rw [moves, Moves.run, Nat.testBit_or, Bool.or_eq_true, iha h.1 places hp, ihb h.2 places hp]
    simp only [leads_alt, and_or_left, exists_or]
  | loop a least most ih =>
    intro places hp j
    have hrounds := (ih h.1).iterate least
    rw [moves, Moves.run, repeatUntilSteady_eq_iterate, repeatUntilSteady_eq_iterate,
      (ih h.1).iterate_or _ _ (hrounds.within hp)]
    simp only [hrounds places hp, leads_loop_iff h.2]
    constructor
    · rintro ⟨k, ⟨i, hi, hik⟩, hkj⟩
      exact ⟨i, hi, k, hik, hkj⟩
    · rintro ⟨i, hi, k, hik, hkj⟩
      exact ⟨k, ⟨i, hi, hik⟩, hkj⟩

/-- A regular expression is found in a text exactly when it matches some part of it. -/
theorem occursIn_eq_true_iff {a : Regex} (h : a.Ordered) (s : List Char) :
    a.occursIn s = true ↔ a.OccursIn s := by
  have hbits := carries_moves s h (allPlaces s) fun i hi => (testBit_allPlaces s i).1 hi
  rw [occursIn, bne_iff_ne]
  constructor
  · intro hne
    obtain ⟨j, hj⟩ := Nat.exists_testBit_of_ne_zero hne
    obtain ⟨i, -, l, u, r, hs, -, -, hm⟩ := (hbits j).1 hj
    exact ⟨l, u, r, hs, hm⟩
  · rintro ⟨l, u, r, rfl, hm⟩ hzero
    have hplace : l.length ≤ (l ++ u ++ r).length := by
      rw [List.append_assoc, List.length_append]
      exact Nat.le_add_right _ _
    have hj := (hbits (l ++ u).length).2
      ⟨l.length, (testBit_allPlaces _ _).2 hplace, l, u, r, rfl, rfl, rfl, hm⟩
    rw [hzero, Nat.zero_testBit] at hj
    cases hj

end PagePolicy.Regex
