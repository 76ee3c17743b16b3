import PagePolicy.Proofs.Condition.Tokens

/-! Tokens do not depend on what stands before them. Behind another text the same tokens are read, at offsets that are
larger by the length of that text, also by a reader that goes back to places it has saved. -/

namespace PagePolicy.Condition

open Text

section
variable (before text : String) (offset : Nat)

/-- It makes no difference here whether a character starts at the offset. -/
theorem lexemeAt_append :
    lexemeAt (before ++ text) (byteLength before.toList + offset) =
      (lexemeAt text offset).shift (byteLength before.toList) := by
  simp only [lexemeAt, String.toList_append, dropBytes?_append]
  cases dropBytes? text.toList offset with
  | none => rfl
  | some s => exact congrArg Prod.fst (nextLexeme_add _ offset s)

private theorem lexemesAt_append :
    lexemesAt (before ++ text) (byteLength before.toList + offset) =
      (lexemesAt text offset).map (.shift (byteLength before.toList)) := by
  simp only [lexemesAt, String.toList_append, dropBytes?_append]
  cases dropBytes? text.toList offset with
  | none => rfl
  | some s =>
    simp only [lexemesFrom_add, List.map_append]
    rfl

end

namespace TokenReader

/-- The reader at the same place of the same text when that text stands behind another one. -/
def behind (before : String) (r : TokenReader) : TokenReader where
  text := before ++ r.text
  cursor := byteLength before.toList + r.cursor
  saved := r.saved.map (byteLength before.toList + ·)

/-- The step that leads to the same place of a text that stands behind so many bytes. -/
def Step.behind (n : Nat) : Step → Step
  | .moveTo offset => .moveTo (n + offset)
  | step => step

def afterAll (r : TokenReader) (steps : List Step) : TokenReader :=
  steps.foldl after r

/-- Whether a reader goes back only to places that were saved. Without a saved place it would go back to the start of
its text, and what stands there is not the same behind another text. -/
def FindsSaved (r : TokenReader) : List Step → Prop
  | [] => True
  | step :: steps => (step = .restore → r.saved ≠ []) ∧ (r.after step).FindsSaved steps

section
variable (before : String) (r : TokenReader)

private theorem peek_behind : (r.behind before).peek = r.peek.shift (byteLength before.toList) :=
  lexemeAt_append before r.text r.cursor

private theorem remaining_behind : (r.behind before).remaining = r.remaining := by
  simp only [remaining, behind, String.toList_append, dropBytes?_append]

variable {r}

/-- A step keeps readers at the same place. -/
theorem after_behind {step : Step} (h : step = .restore → r.saved ≠ []) :
    (r.behind before).after (step.behind (byteLength before.toList)) = (r.after step).behind before := by
  cases step with
  | next =>
    simp only [Step.behind, after, peek_behind]
    rfl
  | save => rfl
  | restore =>
    obtain ⟨place, saved, hsaved⟩ := List.exists_cons_of_ne_nil (h rfl)
    simp only [Step.behind, after, behind, hsaved]
    rfl
  | moveTo offset => rfl

/-- So does any number of steps. -/
theorem afterAll_behind {steps : List Step} (h : r.FindsSaved steps) :
    (r.behind before).afterAll (steps.map (·.behind (byteLength before.toList))) =
      (r.afterAll steps).behind before := by
  induction steps generalizing r with
  | nil => rfl
  | cons step steps ih =>
    calc
      (r.behind before).afterAll ((step :: steps).map (·.behind (byteLength before.toList)))
      _ = ((r.after step).behind before).afterAll (steps.map (·.behind (byteLength before.toList))) := by
        rw [← after_behind before h.1]
        rfl
      _ = (r.afterAll (step :: steps)).behind before := ih h.2

end

/-- A reader that goes back reads on where it was when it saved the place. -/
theorem peek_restore {r : TokenReader} {place : Nat} (h : r.saved.head? = some place) :
    (r.after .restore).peek = lexemeAt r.text place := by
  obtain ⟨saved, hsaved⟩ := List.head?_eq_some_iff.1 h
  simp only [peek, after, hsaved, List.headD_cons]

end TokenReader

/-- Tokens are read alike behind any text. At an offset that is larger by the length of that text stands the same
token, and its start and its stop are as much larger; so are those of all tokens after it. This is what a reader reads
too when it goes back to such an offset, whatever it has read before. And a run of steps that goes back to saved places
only keeps to the same places behind the text, reads the same tokens there and leaves the same text. -/
theorem tokens_alike_behind (before text : String) :
    let n := byteLength before.toList
    (∀ offset,
      let found := lexemeAt text offset
      lexemeAt (before ++ text) (n + offset) = ⟨found.token, n + found.start, n + found.stop⟩ ∧
        lexemesAt (before ++ text) (n + offset) = (lexemesAt text offset).map (.shift n) ∧
        ∀ r : TokenReader, r.text = before ++ text → r.saved.head? = some (n + offset) →
          (r.after .restore).peek = ⟨found.token, n + found.start, n + found.stop⟩ ∧
            ((r.after .restore).after .next).cursor = n + found.stop) ∧
      ∀ (cursor : Nat) (saved : List Nat) (steps : List TokenReader.Step),
        let r : TokenReader := ⟨text, cursor, saved⟩
        r.FindsSaved steps →
        let reached := r.afterAll steps
        let moved := (r.behind before).afterAll (steps.map (·.behind n))
        moved = reached.behind before ∧ moved.peek = reached.peek.shift n ∧
          moved.remaining = reached.remaining := by
  intro n
  constructor
  · intro offset found
    have hfound : lexemeAt (before ++ text) (n + offset) = found.shift n := lexemeAt_append before text offset
    refine ⟨hfound, lexemesAt_append before text offset, fun r htext hsaved => ?_⟩
    have hpeek : (r.after .restore).peek = found.shift n := by
      rw [TokenReader.peek_restore hsaved, htext, hfound]
    exact ⟨hpeek, congrArg Lexeme.stop hpeek⟩
  · intro cursor saved steps r hsteps reached moved
    have hmoved : moved = reached.behind before := TokenReader.afterAll_behind before hsteps
    refine ⟨hmoved, ?_, ?_⟩
    · rw [hmoved, TokenReader.peek_behind]
    · rw [hmoved, TokenReader.remaining_behind]

theorem tokens_alike_behind_restored :
    let later : TokenReader := ⟨"title=\"é\" | b=~/x/i", 20, [11]⟩
    let r : TokenReader := ⟨"| b=~/x/i", 0, []⟩
    let steps : List TokenReader.Step := [.next, .save, .moveTo 6, .next, .restore]
    ((later.after .restore).peek = ⟨.or, 11, 12⟩ ∧ ((later.after .restore).after .next).cursor = 12) ∧
      r.FindsSaved steps ∧
        ((r.behind "title=\"é\" ").afterAll (steps.map (·.behind 11))).peek = ⟨.operator "b" "=~", 13, 16⟩ := by
  have hbehind := tokens_alike_behind "title=\"é\" " "| b=~/x/i"
  have hsteps : (⟨"| b=~/x/i", 0, []⟩ : TokenReader).FindsSaved [.next, .save, .moveTo 6, .next, .restore] := by
    simp [TokenReader.FindsSaved, TokenReader.after]
  refine ⟨(hbehind.1 0).2.2 ⟨"title=\"é\" | b=~/x/i", 20, [11]⟩ rfl rfl, hsteps, ?_⟩
  exact (hbehind.2 0 [] _ hsteps).2.1

end PagePolicy.Condition
