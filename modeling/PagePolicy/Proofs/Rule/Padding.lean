import Mathlib.Data.List.Forall2
import PagePolicy.Decision
import PagePolicy.Lint
import PagePolicy.Proofs.Rule.Lines
import PagePolicy.Proofs.Text.Trimmed

/-! Blanks and byte order marks around the lines of a text. They change nothing about its rules, the decisions
of these and what is found about them, whatever the lines hold. -/

namespace PagePolicy

/-! ### Texts whose lines are read alike -/

namespace Ruleset

/-- What lines write depends on what each of them is read as. -/
theorem rulesFrom_eq (n : Nat) (lines : List String) :
    rulesFrom n lines = ((lines.map Line.read).zipIdx n).filterMap fun (l, k) => l.map (Line.rule k) := by
  rw [List.zipIdx_map, List.filterMap_map]
  rfl

section
variable {r q : Ruleset}

private theorem read_line?_congr (hlines : r.lines.map Line.read = q.lines.map Line.read) (n : Nat) :
    (r.line? n).bind Line.read = (q.line? n).bind Line.read := by
  cases n with
  | zero => rfl
  | succ k =>
    have hat (r : Ruleset) : (r.line? (k + 1)).bind Line.read = (r.lines.map Line.read)[k]?.bind id := by
      rw [line?, List.getElem?_map, Option.bind_map, Function.id_comp]
    rw [hat, hat, hlines]

/-- The findings about rules depend on their lines by what these are read as. -/
theorem diagnosticsAfter_congr [Regex.Engine] (hlines : r.lines.map Line.read = q.lines.map Line.read)
    (earlier rules : List Rule) : diagnosticsAfter r earlier rules = diagnosticsAfter q earlier rules := by
  induction rules generalizing earlier with
  | nil => rfl
  | cons rule rules ih =>
    have hsource : rule.sourceFindings r = rule.sourceFindings q := by
      rw [Rule.sourceFindings, read_line?_congr hlines, Rule.sourceFindings]
    rw [diagnosticsAfter, diagnosticsAfter, ih, Rule.findings, hsource, Rule.findings]

private theorem lint_congr [Regex.Engine] (hrules : r.rules = q.rules)
    (hlines : r.lines.map Line.read = q.lines.map Line.read) :
    r.lint = q.lint := by
  simp only [lint, countAction, hrules, diagnosticsAfter_congr hlines]

end

end Ruleset

/-! ### Padded lines -/

/-- A line with blanks or byte order marks added before and after it. -/
def Line.PadsTo (raw padded : String) : Prop :=
  ∃ before after : List Char, padded.toList = before ++ raw.toList ++ after ∧
    ∀ c ∈ before ++ after, (Text.isBlank c = true ∨ c = '\uFEFF') ∧ c ≠ '\n'

/-- A text with such characters added at the start and at the end of its lines. -/
def Ruleset.PadsTo (text padded : String) : Prop :=
  ∃ lines, List.Forall₂ Line.PadsTo (linesOf text) lines ∧ padded = "\n".intercalate lines

namespace Line

variable {raw padded : String}

private theorem PadsTo.refl (raw : String) : PadsTo raw raw :=
  ⟨[], [], by simp, by simp⟩

/-- A line is read without what surrounds it. -/
theorem PadsTo.read_eq (h : PadsTo raw padded) : read padded = read raw := by
  obtain ⟨before, after, hpadded, hpad⟩ := h
  have hspace (c : Char) (hc : c ∈ before ++ after) : isSpace c = true := by
    rw [isSpace, Bool.or_eq_true, decide_eq_true_eq]
    exact (hpad c hc).1
  have htrim : Text.trim isSpace padded.toList = Text.trim isSpace raw.toList := by
    rw [hpadded]
    apply Text.trim_append_append
    · intro c hc
      exact hspace c (List.mem_append_left after hc)
    · intro c hc
      exact hspace c (List.mem_append_right before hc)
  rw [read, htrim, read]

private theorem PadsTo.not_mem (h : PadsTo raw padded) (hraw : '\n' ∉ raw.toList) : '\n' ∉ padded.toList := by
  obtain ⟨before, after, hpadded, hpad⟩ := h
  have hbreak : '\n' ∉ before ++ after := fun hin => (hpad _ hin).2 rfl
  simp only [List.mem_append, not_or] at hbreak
  simp only [hpadded, List.mem_append, not_or]
  exact ⟨⟨hbreak.1, hraw⟩, hbreak.2⟩

end Line

/-! ### Padded texts -/

private theorem Line.not_mem_of_padsTo {raws lines : List String} (h : List.Forall₂ PadsTo raws lines)
    (hraws : ∀ raw ∈ raws, '\n' ∉ raw.toList) : ∀ line ∈ lines, '\n' ∉ line.toList := by
  induction h with
  | nil => exact hraws
  | cons hfirst _ ih =>
    obtain ⟨hraw, hrest⟩ := List.forall_mem_cons.1 hraws
    exact List.forall_mem_cons.2 ⟨hfirst.not_mem hraw, ih hrest⟩

private theorem Line.map_read_of_padsTo {raws lines : List String} (h : List.Forall₂ PadsTo raws lines) :
    lines.map read = raws.map read := by
  induction h with
  | nil => rfl
  | cons hline _ ih => rw [List.map_cons, hline.read_eq, ih, List.map_cons]

namespace Ruleset

variable {text padded : String}

private theorem linesOf_ne_nil (text : String) : linesOf text ≠ [] := by
  intro hnil
  exact List.splitOn_ne_nil _ _ (List.map_eq_nil_iff.1 hnil)

/-- A padded text has the padded lines: what is added does not end a line. -/
theorem PadsTo.lines (h : PadsTo text padded) : List.Forall₂ Line.PadsTo (linesOf text) (linesOf padded) := by
  obtain ⟨lines, hlines, rfl⟩ := h
  have hne : lines ≠ [] := by
    rintro rfl
    exact linesOf_ne_nil text (List.forall₂_nil_right_iff.1 hlines)
  rwa [linesOf_intercalate hne (Line.not_mem_of_padsTo hlines fun _ => not_mem_of_mem_linesOf)]

private theorem PadsTo.map_read (h : PadsTo text padded) :
    (linesOf padded).map Line.read = (linesOf text).map Line.read :=
  Line.map_read_of_padsTo h.lines

private theorem PadsTo.rules (h : PadsTo text padded) : (parse padded).rules = (parse text).rules := by
  rw [parse, rulesFrom_eq, h.map_read, ← rulesFrom_eq, parse]

/-- A carriage return at the end of each line but the last one pads these lines. -/
theorem padsTo_carriageReturns (text : String) : PadsTo text ("\r\n".intercalate (linesOf text)) := by
  have hreturn (raw : String) : Line.PadsTo raw (raw ++ "\r") :=
    ⟨[], ['\r'], by simp, List.forall_mem_singleton.2 (by decide)⟩
  have hlines (lines : List String) : ∃ padded, List.Forall₂ Line.PadsTo lines padded ∧
      "\r\n".intercalate lines = "\n".intercalate padded := by
    induction lines with
    | nil => exact ⟨[], .nil, rfl⟩
    | cons raw rest ih =>
      obtain ⟨padded, hpads, htext⟩ := ih
      cases hpads with
      | nil => exact ⟨[raw], .cons (.refl raw) .nil, by simp⟩
      | cons hfirst hrest =>
        refine ⟨(raw ++ "\r") :: _ :: _, .cons (hreturn raw) (.cons hfirst hrest), ?_⟩
        have hmarks : "\r\n" = "\r" ++ "\n" := rfl
        rw [String.intercalate_cons_cons, htext, String.intercalate_cons_cons, hmarks, ← String.append_assoc]
  exact hlines (linesOf text)

/-- A byte order mark at the start of a text pads the first line. -/
theorem padsTo_byteOrderMark (text : String) : PadsTo text ("\uFEFF" ++ text) := by
  have hmark (raw : String) : Line.PadsTo raw ("\uFEFF" ++ raw) :=
    ⟨['\uFEFF'], [], by simp, List.forall_mem_singleton.2 (by decide)⟩
  cases hlines : linesOf text with
  | nil => exact absurd hlines (linesOf_ne_nil text)
  | cons raw rest =>
    refine ⟨("\uFEFF" ++ raw) :: rest, ?_, ?_⟩
    · rw [hlines]
      exact .cons (hmark raw) (List.forall₂_same.2 fun raw _ => .refl raw)
    · rw [String.intercalate_cons_append, ← hlines, intercalate_linesOf]

/-- Carriage returns at the ends of the lines, a byte order mark at the start of the text, and any blanks around
the lines, are padding. A padded text has the same rules with the same numbers of lines, the same rule
decides on each page, and the report about it is the same, down to the offsets in its conditions. -/
theorem padding_changes_nothing [Regex.Engine] (text : String) :
    PadsTo text ("\r\n".intercalate (linesOf text)) ∧ PadsTo text ("\uFEFF" ++ text) ∧
      ∀ padded, PadsTo text padded →
        (parse padded).rules = (parse text).rules ∧
          (∀ p, (Matcher.ofRuleset (parse padded)).winnerIndex p = (Matcher.ofRuleset (parse text)).winnerIndex p ∧
            (parse padded).verdict p = (parse text).verdict p) ∧
          (parse padded).lint = (parse text).lint := by
  refine ⟨padsTo_carriageReturns text, padsTo_byteOrderMark text, fun padded h => ?_⟩
  have hmatcher : Matcher.ofRuleset (parse padded) = Matcher.ofRuleset (parse text) := by
    rw [Matcher.ofRuleset, h.rules, Matcher.ofRuleset]
  refine ⟨h.rules, fun p => ⟨?_, ?_⟩, lint_congr h.rules h.map_read⟩
  · rw [hmatcher]
  · rw [verdict, hmatcher, verdict]

/-- A byte order mark, carriage returns and blanks that are not of ASCII leave the number of the line and the
offset of the error as they are. -/
theorem padding_changes_nothing_marked :
    let text := "# notes\n@7 a.org/* @if (title=oops)"
    let padded := "\uFEFF# notes\r\n\u2003@7 a.org/* @if (title=oops)\u00A0\r"
    PadsTo text padded ∧ (parse padded).rules = [⟨.highlight, "a.org/*", 2, some 7, none⟩] ∧
      (parse padded).lint.diagnostics =
        [⟨2, .invalidCondition (.unexpected 6 .quotedString "identifier `oops`")⟩] := by
  intro text padded
  have hlines : linesOf text = ["# notes", "@7 a.org/* @if (title=oops)"] := by decide +kernel
  have hpads : PadsTo text padded := by
    refine ⟨["\uFEFF# notes\r", "\u2003@7 a.org/* @if (title=oops)\u00A0\r"], ?_, by decide +kernel⟩
    rw [hlines]
    have hfirst : Line.PadsTo "# notes" "\uFEFF# notes\r" := by
      refine ⟨['\uFEFF'], ['\r'], by decide, List.forall_mem_cons.2 ⟨by decide, ?_⟩⟩
      exact List.forall_mem_singleton.2 (by decide)
    have hsecond : Line.PadsTo "@7 a.org/* @if (title=oops)" "\u2003@7 a.org/* @if (title=oops)\u00A0\r" := by
      refine ⟨['\u2003'], ['\u00A0', '\r'], by decide, List.forall_mem_cons.2 ⟨by decide, ?_⟩⟩
      exact List.forall_mem_cons.2 ⟨by decide, List.forall_mem_singleton.2 (by decide)⟩
    exact .cons hfirst (.cons hsecond .nil)
  obtain ⟨hrules, -, hlint⟩ := (padding_changes_nothing text).2.2 padded hpads
  refine ⟨hpads, ?_, ?_⟩
  · rw [hrules]
    decide +kernel
  · rw [hlint]
    decide +kernel

end Ruleset

end PagePolicy
