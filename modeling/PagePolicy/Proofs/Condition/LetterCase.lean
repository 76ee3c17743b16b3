import PagePolicy.Condition.Eval
import PagePolicy.Proofs.Text.Lowercase
import PagePolicy.Proofs.Text.Search

/-! Comparisons that ignore the case of letters, beside those that do not. Both texts are compared in lower
case, and the lower case of a capital sigma depends on what stands around it: a text that occurs in another
one need not do so in lower case. -/

namespace PagePolicy

namespace CompareKind

/-- What can stand before and after a text where a comparison looks for it. -/
def Allows (before after : List Char) : CompareKind → Prop
  | equals => before = [] ∧ after = []
  | startsWith => before = []
  | endsWith => after = []
  | contains => True

/-- Whether a text stands in another one where a comparison looks for it, and each of its capital sigmas ends a
word there exactly if it ends one in the text on its own. -/
def Keeps (kind : CompareKind) (actual expected : List Char) : Prop :=
  ∃ before after, actual = before ++ (expected ++ after) ∧ kind.Allows before after ∧
    Text.KeepsSigmas before expected after

section
variable {kind : CompareKind} {actual expected : List Char}

private theorem holds_iff : kind.holds actual expected = true ↔
    ∃ before after, actual = before ++ (expected ++ after) ∧ kind.Allows before after := by
  cases kind with
  | equals =>
    constructor
    · intro h
      exact ⟨[], [], (of_decide_eq_true h).trans (List.append_nil _).symm, rfl, rfl⟩
    · rintro ⟨_, _, rfl, rfl, rfl⟩
      exact decide_eq_true (List.append_nil _)
  | startsWith =>
    constructor
    · intro h
      obtain ⟨after, hafter⟩ := List.isPrefixOf_iff_prefix.1 h
      exact ⟨[], after, hafter.symm, rfl⟩
    · rintro ⟨_, after, rfl, rfl⟩
      exact List.isPrefixOf_iff_prefix.2 (List.prefix_append expected after)
  | endsWith =>
    constructor
    · intro h
      obtain ⟨before, hbefore⟩ := List.isSuffixOf_iff_suffix.1 h
      exact ⟨before, [], by rw [List.append_nil, hbefore], rfl⟩
    · rintro ⟨before, _, rfl, rfl⟩
      rw [List.append_nil]
      exact List.isSuffixOf_iff_suffix.2 (List.suffix_append before expected)
  | contains =>
    constructor
    · intro h
      obtain ⟨before, after, hactual⟩ := Text.occursIn_iff.1 h
      exact ⟨before, after, by rw [← hactual, List.append_assoc], trivial⟩
    · rintro ⟨before, after, rfl, -⟩
      exact Text.occursIn_iff.2 ⟨before, after, List.append_assoc ..⟩

/-- Where the sigmas are kept, a text is found in lower case as well. -/
theorem Keeps.holds_lowercase (h : kind.Keeps actual expected) :
    kind.holds (Text.lowercase actual) (Text.lowercase expected) = true := by
  obtain ⟨before, after, rfl, hallows, hkeeps⟩ := h
  cases kind with
  | equals =>
    obtain ⟨rfl, rfl⟩ := hallows
    rw [List.nil_append, List.append_nil]
    exact decide_eq_true rfl
  | startsWith =>
    obtain rfl := hallows
    exact List.isPrefixOf_iff_prefix.2 (Text.lowercase_prefix_iff.2 hkeeps)
  | endsWith =>
    obtain rfl := hallows
    rw [List.append_nil]
    exact List.isSuffixOf_iff_suffix.2 (Text.lowercase_suffix_iff.2 hkeeps)
  | contains => exact Text.occursIn_iff.2 (Text.lowercase_infix hkeeps)

/-- At the two ends of a text there is just one place where the other one can be found. -/
theorem keeps_of_holds_lowercase (hkind : kind ≠ contains) (h : kind.holds actual expected = true)
    (hlower : kind.holds (Text.lowercase actual) (Text.lowercase expected) = true) :
    kind.Keeps actual expected := by
  obtain ⟨before, after, rfl, hallows⟩ := holds_iff.1 h
  refine ⟨before, after, rfl, hallows, ?_⟩
  cases kind with
  | equals =>
    obtain ⟨rfl, rfl⟩ := hallows
    exact Text.keepsSigmas_nil
  | startsWith =>
    obtain rfl := hallows
    exact Text.lowercase_prefix_iff.1 (List.isPrefixOf_iff_prefix.1 hlower)
  | endsWith =>
    obtain rfl := hallows
    rw [List.append_nil] at hlower
    exact Text.lowercase_suffix_iff.1 (List.isSuffixOf_iff_suffix.1 hlower)
  | contains => exact absurd rfl hkind

/-- A comparison that looks for a text without capital sigmas, or compares the whole of two texts, keeps what it
needs. -/
theorem keeps_of_holds (h : kind.holds actual expected = true) (hkind : kind = equals ∨ 'Σ' ∉ expected) :
    kind.Keeps actual expected := by
  obtain ⟨before, after, rfl, hallows⟩ := holds_iff.1 h
  refine ⟨before, after, rfl, hallows, ?_⟩
  rcases hkind with rfl | hsigma
  · obtain ⟨rfl, rfl⟩ := hallows
    exact Text.keepsSigmas_nil
  · exact Text.keepsSigmas_of_not_mem hsigma

end

end CompareKind

namespace Condition

/-- Two letters that stand beside the sigma of street names, and the space. -/
private theorem caseIgnorable_street : Unicode.caseIgnorable.contains 'Ο' = false ∧
    Unicode.caseIgnorable.contains 'Η' = false ∧ Unicode.caseIgnorable.contains ' ' = false := by
  unfold Unicode.caseIgnorable Unicode.CodeTable.ofText
  rw [String.toList_ofList]
  decide +kernel

private theorem cased_street : Unicode.cased.contains 'Ο' = true ∧ Unicode.cased.contains 'Η' = true ∧
    Unicode.cased.contains ' ' = false := by
  unfold Unicode.cased Unicode.CodeTable.ofText
  rw [String.toList_ofList]
  decide +kernel

section
variable [Regex.Engine] {p : Properties} {property actual value : String} {kind : CompareKind}

private theorem holds_compare_ignoring_case (h : p.get property = some actual) :
    (compare property ⟨kind, true⟩ value).holds p =
      kind.holds (Text.lowercase actual.toList) (Text.lowercase value.toList) := by
  rw [holds, h]
  rfl

/-- A comparison that holds does so too when it ignores the case of letters, if the value stands in the text of
the property at a place where each of its capital sigmas ends a word exactly if it ends one in the value. Unless
it may stand anywhere, it does so only then. A value without capital sigmas always has such a place, and so has
a value that is the whole text. -/
theorem ignoring_case_holds
    (h : (compare property ⟨kind, false⟩ value).holds p = true) :
    ∃ actual, p.get property = some actual ∧
      (kind.Keeps actual.toList value.toList → (compare property ⟨kind, true⟩ value).holds p = true) ∧
      (kind ≠ .contains → (compare property ⟨kind, true⟩ value).holds p = true →
        kind.Keeps actual.toList value.toList) ∧
      (kind = .equals ∨ 'Σ' ∉ value.toList → kind.Keeps actual.toList value.toList) := by
  obtain ⟨actual, hactual, hholds⟩ := (Option.any_eq_true ..).1 h
  rw [holds_compare_ignoring_case hactual]
  exact ⟨actual, hactual, CompareKind.Keeps.holds_lowercase,
    fun hkind => CompareKind.keeps_of_holds_lowercase hkind hholds, CompareKind.keeps_of_holds hholds⟩

end

theorem ignoring_case_holds_street :
    let p := (Properties.ofUrl "https://a.org/").insert "title" "ΟΔΟΣ ΑΒ"
    (compare "title" ⟨.startsWith, false⟩ "ΟΔΟΣ").holds p = true ∧
      CompareKind.startsWith.Keeps "ΟΔΟΣ ΑΒ".toList "ΟΔΟΣ".toList ∧
      (compare "title" ⟨.startsWith, true⟩ "ΟΔΟΣ").holds p = true := by
  intro p
  have h : (compare "title" ⟨.startsWith, false⟩ "ΟΔΟΣ").holds p = true := by decide +kernel
  have hactual : p.get "title" = some "ΟΔΟΣ ΑΒ" := by decide +kernel
  have hspace : Text.startsCased " ΑΒ".toList = false :=
    (Text.startsCased_cons caseIgnorable_street.2.2).trans cased_street.2.2
  have hsigmas : Text.KeepsSigmas [] "ΟΔΟΣ".toList " ΑΒ".toList := by
    refine (Text.keepsSigmas_concat_iff (s := "ΟΔΟ".toList) (by decide)).2 ?_
    rw [List.nil_append, Text.endsWord, Text.endsWord, hspace]
    rfl
  have hkeeps : CompareKind.startsWith.Keeps "ΟΔΟΣ ΑΒ".toList "ΟΔΟΣ".toList :=
    ⟨[], " ΑΒ".toList, by decide, rfl, hsigmas⟩
  obtain ⟨actual, hget, hholds, -⟩ := ignoring_case_holds h
  obtain rfl : "ΟΔΟΣ ΑΒ" = actual := Option.some.inj (hactual.symm.trans hget)
  exact ⟨h, hkeeps, hholds hkeeps⟩

/-- A sigma that ends the value may stand before a letter of the title. It is not a final one there. -/
theorem not_ignoring_case_holds :
    ¬ ∀ (p : Properties) (property value : String) (kind : CompareKind),
      (compare property ⟨kind, false⟩ value).holds p = true →
      (compare property ⟨kind, true⟩ value).holds p = true := by
  intro h
  let p := (Properties.ofUrl "https://a.org/").insert "title" "ΟΔΟΣΗΜΑΝΣΗ"
  have hget : p.get "title" = some "ΟΔΟΣΗΜΑΝΣΗ" := by decide +kernel
  have hlower := h p "title" "ΟΔΟΣ" .startsWith (by decide +kernel)
  rw [holds_compare_ignoring_case hget] at hlower
  obtain ⟨_, after, hactual, rfl, hsigmas⟩ :=
    CompareKind.keeps_of_holds_lowercase (by decide) (by decide) hlower
  have happend : "ΟΔΟΣΗΜΑΝΣΗ".toList = "ΟΔΟΣ".toList ++ "ΗΜΑΝΣΗ".toList := by decide
  obtain rfl : "ΗΜΑΝΣΗ".toList = after := List.append_cancel_left (happend.symm.trans hactual)
  have hends := (Text.keepsSigmas_concat_iff (s := "ΟΔΟ".toList) (by decide)).1 hsigmas
  have hbefore : Text.startsCased "ΟΔΟ".toList.reverse = true :=
    (Text.startsCased_cons caseIgnorable_street.1).trans cased_street.1
  have hletter : Text.startsCased "ΗΜΑΝΣΗ".toList = true :=
    (Text.startsCased_cons caseIgnorable_street.2.1).trans cased_street.2.1
  rw [List.nil_append, Text.endsWord, Text.endsWord, hbefore, hletter] at hends
  exact Bool.false_ne_true hends

end Condition

end PagePolicy
