import PagePolicy.Command.Run
import PagePolicy.Proofs.Rule.Reading

/-! What the program tells about a file of rules. It fails on a file exactly when a condition or a regular
expression of its rules is lost, and the numbers it shows are those of the diagnostics and rules it shows them
for. -/

namespace PagePolicy

/-! ### Errors -/

namespace Rule

variable [Regex.Engine] {lines : Ruleset} {earlier : List Rule} {rule : Rule}

end Rule

/-! ### Reports -/

namespace Ruleset

theorem mem_diagnostics_iff [Regex.Engine] {r : Ruleset} {d : Diagnostic} :
    d ∈ r.lint.diagnostics ↔ ∃ (j : Nat) (rule : Rule), r.rules[j]? = some rule ∧ d.line = rule.line ∧
      d.finding ∈ rule.findings r (r.rules.take j) := by
  constructor
  · intro h
    rw [diagnostics_lint, List.mem_flatMap] at h
    obtain ⟨j, -, hd⟩ := h
    rw [diagnosticsAt] at hd
    split at hd
    next rule hj =>
      obtain ⟨f, hf, rfl⟩ := List.mem_map.1 hd
      exact ⟨j, rule, hj, rfl, hf⟩
    next => cases hd
  · rintro ⟨j, rule, hj, hline, hf⟩
    obtain ⟨line, f⟩ := d
    obtain rfl : line = rule.line := hline
    exact mem_diagnostics hj hf

end Ruleset

namespace LintReport

end LintReport

/-! ### The lines of a file -/

end PagePolicy
