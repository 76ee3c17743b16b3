import Mathlib.Data.List.Nodup
import PagePolicy.Proofs.Text.ByteOrder
import PagePolicy.Properties

/-! The entries of properties. Names stand in the order of their bytes and none stands twice, so that properties are
told apart by the values under their names alone. -/

namespace PagePolicy.Properties

/-- Where no name stands twice, each entry is the one that is found under its name. -/
theorem lookup_eq_some_iff_mem {entries : List (String × String)} (h : (entries.map Prod.fst).Nodup)
    {name value : String} : entries.lookup name = some value ↔ (name, value) ∈ entries := by
  induction entries with
  | nil => simp
  | cons entry rest ih =>
    obtain ⟨other, old⟩ := entry
    obtain ⟨hother, hrest⟩ := List.nodup_cons.1 h
    rw [lookup_cons_eq_ite, List.mem_cons, Prod.mk.injEq]
    split
    next heq =>
      subst heq
      have hnot : (name, value) ∉ rest := fun hin => hother (List.mem_map.2 ⟨_, hin, rfl⟩)
      simp [hnot, eq_comm]
    next hne => simp [hne, ih hrest]

section
variable {p q : Properties} {name value : String}

theorem nodup_names (p : Properties) : (p.entries.map Prod.fst).Nodup :=
  List.pairwise_map.2 (p.ordered.imp String.ne_of_lt)

/-- Names ascend in the order of their bytes. -/
theorem pairwise_bytes (p : Properties) :
    (p.entries.map fun entry => entry.1.toUTF8.data.toList).Pairwise (· < ·) :=
  List.pairwise_map.2 (p.ordered.imp Text.toUTF8_lt_of_lt)

theorem mem_entries_iff : (name, value) ∈ p.entries ↔ p.get name = some value :=
  (lookup_eq_some_iff_mem p.nodup_names).symm

theorem contains_iff : p.contains name = true ↔ ∃ value, p.get name = some value :=
  Option.isSome_iff_exists

/-- Properties that have the same values under all names are the same. -/
theorem ext_get (h : ∀ name, p.get name = q.get name) : p = q := by
  have hmem (entry : String × String) : entry ∈ p.entries ↔ entry ∈ q.entries := by
    rw [mem_entries_iff, mem_entries_iff, h]
  have hperm : p.entries.Perm q.entries :=
    (List.perm_ext_iff_of_nodup p.nodup_names.of_map q.nodup_names.of_map).2 hmem
  have hentries : p.entries = q.entries :=
    hperm.eq_of_pairwise (fun _ _ _ _ hlt hgt => absurd hgt (String.lt_asymm hlt)) p.ordered q.ordered
  cases p
  cases q
  cases hentries
  rfl

end

end PagePolicy.Properties
