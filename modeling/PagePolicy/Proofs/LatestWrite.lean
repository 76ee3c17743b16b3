import PagePolicy.Proofs.Derived
import PagePolicy.Proofs.Entries

/-! The properties of a session are those that were written last. What one step does to the value under a name is told
first, and what stands there after any steps follows by induction on them. -/

namespace PagePolicy.Session

/-! ### One step -/

/-- Whether a step puts a value under a name. A new URL is put under the name of the URL, and what is put only where
there is nothing has to find nothing there. -/
def Step.Writes (p : Properties) (name value : String) : Step → Prop
  | new u => name = "url" ∧ value = u
  | insert other added => name = other ∧ value = added
  | insertIfAbsent other added => name = other ∧ value = added ∧ p.get name = none
  | get _ | url | decide | blocked | line _ | lint => False

def Step.isNew : Step → Bool
  | new _ => true
  | insert _ _ | insertIfAbsent _ _ | get _ | url | decide | blocked | line _ | lint => false

namespace Step

variable {p : Properties} {name value : String}

/-- Under a name stands what the step puts there, or else what stood there before, unless the page is another one. -/
theorem get_apply_iff (step : Step) :
    (step.apply p).get name = some value ↔
      step.Writes p name value ∨
        step.isNew = false ∧ (∀ other, ¬ step.Writes p name other) ∧ p.get name = some value := by
  cases step with
  | new u =>
    have hget : (Step.apply p (.new u)).get name = if name = "url" then some u else none :=
      Properties.lookup_cons_eq_ite name "url" u []
    rw [hget]
    by_cases hname : name = "url" <;> simp [Writes, isNew, hname, eq_comm]
  | insert other added =>
    rw [apply, Properties.get_insert]
    by_cases hname : name = other <;> simp [Writes, isNew, hname, eq_comm]
  | insertIfAbsent other added =>
    rw [apply, Properties.get_insertIfAbsent]
    by_cases hname : name = other
    · subst hname
      cases hold : p.get name <;> simp [Writes, isNew, hold, eq_comm]
    · simp [Writes, isNew, hname]
  | _ => simp [Writes, isNew, apply]

/-- A page always has a URL. -/
theorem contains_url_apply (step : Step) (h : p.contains "url" = true) : (step.apply p).contains "url" = true := by
  rw [Properties.contains_iff] at h ⊢
  obtain ⟨old, hold⟩ := h
  by_cases hwrites : ∃ value, step.Writes p "url" value
  · obtain ⟨value, hvalue⟩ := hwrites
    exact ⟨value, step.get_apply_iff.2 (.inl hvalue)⟩
  · cases step with
    | new u => exact absurd ⟨u, rfl, rfl⟩ hwrites
    | _ => exact ⟨old, (get_apply_iff _).2 (.inr ⟨rfl, not_exists.1 hwrites, hold⟩)⟩

end Step

/-! ### Any steps -/

def propertiesAfter (steps : List Step) : Properties :=
  steps.foldl Step.apply (.ofUrl "")

private theorem properties_afterAll (s : Session) (steps : List Step) :
    (s.afterAll steps).properties = steps.foldl Step.apply s.properties := by
  induction steps generalizing s with
  | nil => rfl
  | cons step steps ih => exact ih (s.after step)

private theorem propertiesAfter_concat (steps : List Step) (step : Step) :
    propertiesAfter (steps ++ [step]) = step.apply (propertiesAfter steps) := by
  rw [propertiesAfter, List.foldl_append, propertiesAfter]
  rfl

/-- Whether a value was put under a name by one of some steps, and by the later ones nothing was put there any more and
no other page was begun with. -/
def IsLatest (steps : List Step) (name value : String) : Prop :=
  ∃ before step after, steps = before ++ step :: after ∧ step.Writes (propertiesAfter before) name value ∧
    ∀ between later rest, after = between ++ later :: rest →
      later.isNew = false ∧ ∀ other, ¬ later.Writes (propertiesAfter (before ++ step :: between)) name other

section
variable {steps : List Step} {step : Step} {name value : String}

private theorem isLatest_concat_iff :
    IsLatest (steps ++ [step]) name value ↔
      step.Writes (propertiesAfter steps) name value ∨
        step.isNew = false ∧ (∀ other, ¬ step.Writes (propertiesAfter steps) name other) ∧
          IsLatest steps name value := by
  constructor
  · rintro ⟨before, writing, after, hsteps, hwrites, hlater⟩
    rcases List.eq_nil_or_concat' after with rfl | ⟨front, last, rfl⟩
    · obtain ⟨rfl, hlast⟩ := List.append_inj' hsteps rfl
      obtain rfl := List.singleton_inj.1 hlast
      exact .inl hwrites
    · rw [← List.cons_append, ← List.append_assoc] at hsteps
      obtain ⟨rfl, hlast⟩ := List.append_inj' hsteps rfl
      obtain rfl := List.singleton_inj.1 hlast
      obtain ⟨hnew, hnot⟩ := hlater front step [] rfl
      refine .inr ⟨hnew, hnot, before, writing, front, rfl, hwrites, fun between later rest hfront => ?_⟩
      exact hlater between later (rest ++ [step]) (by rw [hfront, List.append_assoc, List.cons_append])
  · rintro (hwrites | ⟨hnew, hnot, before, writing, after, rfl, hwrites, hlater⟩)
    · exact ⟨steps, step, [], rfl, hwrites, fun between _ _ hnil => absurd hnil.symm (by simp)⟩
    · refine ⟨before, writing, after ++ [step], by simp, hwrites, fun between later rest hafter => ?_⟩
      rcases List.eq_nil_or_concat' rest with rfl | ⟨front, last, rfl⟩
      · obtain ⟨rfl, hlast⟩ := List.append_inj' hafter rfl
        obtain rfl := List.singleton_inj.1 hlast
        exact ⟨hnew, hnot⟩
      · rw [← List.cons_append, ← List.append_assoc] at hafter
        exact hlater between later front (List.append_inj' hafter rfl).1

/-- The step that begins with no URL at all comes before all others. -/
theorem get_propertiesAfter_iff (steps : List Step) :
    (propertiesAfter steps).get name = some value ↔ IsLatest (.new "" :: steps) name value := by
  induction steps using List.reverseRecOn with
  | nil =>
    have hfirst := @Step.get_apply_iff (propertiesAfter []) name value (.new "")
    have hlatest := @isLatest_concat_iff [] (.new "") name value
    exact (hfirst.trans (or_congr_right (and_congr_right nofun))).trans hlatest.symm
  | append_singleton steps step ih =>
    rw [propertiesAfter_concat, Step.get_apply_iff, ih, ← List.cons_append, isLatest_concat_iff]
    rfl

private theorem contains_url_propertiesAfter (steps : List Step) : (propertiesAfter steps).contains "url" = true := by
  induction steps using List.reverseRecOn with
  | nil => rfl
  | append_singleton steps step ih =>
    rw [propertiesAfter_concat]
    exact step.contains_url_apply ih

end

end PagePolicy.Session

namespace PagePolicy

/-- After any steps of a session its properties have each name once, in the order of the bytes, and a URL among them.
Under each name is the value that was put there last since the page was begun with, if one was; the first page
is begun with an empty URL. Decisions change nothing about the properties, and do not add those that follow from
the URL either. -/
theorem latest_write_stands [Regex.Engine] (r : Ruleset) (steps : List Session.Step) :
    let p := ((Session.start r).afterAll steps).properties
    (p.entries.map fun entry => entry.1.toUTF8.data.toList).Pairwise (· < ·) ∧ (p.entries.map Prod.fst).Nodup ∧
      (∀ name value, (name, value) ∈ p.entries ↔ p.get name = some value) ∧
      p.get "url" = some p.url ∧
      (∀ name value, p.get name = some value ↔ Session.IsLatest (.new "" :: steps) name value) ∧
      (∀ name, p.contains name = true ↔ ∃ value, p.get name = some value) ∧
      ((Session.start r).afterAll (steps ++ [.decide])).properties = p ∧
      ((Session.start r).afterAll (steps ++ [.blocked])).properties = p := by
  intro p
  have hp : p = Session.propertiesAfter steps := Session.properties_afterAll (Session.start r) steps
  refine ⟨p.pairwise_bytes, p.nodup_names, fun name value => Properties.mem_entries_iff, ?_, fun name value => ?_,
    fun name => Properties.contains_iff, ?_, ?_⟩
  · have hurl : p.contains "url" = true := hp ▸ Session.contains_url_propertiesAfter steps
    obtain ⟨u, hu⟩ := Properties.contains_iff.1 hurl
    rw [hu, Properties.url, Properties.urlName, hu, Option.getD_some]
  · rw [hp]
    exact Session.get_propertiesAfter_iff steps
  · rw [Session.afterAll, List.foldl_concat, Session.after_of_asks rfl]
    rfl
  · rw [Session.afterAll, List.foldl_concat, Session.after_of_asks rfl]
    rfl

end PagePolicy
