import PagePolicy.Proofs.LastApplicable
import PagePolicy.Session

/-! The properties that follow from the URL of a page. They are added to those that the page brings along, and adding
them again, or before a decision, changes nothing. -/

namespace PagePolicy

namespace Properties

variable {p : Properties} {name value key : String}

/-! ### Values that are put only where there are none -/

private theorem insertIfAbsent_of_contains (h : p.contains name = true) : p.insertIfAbsent name value = p :=
  if_pos h

private theorem contains_insertIfAbsent (p : Properties) (name value key : String) :
    (p.insertIfAbsent name value).contains key = (decide (key = name) || p.contains key) := by
  rw [contains, get_insertIfAbsent]
  split
  next heq => simp [heq]
  next hne => simp [hne, contains]

/-! ### The parts of the URL -/

/-- Only names without a value take the part of the URL that goes by them. -/
theorem filled_of_get_eq_none (h : p.get key = none) :
    p.filled key = (Url.parse p.url).bind fun u =>
      [(schemeName, u.scheme), (hostName, u.host), (pathName, u.pathAndQuery)].lookup key := by
  simp only [filled, h, Option.none_or, lookup_cons_eq_ite, List.lookup_nil]

private theorem get_derive_of_get (h : p.get key = some value) : (p.derive (Url.parse p.url)).get key = some value := by
  rw [get_derive, filled, h, Option.some_or]

private theorem url_derive (p : Properties) : (p.derive (Url.parse p.url)).url = p.url := by
  have hget : (p.derive (Url.parse p.url)).get urlName = p.get urlName := by
    cases hurl : p.get urlName with
    | some value => exact get_derive_of_get hurl
    | none =>
      rw [get_derive, filled_of_get_eq_none hurl]
      cases Url.parse p.url <;> rfl
  rw [url, hget, url]

/-- The parts of any URL add nothing where there are some already. -/
theorem derive_derive (p : Properties) (u : Option Url) : (p.derive u).derive u = p.derive u := by
  cases u with
  | none => rfl
  | some u =>
    have hscheme : (p.derive (some u)).contains schemeName = true := by
      simp [derive, contains_insertIfAbsent]
    have hhost : (p.derive (some u)).contains hostName = true := by
      simp [derive, contains_insertIfAbsent]
    have hpath : (p.derive (some u)).contains pathName = true := by
      simp [derive, contains_insertIfAbsent]
    calc
      (p.derive (some u)).derive (some u) =
          (((p.derive (some u)).insertIfAbsent schemeName u.scheme).insertIfAbsent hostName u.host).insertIfAbsent
            pathName u.pathAndQuery := rfl
      _ = p.derive (some u) := by
        rw [insertIfAbsent_of_contains hscheme, insertIfAbsent_of_contains hhost, insertIfAbsent_of_contains hpath]

end Properties

/-- A page is the same whether or not the properties that follow from its URL have been added before. -/
theorem Page.ofProperties_derive (p : Properties) :
    ofProperties (p.derive (Url.parse p.url)) = ofProperties p := by
  have hurl := p.url_derive
  have htarget : Target.ofText (p.derive (Url.parse p.url)).url = Target.ofText p.url := by rw [hurl]
  rw [ofProperties, ofProperties, htarget, Target.ofText, Properties.derive_derive]

/-! ### Decisions in a session -/

namespace Session

def Step.asks : Step → Bool
  | decide | blocked => true
  | new _ | insert _ _ | insertIfAbsent _ _ | get _ | url | line _ | lint => false

def afterAll (s : Session) (steps : List Step) : Session :=
  steps.foldl after s

theorem after_of_asks {step : Step} (h : step.asks = true) (s : Session) : s.after step = s := by
  cases step with
  | decide | blocked => rfl
  | _ => cases h

/-- Steps that ask for a decision can as well be left out. -/
theorem afterAll_filter (s : Session) (steps : List Step) :
    s.afterAll (steps.filter fun step => !step.asks) = s.afterAll steps := by
  induction steps generalizing s with
  | nil => rfl
  | cons step steps ih =>
    rw [List.filter_cons]
    cases hasks : step.asks with
    | true =>
      have hafter : s.afterAll (step :: steps) = s.afterAll steps :=
        congrArg (afterAll · steps) (after_of_asks hasks s)
      rw [hafter]
      exact ih s
    | false => exact ih (s.after step)

end Session

/-! ### Decisions on pages with derived properties -/

/-- The properties that follow from the URL are added where the page brings along none under their names, and nothing
else is changed or added; adding them again changes nothing. The decision on a page is the same with them as
without them, down to the remarks made on the way, and it leaves the properties as they were: after any steps of a
session they are what they are without the steps that ask for a decision. -/
theorem derived_properties_decide_alike [Regex.Engine] (r : Ruleset) (p : Properties) :
    let q := p.derive (Url.parse p.url)
    let m := Matcher.ofRuleset r
    (∀ key value, p.get key = some value → q.get key = some value) ∧
      (∀ key, p.get key = none → q.get key = (Url.parse p.url).bind fun u =>
        [("scheme", u.scheme), ("host", u.host), ("path", u.pathAndQuery)].lookup key) ∧
      (Url.parse p.url = none → q = p) ∧
      q.url = p.url ∧ q.derive (Url.parse q.url) = q ∧
      r.verdict q = r.verdict p ∧ m.winnerIndex q = m.winnerIndex p ∧ r.isBlocked q = r.isBlocked p ∧
      r.decisionEvents q = r.decisionEvents p ∧
      ∀ steps, ((Session.mk r m p).afterAll steps).properties =
        ((Session.mk r m p).afterAll (steps.filter fun step => !step.asks)).properties := by
  intro q m
  have hpage : Page.ofProperties q = Page.ofProperties p := Page.ofProperties_derive p
  have hverdict : r.verdict q = r.verdict p := by rw [Ruleset.verdict, Matcher.verdict, hpage]; rfl
  refine ⟨fun key value => Properties.get_derive_of_get, fun key h => ?_, fun hurl => ?_, p.url_derive, ?_, hverdict,
    ?_, ?_, ?_, fun steps => ?_⟩
  · rw [p.get_derive]
    exact Properties.filled_of_get_eq_none h
  · show p.derive (Url.parse p.url) = p
    rw [hurl]
    rfl
  · rw [p.url_derive]
    exact p.derive_derive _
  · rw [Matcher.winnerIndex, hpage]
    rfl
  · show (r.verdict q).any _ = (r.verdict p).any _
    rw [hverdict]
  · rw [Ruleset.decisionEvents, Matcher.decisionEvents, hpage]
    rfl
  · rw [Session.afterAll_filter]

/-- An empty host that the page brings along stays, the rest follows from the URL, and a rule on both applies. -/
theorem derived_properties_decide_alike_host :
    let p := (Properties.ofUrl "HTTPS://user@a.org/b?c").insert "host" ""
    let q := p.derive (Url.parse p.url)
    let rule : Rule :=
      ⟨.allow, "a.org/*", 1, none, some (.and (.compare "host" ⟨.equals, false⟩ "")
        (.compare "path" ⟨.equals, false⟩ "/b?c"))⟩
    p.get "host" = some "" ∧ p.get "path" = none ∧ q.get "host" = some "" ∧ q.get "path" = some "/b?c" ∧
      (Ruleset.mk [rule] []).verdict q = some (.ofRule rule) := by
  intro p q rule
  have hhost : p.get "host" = some "" := by decide
  have hpath : p.get "path" = none := by decide
  have hparse : Url.parse p.url = some ⟨"https", "a.org", "/b", some "c"⟩ := by decide +kernel
  have hverdict : (Ruleset.mk [rule] []).verdict p = some (.ofRule rule) := by decide +kernel
  obtain ⟨hkept, hadded, -, -, -, hsame, -⟩ := derived_properties_decide_alike (Ruleset.mk [rule] []) p
  refine ⟨hhost, hpath, hkept _ _ hhost, ?_, hsame.trans hverdict⟩
  rw [hadded _ hpath, hparse]
  rfl

end PagePolicy
