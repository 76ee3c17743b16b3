import Mathlib.Data.List.Induction
import PagePolicy.Command.Run
import PagePolicy.Proofs.Entries

/-! What a check tells about URLs. Each URL is decided on by itself, with properties that the other URLs have no part
in, and of the pairs on the command line only the last one of each name counts. -/

namespace PagePolicy

/-! ### Pairs of names and values -/

section
variable {pairs others : List (String × String)}

private theorem Properties.get_insertAll (pairs : List (String × String)) (p : Properties) (key : String) :
    (pairs.foldl (fun p (name, value) => p.insert name value) p).get key =
      (pairs.reverse.lookup key).or (p.get key) := by
  induction pairs using List.reverseRecOn with
  | nil => rfl
  | append_singleton pairs pair ih =>
    obtain ⟨name, value⟩ := pair
    rw [List.foldl_concat, get_insert, ih, List.reverse_concat, lookup_cons_eq_ite]
    split <;> rfl

private theorem lookup_filter (key : String) (pairs : List (String × String)) :
    (pairs.filter (·.1 = key)).lookup key = pairs.lookup key := by
  induction pairs with
  | nil => rfl
  | cons pair rest ih =>
    obtain ⟨name, value⟩ := pair
    rw [Properties.lookup_cons_eq_ite, List.filter_cons]
    by_cases hname : name = key
    · simp [hname]
    · simp [hname, Ne.symm hname, ih]

/-- Pairs of different names may change places. -/
theorem lookup_reverse_of_filter (h : ∀ key, pairs.filter (·.1 = key) = others.filter (·.1 = key)) (key : String) :
    pairs.reverse.lookup key = others.reverse.lookup key := by
  rw [← lookup_filter, List.filter_reverse, h, ← List.filter_reverse, lookup_filter]

/-- Where no name comes twice, the order of the pairs does not matter. -/
theorem lookup_reverse_of_perm (h : pairs.Perm others) (hnames : (pairs.map Prod.fst).Nodup) (key : String) :
    pairs.reverse.lookup key = others.reverse.lookup key := by
  have hreverse {l : List (String × String)} (hl : (l.map Prod.fst).Nodup) : (l.reverse.map Prod.fst).Nodup := by
    rw [List.map_reverse]
    exact List.nodup_reverse.2 hl
  have hothers : (others.map Prod.fst).Nodup := (h.map Prod.fst).nodup_iff.1 hnames
  ext value
  rw [Properties.lookup_eq_some_iff_mem (hreverse hnames), Properties.lookup_eq_some_iff_mem (hreverse hothers),
    List.mem_reverse, List.mem_reverse, h.mem_iff]

end

/-! ### Checks -/

/-- The value that a check gives to a name for a URL: that of the last pair of the name, or else the title under the
name of the title, or else the URL under the name of the URL. -/
def CheckOptions.valueOf (o : CheckOptions) (url key : String) : Option String :=
  (o.properties.reverse.lookup key).or <|
    (if key = "title" then o.title else none).or <| if key = "url" then some url else none

namespace CheckOptions

private theorem get_propertiesOf (o : CheckOptions) (url key : String) :
    (o.propertiesOf url).get key = o.valueOf url key := by
  obtain ⟨rules, title, pairs, json, verbose, urls⟩ := o
  have hurl : (Properties.ofUrl url).get key = if key = "url" then some url else none :=
    Properties.lookup_cons_eq_ite key "url" url []
  rw [propertiesOf, Properties.get_insertAll, valueOf]
  cases title with
  | none => simp [hurl]
  | some title =>
    by_cases hkey : key = "title" <;> simp [hurl, hkey, Properties.titleName]

/-- The values that a check gives to names make up the properties that a URL is checked with. -/
theorem eq_propertiesOf_iff {o : CheckOptions} {url : String} {p : Properties} :
    p = o.propertiesOf url ↔ ∀ key, p.get key = o.valueOf url key := by
  constructor
  · rintro rfl
    exact o.get_propertiesOf url
  · intro h
    exact Properties.ext_get fun key => (h key).trans (o.get_propertiesOf url key).symm

/-- A check depends on its pairs through the last ones of their names alone. -/
theorem results_congr [Regex.Engine] {o : CheckOptions} {others : List (String × String)}
    (h : ∀ key, o.properties.reverse.lookup key = others.reverse.lookup key) (r : Ruleset) :
    { o with properties := others }.results r = o.results r := by
  refine List.map_congr_left fun url _ => ?_
  have hproperties : { o with properties := others }.propertiesOf url = o.propertiesOf url := by
    rw [eq_propertiesOf_iff]
    intro key
    rw [get_propertiesOf, valueOf, valueOf, h]
  rw [result, hproperties, result]

end CheckOptions

private theorem Command.run_check_congr [Regex.Engine] {o : CheckOptions} {others : List (String × String)}
    (h : ∀ key, o.properties.reverse.lookup key = others.reverse.lookup key) (content : Except ReadError String)
    (time : String) : (check { o with properties := others }).run content time = (check o).run content time := by
  cases content with
  | error e => rfl
  | ok text =>
    rw [run, run, runOn, runOn, CheckOptions.results_congr h]
    rfl

section
variable [Regex.Engine] {file text time : String} {title : Option String} {pairs : List (String × String)}
  {urls : List String}

/-- What is found out about URLs, each with the properties of a check of that URL alone. -/
theorem CheckOptions.results_eq (json verbose : Bool) (r : Ruleset) :
    (CheckOptions.mk file title pairs json verbose urls).results r =
      urls.map fun url => CheckResult.mk url
        (r.verdict ((CheckOptions.mk file title pairs false false [url]).propertiesOf url)) :=
  List.map_congr_left fun _ _ => rfl

private theorem Command.output_check :
    ((check ⟨file, title, pairs, false, false, urls⟩).run (.ok text) time).output =
      ((CheckOptions.mk file title pairs false false urls).results (Ruleset.parse text)).map CheckResult.text := by
  rw [run, runOn]
  rfl

private theorem Command.output_check_json :
    ((check ⟨file, title, pairs, true, false, urls⟩).run (.ok text) time).output =
      [(JsonValue.list (((CheckOptions.mk file title pairs true false urls).results (Ruleset.parse text)).map
        CheckResult.toJson)).render] := by
  rw [run, runOn]
  rfl

end

/-- The lines about some URLs are followed by those about the others as if each URL was checked by itself. What is told
about a URL, in lines or as JSON, is the verdict on the only properties that have under each name the value of the
last pair of that name, or else the title under the name of the title, or else the URL under the name of the URL.
So it makes no difference in which order the pairs come, if those of one name keep theirs. -/
theorem Command.urls_checked_alone [Regex.Engine] (file : String) (title : Option String)
    (pairs : List (String × String)) (time : String) :
    let check content pairs json verbose urls :=
      (Command.check ⟨file, title, pairs, json, verbose, urls⟩).run content time
    (∀ content us vs, (check content pairs false false (us ++ vs)).output =
        (check content pairs false false us).output ++ (check content pairs false false vs).output) ∧
      (∃ bag : String → Properties,
        (∀ url p, p = bag url ↔ ∀ key, p.get key = (pairs.reverse.lookup key).or
          ((if key = "title" then title else none).or (if key = "url" then some url else none))) ∧
          ∀ text urls,
            let results := urls.map fun url => CheckResult.mk url ((Ruleset.parse text).verdict (bag url))
            (check (.ok text) pairs false false urls).output = results.map CheckResult.text ∧
              (check (.ok text) pairs true false urls).output =
                [(JsonValue.list (results.map CheckResult.toJson)).render]) ∧
      (∀ others, pairs.Perm others → (pairs.map Prod.fst).Nodup →
        ∀ content json verbose urls, check content others json verbose urls = check content pairs json verbose urls) ∧
      ∀ others, (∀ key, pairs.filter (·.1 = key) = others.filter (·.1 = key)) →
        ∀ content json verbose urls,
          check content others json verbose urls = check content pairs json verbose urls := by
  intro check
  refine ⟨fun content us vs => ?_, ?_, fun others hperm hnames content json verbose urls => ?_,
    fun others hfilter content json verbose urls => ?_⟩
  · cases content with
    | error e => rfl
    | ok text =>
      show (Command.run _ _ _).output = (Command.run _ _ _).output ++ (Command.run _ _ _).output
      rw [Command.output_check, Command.output_check, Command.output_check, CheckOptions.results_eq,
        CheckOptions.results_eq, CheckOptions.results_eq, List.map_append, List.map_append]
  · refine ⟨fun url => (CheckOptions.mk file title pairs false false [url]).propertiesOf url,
      fun url p => CheckOptions.eq_propertiesOf_iff, fun text urls => ⟨?_, ?_⟩⟩
    · show (Command.run _ _ _).output = _
      rw [Command.output_check, CheckOptions.results_eq]
    · show (Command.run _ _ _).output = _
      rw [Command.output_check_json, CheckOptions.results_eq]
  · have hlast := lookup_reverse_of_perm hperm hnames
    exact Command.run_check_congr (o := ⟨file, title, pairs, json, verbose, urls⟩) hlast content time
  · have hlast := lookup_reverse_of_filter hfilter
    exact Command.run_check_congr (o := ⟨file, title, pairs, json, verbose, urls⟩) hlast content time

/-- Another name goes before the two values of the title. The later one of them counts, and not the title itself. -/
theorem Command.urls_checked_alone_titles :
    let pairs := [("title", "Home"), ("lang", "en"), ("title", "Offer")]
    let others := [("lang", "en"), ("title", "Home"), ("title", "Offer")]
    let check pairs := (Command.check ⟨"rules.txt", some "News", pairs, true, false, ["https://a.org/", "a"]⟩).run
      (.ok "@@a* @if (title=\"Offer\")") "0.1"
    (∀ key, pairs.filter (·.1 = key) = others.filter (·.1 = key)) ∧ check others = check pairs ∧
      [("lang", "en"), ("title", "Offer")].Perm [("title", "Offer"), ("lang", "en")] ∧
      check [("title", "Offer"), ("lang", "en")] = check [("lang", "en"), ("title", "Offer")] := by
  intro pairs others check
  have hfilter (key : String) : pairs.filter (·.1 = key) = others.filter (·.1 = key) := by
    by_cases htitle : "title" = key
    · subst htitle
      rfl
    · simp [pairs, others, List.filter_cons, htitle]
  have hperm : [("lang", "en"), ("title", "Offer")].Perm [("title", "Offer"), ("lang", "en")] := .swap ..
  refine ⟨hfilter, ?_, hperm, ?_⟩
  · exact (Command.urls_checked_alone "rules.txt" (some "News") pairs "0.1").2.2.2 others hfilter _ _ _ _
  · exact (Command.urls_checked_alone "rules.txt" (some "News") _ "0.1").2.2.1 _ hperm (by decide) _ _ _ _

end PagePolicy
