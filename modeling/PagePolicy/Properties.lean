/-! The properties of a page: texts under names. -/

namespace PagePolicy

/-- Properties, one under each name, in the order of the names. -/
structure Properties where
  entries : List (String × String)
  ordered : entries.Pairwise fun a b => a.1 < b.1

namespace Properties

instance : DecidableEq Properties := fun p q =>
  if h : p.entries = q.entries then
    .isTrue (by cases p; cases q; cases h; rfl)
  else .isFalse fun hpq => h (congrArg entries hpq)

def urlName : String := "url"

def titleName : String := "title"

def schemeName : String := "scheme"

def hostName : String := "host"

def pathName : String := "path"

def get (p : Properties) (name : String) : Option String :=
  p.entries.lookup name

def contains (p : Properties) (name : String) : Bool :=
  (p.get name).isSome

def url (p : Properties) : String :=
  (p.get urlName).getD ""

/-- Ordered entries with a value under a name, which replaces the one that was there. -/
def insertInto (name value : String) : List (String × String) → List (String × String)
  | [] => [(name, value)]
  | (other, old) :: rest =>
    if name < other then (name, value) :: (other, old) :: rest
    else if name = other then (name, value) :: rest
    else (other, old) :: insertInto name value rest

private theorem mem_insertInto {name value : String} {entries : List (String × String)}
    {a : String × String} (h : a ∈ insertInto name value entries) :
    a = (name, value) ∨ a ∈ entries := by
  induction entries with
  | nil => exact .inl (List.mem_singleton.1 h)
  | cons b rest ih =>
    rw [insertInto] at h
    split at h
    · exact (List.mem_cons.1 h).imp id id
    · split at h
      · exact (List.mem_cons.1 h).imp id (List.mem_cons_of_mem _)
      · rcases List.mem_cons.1 h with rfl | h
        · exact .inr List.mem_cons_self
        · exact (ih h).imp id (List.mem_cons_of_mem _)

private theorem insertInto_ordered (name value : String) {entries : List (String × String)}
    (h : entries.Pairwise fun a b => a.1 < b.1) :
    (insertInto name value entries).Pairwise fun a b => a.1 < b.1 := by
  induction entries with
  | nil => exact List.pairwise_singleton _ _
  | cons b rest ih =>
    obtain ⟨hb, hrest⟩ := List.pairwise_cons.1 h
    rw [insertInto]
    split
    next hlt =>
      refine List.pairwise_cons.2 ⟨fun c hc => ?_, h⟩
      rcases List.mem_cons.1 hc with rfl | hc
      · exact hlt
      · exact String.lt_trans hlt (hb c hc)
    next hnot =>
      split
      next heq => exact List.pairwise_cons.2 ⟨fun c hc => heq ▸ hb c hc, hrest⟩
      next hne =>
        refine List.pairwise_cons.2 ⟨fun c hc => ?_, ih hrest⟩
        rcases mem_insertInto hc with rfl | hc
        · exact Decidable.byContradiction fun hge =>
            hne (String.le_antisymm (String.not_lt.1 hge) (String.not_lt.1 hnot))
        · exact hb c hc

theorem lookup_cons_eq_ite (key name value : String) (rest : List (String × String)) :
    ((name, value) :: rest).lookup key = if key = name then some value else rest.lookup key := by
  by_cases h : key = name
  · simp [h]
  · simp [List.lookup_cons, h, beq_eq_false_iff_ne.2 h]

private theorem lookup_insertInto (name value key : String) (entries : List (String × String)) :
    (insertInto name value entries).lookup key =
      if key = name then some value else entries.lookup key := by
  induction entries with
  | nil => rw [insertInto, lookup_cons_eq_ite]
  | cons b rest ih =>
    obtain ⟨other, old⟩ := b
    rw [insertInto]
    split
    next => rw [lookup_cons_eq_ite]
    next =>
      split
      next heq =>
        subst heq
        rw [lookup_cons_eq_ite, lookup_cons_eq_ite]
        by_cases h : key = name <;> simp [h]
      next hne =>
        rw [lookup_cons_eq_ite, lookup_cons_eq_ite, ih]
        by_cases h : key = other
        · have hname : key ≠ name := fun h' => hne (h'.symm.trans h)
          rw [if_pos h, if_neg hname, if_pos h]
        · rw [if_neg h, if_neg h]

/-- Puts a value under a name, in place of the one that was there. -/
def insert (p : Properties) (name value : String) : Properties where
  entries := insertInto name value p.entries
  ordered := insertInto_ordered name value p.ordered

@[simp]
theorem get_insert (p : Properties) (name value key : String) :
    (p.insert name value).get key = if key = name then some value else p.get key :=
  lookup_insertInto name value key p.entries

def insertIfAbsent (p : Properties) (name value : String) : Properties :=
  if p.contains name then p else p.insert name value

theorem get_insertIfAbsent (p : Properties) (name value key : String) :
    (p.insertIfAbsent name value).get key =
      if key = name then some ((p.get name).getD value) else p.get key := by
  rw [insertIfAbsent, contains]
  cases hget : p.get name with
  | none => simp
  | some old =>
    by_cases h : key = name
    · simp [h, hget]
    · simp [h]

def ofUrl (url : String) : Properties where
  entries := [(urlName, url)]
  ordered := List.pairwise_singleton _ _

@[simp]
theorem url_ofUrl (url : String) : (ofUrl url).url = url := by
  simp [ofUrl, Properties.url, get]

end Properties

end PagePolicy
