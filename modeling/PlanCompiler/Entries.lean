/-!
# Tables in order of arrival

A table keyed by text that remembers the order in which its keys first arrived. The catalog, the
clients' lists, the fields of a payload and the values of a template are all tables of this kind.

* `get?_put`, `get?_erase`: what a lookup answers after a change;
* `keys_put_of_contains`, `keys_put_of_not_contains`: a key that is present keeps its place, a new
  one goes to the end.
-/

namespace PlanCompiler

universe u v

/-- A table keyed by text, its keys in the order in which they first arrived. -/
abbrev Entries (α : Type u) := List (String × α)

namespace Entries

variable {α : Type u} {β : Type v}

/-- The value stored under a key. -/
def get? : Entries α → String → Option α
  | [], _ => none
  | (k, value) :: rest, key => if k = key then some value else get? rest key

/-- Something is stored under the key. -/
def contains (t : Entries α) (key : String) : Bool :=
  (get? t key).isSome

/-- Store a value: a key that is present keeps its place, a new one goes to the end. -/
def put : Entries α → String → α → Entries α
  | [], key, value => [(key, value)]
  | (k, old) :: rest, key, value =>
    if k = key then (k, value) :: rest else (k, old) :: put rest key value

/-- Drop a key and what is stored under it. -/
def erase (t : Entries α) (key : String) : Entries α :=
  t.filter fun entry => entry.1 ≠ key

/-- The keys, in order of arrival. -/
def keys (t : Entries α) : List String :=
  t.map (·.1)

/-- The values, in order of arrival of their keys. -/
def values (t : Entries α) : List α :=
  t.map (·.2)

/-- Change every value and no key. -/
def mapValues (f : α → β) (t : Entries α) : Entries β :=
  t.map fun entry => (entry.1, f entry.2)

/-- Store several values one after another. -/
def putAll (t : Entries α) (news : Entries α) : Entries α :=
  news.foldl (fun table entry => put table entry.1 entry.2) t

/-- The members of a list under the key that `label` gives them: keys in order of first
occurrence, the members of a key in the order of the list. -/
def group (label : α → String) (xs : List α) : Entries (List α) :=
  (xs.map label).eraseDups.map fun key => (key, xs.filter fun x => label x = key)

theorem get?_put (t : Entries α) (key other : String) (value : α) :
    get? (put t key value) other = if key = other then some value else get? t other := by
  induction t with
  | nil => simp [put, get?]
  | cons entry rest ih =>
    obtain ⟨k, old⟩ := entry
    by_cases hk : k = key
    · subst hk; by_cases ho : k = other <;> simp [put, get?, ho]
    · by_cases ho : k = other
      · subst ho; simp [put, get?, hk, Ne.symm hk]
      · simp [put, get?, hk, ho, ih]

theorem get?_erase (t : Entries α) (key other : String) :
    get? (erase t key) other = if key = other then none else get? t other := by
  simp only [erase, ne_eq, decide_not]
  induction t with
  | nil => simp [get?]
  | cons entry rest ih =>
    obtain ⟨k, old⟩ := entry
    by_cases hk : k = key
    · subst hk; by_cases ho : k = other <;> simp_all [get?]
    · by_cases ho : k = other
      · subst ho; simp [get?, hk, Ne.symm hk]
      · simp [get?, hk, ho, ih]

theorem contains_iff_mem_keys (t : Entries α) (key : String) :
    contains t key = true ↔ key ∈ keys t := by
  induction t with
  | nil => simp [contains, get?, keys]
  | cons entry rest ih =>
    obtain ⟨k, value⟩ := entry
    by_cases hk : k = key
    · simp [contains, get?, keys, hk]
    · simpa [contains, get?, keys, hk, Ne.symm hk] using ih

theorem keys_put_of_contains {t : Entries α} {key : String} (value : α)
    (h : contains t key = true) : keys (put t key value) = keys t := by
  induction t with
  | nil => simp [contains, get?] at h
  | cons entry rest ih =>
    obtain ⟨k, old⟩ := entry
    by_cases hk : k = key
    · simp [put, keys, hk]
    · have : contains rest key = true := by simpa [contains, get?, hk] using h
      simpa [put, keys, hk] using ih this

theorem put_of_not_contains {t : Entries α} {key : String} (value : α)
    (h : contains t key = false) : put t key value = t ++ [(key, value)] := by
  induction t with
  | nil => simp [put]
  | cons entry rest ih =>
    obtain ⟨k, old⟩ := entry
    by_cases hk : k = key
    · simp [contains, get?, hk] at h
    · have : contains rest key = false := by simpa [contains, get?, hk] using h
      simp [put, hk, ih this]

theorem keys_put_of_not_contains {t : Entries α} {key : String} (value : α)
    (h : contains t key = false) : keys (put t key value) = keys t ++ [key] := by
  simp [put_of_not_contains value h, keys]

end Entries

end PlanCompiler
