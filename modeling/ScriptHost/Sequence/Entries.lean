/-!
# Entries by name

A list of named entries without repeated names, in the order in which the names entered.
Writing an entry whose name is present replaces its value where it stands.

## Main results

* `get?_put_self`, `get?_put_of_ne` — reading after writing.
* `names_put` — where a written name stands.
-/

namespace ScriptHost.Sequence

/-- Named entries in order of entry. -/
abbrev Entries (β : Type) := List (String × β)

namespace Entries

variable {β : Type}

/-- The names in order of entry. -/
def names (es : Entries β) : List String := es.map Prod.fst

/-- The entry of a name. -/
def get? : Entries β → String → Option β
  | [], _ => none
  | (n, v) :: es, name => if n = name then some v else get? es name

/-- The entries with one written: in its place if the name is present, else at the end. -/
def put : Entries β → String → β → Entries β
  | [], name, value => [(name, value)]
  | (n, v) :: es, name, value =>
    if n = name then (n, value) :: es else (n, v) :: put es name value

/-- The entries without a name. -/
def without (es : Entries β) (name : String) : Entries β := es.filter fun e => e.1 != name

/-- The entries with others written over them, one after the other. -/
def putAll (es others : Entries β) : Entries β := others.foldl (fun es e => put es e.1 e.2) es

/-- Entries from pairs in which a later one replaces an earlier one of the same name. -/
def ofList (pairs : List (String × β)) : Entries β := putAll [] pairs

theorem get?_put_self (es : Entries β) (name : String) (value : β) :
    get? (put es name value) name = some value := by
  induction es with
  | nil => simp [put, get?]
  | cons e es ih =>
    obtain ⟨n, v⟩ := e
    rw [put]
    split
    · next h => simp [get?, h]
    · next h => simp [get?, h, ih]

theorem get?_put_of_ne (es : Entries β) {name other : String} (value : β) (h : other ≠ name) :
    get? (put es name value) other = get? es other := by
  induction es with
  | nil => simp [put, get?, h.symm]
  | cons e es ih =>
    obtain ⟨n, v⟩ := e
    rw [put]
    split
    · next hn => subst hn; simp [get?, h.symm]
    · simp only [get?, ih]

theorem names_put (es : Entries β) (name : String) (value : β) :
    names (put es name value) =
      if name ∈ names es then names es else names es ++ [name] := by
  induction es with
  | nil => simp [put, names]
  | cons e es ih =>
    obtain ⟨n, v⟩ := e
    by_cases h : n = name
    · simp [put, names, h]
    · have h' : name ≠ n := fun e => h e.symm
      simp only [put, h, if_false, names, List.map_cons, List.mem_cons, h', false_or]
      have ih' := ih
      simp only [names] at ih'
      rw [ih']
      split <;> next hm => simp [hm]

end Entries

end ScriptHost.Sequence
