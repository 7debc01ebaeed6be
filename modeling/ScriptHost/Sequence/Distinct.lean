/-!
# Distinct items in order

The items of a list whose key did not occur before, in their order.  Both the namespaces of an
execution and every list that is shown without repetitions are made by this one function.

## Main results

* `distinctBy_nodup` — no two items of the result have the same key.
* `mem_distinct` — nothing is lost when items are their own keys.
* `distinctFrom_append`, `distinct_append` — the second of two lists is read in the light of the
  first.
-/

namespace ScriptHost.Sequence

variable {α κ : Type} [DecidableEq κ]

/-- The items whose key occurs neither among `seen` nor earlier in the list. -/
def distinctFrom (key : α → κ) (seen : List κ) : List α → List α
  | [] => []
  | x :: xs =>
    if key x ∈ seen then distinctFrom key seen xs
    else x :: distinctFrom key (key x :: seen) xs

/-- The items whose key does not occur earlier in the list. -/
def distinctBy (key : α → κ) (xs : List α) : List α := distinctFrom key [] xs

/-- The items of a list, each at its first occurrence. -/
def distinct (xs : List κ) : List κ := distinctBy id xs

theorem mem_of_mem_distinctFrom {key : α → κ} {seen : List κ} {xs : List α} {x : α}
    (h : x ∈ distinctFrom key seen xs) : x ∈ xs ∧ key x ∉ seen := by
  induction xs generalizing seen with
  | nil => simp [distinctFrom] at h
  | cons y ys ih =>
    rw [distinctFrom] at h
    split at h
    · exact ⟨.tail _ (ih h).1, (ih h).2⟩
    · next hy =>
      rcases List.mem_cons.mp h with rfl | h
      · exact ⟨.head _, hy⟩
      · have := ih h
        exact ⟨.tail _ this.1, fun hs => this.2 (.tail _ hs)⟩

theorem distinctFrom_nodup (key : α → κ) (seen : List κ) (xs : List α) :
    ((distinctFrom key seen xs).map key).Nodup := by
  induction xs generalizing seen with
  | nil => simp [distinctFrom]
  | cons x xs ih =>
    rw [distinctFrom]
    split
    · exact ih seen
    · rw [List.map_cons, List.nodup_cons]
      refine ⟨?_, ih _⟩
      intro h
      obtain ⟨y, hy, hk⟩ := List.mem_map.mp h
      exact (mem_of_mem_distinctFrom hy).2 (by simp [hk])

theorem distinctBy_nodup (key : α → κ) (xs : List α) : ((distinctBy key xs).map key).Nodup :=
  distinctFrom_nodup key [] xs

theorem distinct_nodup (xs : List κ) : (distinct xs).Nodup := by
  simpa [distinct] using distinctBy_nodup id xs

theorem mem_distinctFrom_id {seen xs : List κ} {x : κ} :
    x ∈ distinctFrom id seen xs ↔ x ∈ xs ∧ x ∉ seen := by
  refine ⟨fun h => by simpa using mem_of_mem_distinctFrom h, ?_⟩
  rintro ⟨hx, hs⟩
  induction xs generalizing seen with
  | nil => cases hx
  | cons y ys ih =>
    rw [distinctFrom]
    by_cases hxy : x = y
    · subst hxy; simp [hs]
    · have hx' : x ∈ ys := by simpa [hxy] using hx
      split
      · exact ih hx' hs
      · exact .tail _ (ih hx' (by simp [hxy, hs]))

theorem mem_distinct {xs : List κ} {x : κ} : x ∈ distinct xs ↔ x ∈ xs := by
  simp [distinct, distinctBy, mem_distinctFrom_id]

/-- Of the keys that were seen, only which ones they are counts. -/
theorem distinctFrom_congr (key : α → κ) {seen seen' : List κ} (h : ∀ k, k ∈ seen ↔ k ∈ seen')
    (xs : List α) : distinctFrom key seen xs = distinctFrom key seen' xs := by
  induction xs generalizing seen seen' with
  | nil => rfl
  | cons x xs ih =>
    simp only [distinctFrom, h (key x)]
    split
    · exact ih h
    · exact congrArg _ (ih fun k => by simp [h k])

/-- The second list is read with the keys of the first already seen. -/
theorem distinctFrom_append (key : α → κ) (seen : List κ) (xs ys : List α) :
    distinctFrom key seen (xs ++ ys) =
      distinctFrom key seen xs ++ distinctFrom key ((xs.map key).reverse ++ seen) ys := by
  induction xs generalizing seen with
  | nil => simp [distinctFrom]
  | cons x xs ih =>
    simp only [List.cons_append, distinctFrom, List.map_cons, List.reverse_cons,
      List.append_assoc, List.nil_append]
    split
    · next h =>
      rw [ih]
      congr 1
      apply distinctFrom_congr
      intro k
      simp only [List.mem_append, List.mem_cons]
      constructor
      · rintro (h' | h')
        · exact .inl h'
        · exact .inr (.inr h')
      · rintro (h' | rfl | h')
        · exact .inl h'
        · exact .inr h
        · exact .inr h'
    · rw [ih]; rfl

/-- The items of a second list that are not in the first come behind it, each once. -/
theorem distinct_append (xs ys : List κ) :
    distinct (xs ++ ys) = distinct xs ++ distinct (ys.filter fun y => y ∉ xs) := by
  have hfilter : ∀ seen zs : List κ, distinctFrom id (seen ++ xs.reverse) zs =
      distinctFrom id seen (zs.filter fun y => y ∉ xs) := by
    intro seen zs
    induction zs generalizing seen with
    | nil => rfl
    | cons z zs ih =>
      by_cases hxs : z ∈ xs
      · rw [List.filter_cons_of_neg (by simpa using hxs), distinctFrom, if_pos (by simp [hxs])]
        exact ih seen
      · rw [List.filter_cons_of_pos (by simpa using hxs)]
        simp only [distinctFrom, id, List.mem_append, List.mem_reverse, hxs, or_false]
        split
        · exact ih seen
        · exact congrArg _ (ih (z :: seen))
  rw [distinct, distinctBy, distinctFrom_append, List.map_id, List.append_nil]
  exact congrArg _ (hfilter [] ys)

theorem distinct_concat (xs : List κ) (x : κ) :
    distinct (xs ++ [x]) = if x ∈ xs then distinct xs else distinct xs ++ [x] := by
  rw [distinct_append]
  split
  · next h =>
    rw [List.filter_cons_of_neg (by simpa using h)]
    exact List.append_nil _
  · next h =>
    rw [List.filter_cons_of_pos (by simpa using h)]
    rfl

end ScriptHost.Sequence
