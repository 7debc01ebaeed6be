import Mathlib.Data.List.Count
import Mathlib.Data.List.Lattice
import Mathlib.Data.List.Perm.Basic
import ScriptHost.Sequence.Distinct

/-!
# Occurrences

Some operations look at the items of a list one after the other and remember what they came upon:
taking items away, each at its first occurrence, or leaving out those whose key has been met.  What
they leave can be said of the list alone.  Whether an item is picked is decided by the items in
front of it, and those that are picked keep their order.

## Main results

* `foldl_erase` — what is left of a list when others are taken away.
* `foldl_erase_append` — what was put behind a list without it is taken away again.
* `distinctBy_eq_firsts` — the distinct items are those whose key does not stand in front of them.
* `distinctFrom_distinctFrom`, `distinctBy_append_left`, `distinctBy_append_right` — distinct items
  of distinct items.
-/

namespace ScriptHost

namespace Sequence

/-! ## Items that are picked by what stands in front of them -/

section Picked

variable {α : Type}

/-- The items of a list that are picked in view of the items in front of them. -/
def picked (picks : List α → α → Bool) (xs : List α) : List α :=
  (xs.zipIdx.filter fun p => picks (xs.take p.2) p.1).map Prod.fst

theorem picked_cons (picks : List α → α → Bool) (x : α) (xs : List α) :
    picked picks (x :: xs) =
      (if picks [] x then [x] else []) ++ picked (fun front y => picks (x :: front) y) xs := by
  have htail : ((xs.zipIdx 1).filter fun p => picks ((x :: xs).take p.2) p.1).map Prod.fst =
      picked (fun front y => picks (x :: front) y) xs := by
    rw [List.zipIdx_succ, List.filter_map, List.map_map]
    rfl
  rw [picked, List.zipIdx_cons, Nat.zero_add, List.filter_cons]
  by_cases h : picks [] x
  · rw [if_pos h, if_pos (by simpa using h), List.map_cons, htail]
    rfl
  · rw [if_neg h, if_neg (by simpa using h), htail]
    rfl

theorem picked_congr {picks picks' : List α → α → Bool}
    (h : ∀ front x, picks front x = picks' front x) (xs : List α) :
    picked picks xs = picked picks' xs := by
  simp only [picked, h]

theorem picked_sublist (picks : List α → α → Bool) (xs : List α) :
    (picked picks xs).Sublist xs := by
  have hall : xs.zipIdx.map Prod.fst = xs := List.zipIdx_map_fst 0 xs
  conv => rhs; rw [← hall]
  exact List.filter_sublist.map Prod.fst

end Picked

/-! ## Items that are taken away -/

section Remaining

variable {α : Type} [DecidableEq α]

/-- The items that stay when others are taken away: those with at least as many like them in front
of them as are taken away. -/
def remaining (xs taken : List α) : List α :=
  picked (fun front x => taken.count x ≤ front.count x) xs

theorem remaining_cons_of_mem {x : α} {taken : List α} (h : x ∈ taken) (xs : List α) :
    remaining (x :: xs) taken = remaining xs (taken.erase x) := by
  have hpos : 0 < taken.count x := List.count_pos_iff.mpr h
  have hsame : ∀ (front : List α) (y : α),
      decide (taken.count y ≤ (x :: front).count y) =
        decide ((taken.erase x).count y ≤ front.count y) := by
    intro front y
    by_cases hy : x = y
    · subst hy
      rw [List.count_cons_self, List.count_erase_self, decide_eq_decide]
      omega
    · rw [List.count_cons_of_ne hy, List.count_erase_of_ne (Ne.symm hy)]
  rw [remaining, picked_cons, if_neg (by simpa using Nat.ne_of_gt hpos), List.nil_append,
    picked_congr hsame]
  rfl

theorem remaining_cons_of_not_mem {x : α} {taken : List α} (h : x ∉ taken) (xs : List α) :
    remaining (x :: xs) taken = x :: remaining xs taken := by
  have hnone : taken.count x = 0 := List.count_eq_zero.mpr h
  have hsame : ∀ (front : List α) (y : α),
      decide (taken.count y ≤ (x :: front).count y) = decide (taken.count y ≤ front.count y) := by
    intro front y
    by_cases hy : x = y
    · subst hy
      simp only [hnone, Nat.zero_le]
    · rw [List.count_cons_of_ne hy]
  rw [remaining, picked_cons, if_pos (by simp [hnone]), picked_congr hsame]
  rfl

/-- Taking items away one after the other leaves just those that stay by the counts. -/
theorem foldl_erase (xs taken : List α) : taken.foldl List.erase xs = remaining xs taken := by
  rw [← List.diff_eq_foldl]
  induction xs generalizing taken with
  | nil => exact List.nil_diff taken
  | cons x xs ih =>
      by_cases h : x ∈ taken
      · rw [List.cons_diff_of_mem h, remaining_cons_of_mem h, ih]
      · rw [List.cons_diff_of_not_mem h, remaining_cons_of_not_mem h, ih]

/-- Which items stay depends on nothing but how many of each are taken away. -/
theorem remaining_of_perm {taken taken' : List α} (h : taken.Perm taken') (xs : List α) :
    remaining xs taken = remaining xs taken' :=
  picked_congr (fun front x => by rw [h.count_eq x]) xs

theorem count_remaining (xs taken : List α) (x : α) :
    xs.count x = (remaining xs taken).count x + min (taken.count x) (xs.count x) := by
  rw [← foldl_erase, ← List.diff_eq_foldl, List.count_diff]
  omega

/-- Items that a list does not have are taken away again from behind it. -/
theorem foldl_erase_append {xs added : List α} (h : ∀ x ∈ added, x ∉ xs) :
    added.foldl List.erase (xs ++ added) = xs := by
  induction added with
  | nil => exact List.append_nil xs
  | cons x added ih =>
      rw [List.foldl_cons, List.erase_append_right _ (h x List.mem_cons_self),
        List.erase_cons_head]
      exact ih fun y hy => h y (List.mem_cons_of_mem x hy)

end Remaining

/-! ## Items whose key is new -/

section Firsts

variable {α κ : Type} [DecidableEq κ]

/-- The items of a list whose key is that of no item in front of them. -/
def firsts (key : α → κ) (xs : List α) : List α :=
  picked (fun front x => key x ∉ front.map key) xs

/-- Keys that have been seen already might as well stand in front of the list. -/
theorem distinctFrom_eq_picked (key : α → κ) (seen : List κ) (xs : List α) :
    distinctFrom key seen xs = picked (fun front x => key x ∉ seen ++ front.map key) xs := by
  induction xs generalizing seen with
  | nil => rfl
  | cons x xs ih =>
      rw [distinctFrom, picked_cons]
      by_cases h : key x ∈ seen
      · have hsame : ∀ (front : List α) (y : α),
            decide (key y ∉ seen ++ front.map key) =
              decide (key y ∉ seen ++ (x :: front).map key) := by
          intro front y
          have hfront : key y ∈ key x :: front.map key → key y ∈ seen ∨ key y ∈ front.map key :=
            fun hy => (List.mem_cons.mp hy).imp_left fun heq => by rw [heq]; exact h
          rw [decide_eq_decide, List.map_cons, List.mem_append, List.mem_append]
          exact not_congr ⟨fun hy => hy.imp_right (List.mem_cons_of_mem _),
            fun hy => hy.elim .inl hfront⟩
        rw [if_pos h, if_neg (by simpa using h), List.nil_append, ih, picked_congr hsame]
      · have hsame : ∀ (front : List α) (y : α),
            decide (key y ∉ key x :: seen ++ front.map key) =
              decide (key y ∉ seen ++ (x :: front).map key) := by
          intro front y
          simp only [List.map_cons, List.mem_append, List.mem_cons, decide_eq_decide]
          rw [or_assoc, or_left_comm]
        rw [if_neg h, if_pos (by simpa using h), ih, picked_congr hsame, List.singleton_append]

/-- The distinct items are those whose key does not occur earlier. -/
theorem distinctBy_eq_firsts (key : α → κ) (xs : List α) : distinctBy key xs = firsts key xs := by
  rw [distinctBy, distinctFrom_eq_picked]
  rfl

/-- Leaving out items with known keys does not mind if some of them have been left out before. -/
theorem distinctFrom_distinctFrom (key : α → κ) {seen seen' : List κ} (h : ∀ k ∈ seen', k ∈ seen)
    (xs : List α) :
    distinctFrom key seen (distinctFrom key seen' xs) = distinctFrom key seen xs := by
  induction xs generalizing seen seen' with
  | nil => rfl
  | cons x xs ih =>
      rw [distinctFrom, distinctFrom]
      by_cases hx' : key x ∈ seen'
      · rw [if_pos hx', if_pos (h _ hx')]
        exact ih h
      · rw [if_neg hx', distinctFrom]
        by_cases hx : key x ∈ seen
        · rw [if_pos hx, if_pos hx]
          refine ih fun k hk => ?_
          rcases List.mem_cons.mp hk with rfl | hk
          · exact hx
          · exact h k hk
        · rw [if_neg hx, if_neg hx]
          refine congrArg _ (ih fun k hk => ?_)
          rcases List.mem_cons.mp hk with rfl | hk
          · exact List.mem_cons_self
          · exact List.mem_cons_of_mem _ (h k hk)

/-- Items that are made of others are as distinct as these if their keys are. -/
theorem map_distinctFrom {β κ' : Type} [DecidableEq κ'] {key : α → κ} {key' : β → κ'} {make : α → β}
    {code : κ → κ'} (hcode : code.Injective) {xs : List α}
    (h : ∀ x ∈ xs, key' (make x) = code (key x)) (seen : List κ) :
    (distinctFrom key seen xs).map make = distinctFrom key' (seen.map code) (xs.map make) := by
  induction xs generalizing seen with
  | nil => rfl
  | cons x xs ih =>
      have hhead := h x List.mem_cons_self
      have htail := ih fun y hy => h y (List.mem_cons_of_mem x hy)
      rw [distinctFrom, List.map_cons, distinctFrom, hhead]
      by_cases hx : key x ∈ seen
      · rw [if_pos hx, if_pos (List.mem_map_of_mem hx), htail]
      · rw [if_neg hx, if_neg (fun hmem => hx ((List.mem_map_of_injective hcode).mp hmem)),
          List.map_cons, htail, List.map_cons]

theorem distinctBy_idem (key : α → κ) (xs : List α) :
    distinctBy key (distinctBy key xs) = distinctBy key xs :=
  distinctFrom_distinctFrom key (fun _ => id) xs

/-- No key is lost. -/
theorem mem_keys_distinctFrom {key : α → κ} {seen : List κ} {xs : List α} {k : κ} :
    k ∈ (distinctFrom key seen xs).map key ↔ k ∈ xs.map key ∧ k ∉ seen := by
  induction xs generalizing seen with
  | nil => simp [distinctFrom]
  | cons x xs ih =>
      rw [distinctFrom]
      by_cases hx : key x ∈ seen
      · rw [if_pos hx, ih, List.map_cons, List.mem_cons]
        constructor
        · exact fun h => ⟨.inr h.1, h.2⟩
        · rintro ⟨rfl | h, hk⟩
          · exact absurd hx hk
          · exact ⟨h, hk⟩
      · rw [if_neg hx, List.map_cons, List.map_cons, List.mem_cons, List.mem_cons, ih,
          List.mem_cons]
        constructor
        · rintro (rfl | ⟨h, hk⟩)
          · exact ⟨.inl rfl, hx⟩
          · exact ⟨.inr h, fun hs => hk (.inr hs)⟩
        · rintro ⟨rfl | h, hk⟩
          · exact .inl rfl
          · by_cases hkx : k = key x
            · exact .inl hkx
            · exact .inr ⟨h, fun hs => hs.elim hkx hk⟩

/-- Of the first of two lists only the distinct items count for both. -/
theorem distinctBy_append_left (key : α → κ) (xs ys : List α) :
    distinctBy key (distinctBy key xs ++ ys) = distinctBy key (xs ++ ys) := by
  have hseen : ∀ k, k ∈ ((distinctBy key xs).map key).reverse ++ [] ↔
      k ∈ (xs.map key).reverse ++ [] := by
    intro k
    rw [List.append_nil, List.append_nil, List.mem_reverse, List.mem_reverse, distinctBy,
      mem_keys_distinctFrom]
    exact and_iff_left List.not_mem_nil
  have hfirst : distinctFrom key [] (distinctBy key xs) = distinctFrom key [] xs :=
    distinctBy_idem key xs
  rw [distinctBy, distinctFrom_append, distinctFrom_congr key hseen, hfirst, distinctBy,
    distinctFrom_append]

/-- Of the second of two lists only the distinct items count for both. -/
theorem distinctBy_append_right (key : α → κ) (xs ys : List α) :
    distinctBy key (xs ++ distinctBy key ys) = distinctBy key (xs ++ ys) := by
  have hsecond : ∀ seen, distinctFrom key seen (distinctBy key ys) = distinctFrom key seen ys :=
    fun seen => distinctFrom_distinctFrom key (fun _ hk => absurd hk List.not_mem_nil) ys
  rw [distinctBy, distinctFrom_append, hsecond, distinctBy, distinctFrom_append]

end Firsts

end Sequence

end ScriptHost
