import Mathlib.Data.List.Nodup
import Mathlib.Data.List.Perm.Basic
import ScriptHost.Proofs.Sequence.Occurrences
import ScriptHost.Sequence.OrderedSet

/-!
# The history of a set in order of entry

What has happened to a set is told event by event: an item entered, an item left, or everything
left and the items of a list entered one after the other.  From these events alone it can be said
which items are present, by the last event that concerns each, and when each of them became
present for the last time.  A set in order of entry lists the present items in the order of these
moments.

A history is told with the newest event first.

## Main results

* `Lists.unique` — a history leaves no choice in what is listed.
* `Lists.entered`, `Lists.left`, `lists_restored` — what one event does to the list.
* `Tracks.insertAll`, `Tracks.eraseAll` — sets that are changed item by item keep to the history.
-/

namespace ScriptHost

namespace Sequence

variable {α : Type}

/-! ## Events -/

/-- What may happen to a set of items. -/
inductive Event (α : Type) where
  /-- Everything left, and the items of a list entered. -/
  | restored (items : List α)
  | entered (item : α)
  | left (item : α)

namespace Event

variable [DecidableEq α]

/-- Whether an event leaves an item present, if it concerns the item. -/
def verdict? : Event α → α → Option Bool
  | restored items, x => some (decide (x ∈ items))
  | entered y, x => if y = x then some true else none
  | left y, x => if y = x then some false else none

end Event

section Past

variable [DecidableEq α]

/-- Whether an item is present: the last event that concerns it left it so. -/
def isPresent (past : List (Event α)) (x : α) : Bool :=
  (past.findSome? fun e => e.verdict? x).getD false

/-- When an item became present for the last time: the number of events before, and its place among
the items of a list.  When everything leaves, all of it is absent before anything enters; an item
that enters while it is present does not become present. -/
def moment? : List (Event α) → α → Option (Nat × Nat)
  | [], _ => none
  | .restored items :: past, x =>
    if x ∈ items then some (past.length, items.idxOf x) else moment? past x
  | .entered y :: past, x =>
    if y = x ∧ isPresent past x = false then some (past.length, 0) else moment? past x
  | .left _ :: past, x => moment? past x

/-- Whether one item became present before another. -/
def Earlier (past : List (Event α)) (x y : α) : Prop :=
  ∃ m n, moment? past x = some m ∧ moment? past y = some n ∧
    (m.1 < n.1 ∨ m.1 = n.1 ∧ m.2 < n.2)

/-- Whether a list has the items that are present, each once, in the order of the moments at which
they became present for the last time. -/
structure Lists (past : List (Event α)) (xs : List α) : Prop where
  nodup : xs.Nodup
  present : ∀ x, x ∈ xs ↔ isPresent past x = true
  ordered : xs.Pairwise (Earlier past)

end Past

/-! ## Present items -/

section Present

variable [DecidableEq α]

@[simp] theorem isPresent_restored (past : List (Event α)) (items : List α) (x : α) :
    isPresent (.restored items :: past) x = decide (x ∈ items) := rfl

@[simp] theorem isPresent_entered (past : List (Event α)) (y x : α) :
    isPresent (.entered y :: past) x = (decide (y = x) || isPresent past x) := by
  by_cases h : y = x
  · simp [isPresent, Event.verdict?, h]
  · simp [isPresent, Event.verdict?, h]

@[simp] theorem isPresent_left (past : List (Event α)) (y x : α) :
    isPresent (.left y :: past) x = (!decide (y = x) && isPresent past x) := by
  by_cases h : y = x
  · simp [isPresent, Event.verdict?, h]
  · simp [isPresent, Event.verdict?, h]

end Present

/-! ## Moments -/

section Moments

variable [DecidableEq α] {past : List (Event α)} {x y : α}

/-- Moments lie in the past. -/
theorem lt_of_moment? {m : Nat × Nat} (h : moment? past x = some m) : m.1 < past.length := by
  induction past with
  | nil => cases h
  | cons e past ih =>
      have hlater : moment? past x = some m → m.1 < (e :: past).length :=
        fun h => Nat.lt_succ_of_lt (ih h)
      cases e with
      | restored items =>
          rw [moment?] at h
          split at h
          · cases h
            exact Nat.lt_succ_self _
          · exact hlater h
      | entered y =>
          rw [moment?] at h
          split at h
          · cases h
            exact Nat.lt_succ_self _
          · exact hlater h
      | left y => exact hlater h

/-- What is present has become so. -/
theorem moment?_of_isPresent (h : isPresent past x = true) : ∃ m, moment? past x = some m := by
  induction past with
  | nil => cases h
  | cons e past ih =>
      cases e with
      | restored items =>
          have hx : x ∈ items := by simpa using h
          exact ⟨_, if_pos hx⟩
      | entered y =>
          by_cases hentry : y = x ∧ isPresent past x = false
          · exact ⟨_, if_pos hentry⟩
          · have hbefore : isPresent past x = true := by
              rcases Bool.eq_false_or_eq_true (isPresent past x) with htrue | hfalse
              · exact htrue
              · have hyx : y = x := by simpa [hfalse] using h
                exact absurd ⟨hyx, hfalse⟩ hentry
            rw [moment?, if_neg hentry]
            exact ih hbefore
      | left y =>
          have hbefore : isPresent past x = true := by
            rw [isPresent_left, Bool.and_eq_true] at h
            exact h.2
          exact ih hbefore

/-- An item that becomes present now does so after all others. -/
theorem earlier_entered (hx : isPresent past x = false) (hy : isPresent past y = true) :
    Earlier (.entered x :: past) y x := by
  have hne : ¬ (x = y ∧ isPresent past y = false) := fun h => by rw [hy] at h; cases h.2
  obtain ⟨m, hm⟩ := moment?_of_isPresent hy
  exact ⟨m, (past.length, 0), (if_neg hne).trans hm, if_pos ⟨rfl, hx⟩, .inl (lt_of_moment? hm)⟩

/-- What stays present keeps its moment. -/
theorem Earlier.entered {z : α} (h : Earlier past x y) (hx : isPresent past x = true)
    (hy : isPresent past y = true) : Earlier (.entered z :: past) x y := by
  have hkept : ∀ w, isPresent past w = true → moment? (.entered z :: past) w = moment? past w := by
    intro w hw
    rw [moment?, if_neg fun h => by rw [hw] at h; cases h.2]
  rwa [Earlier, hkept x hx, hkept y hy]

theorem Earlier.asymm (h : Earlier past x y) : ¬ Earlier past y x := by
  obtain ⟨m, n, hm, hn, hmn⟩ := h
  rintro ⟨n', m', hn', hm', hnm⟩
  obtain rfl : m = m' := Option.some.inj (hm.symm.trans hm')
  obtain rfl : n = n' := Option.some.inj (hn.symm.trans hn')
  omega

end Moments

/-! ## Lists that keep to a history -/

section Listing

variable [DecidableEq α] {past : List (Event α)} {xs : List α}

/-- A history leaves no choice in what is listed. -/
theorem Lists.unique {ys : List α} (hxs : Lists past xs) (hys : Lists past ys) : xs = ys := by
  have hperm : xs.Perm ys := (List.perm_ext_iff_of_nodup hxs.nodup hys.nodup).mpr fun x =>
    (hxs.present x).trans (hys.present x).symm
  exact hperm.eq_of_pairwise (fun _ _ _ _ h h' => absurd h' h.asymm) hxs.ordered hys.ordered

/-- Distinct items stand in the order of their first occurrences. -/
theorem pairwise_idxOf_distinctFrom (seen xs : List α) :
    (distinctFrom id seen xs).Pairwise fun x y => xs.idxOf x < xs.idxOf y := by
  induction xs generalizing seen with
  | nil => exact .nil
  | cons z zs ih =>
      have hbehind : ∀ x, x ≠ z → (z :: zs).idxOf x = zs.idxOf x + 1 :=
        fun x hx => List.idxOf_cons_ne zs (Ne.symm hx)
      have htail : ∀ seen', z ∈ seen' → (distinctFrom id seen' zs).Pairwise fun x y =>
          (z :: zs).idxOf x < (z :: zs).idxOf y := by
        intro seen' hz
        have hne : ∀ x ∈ distinctFrom id seen' zs, x ≠ z :=
          fun x hx heq => (mem_of_mem_distinctFrom hx).2 (heq ▸ hz)
        refine (ih seen').imp_of_mem fun {x y} hx hy hlt => ?_
        rw [hbehind x (hne x hx), hbehind y (hne y hy)]
        exact Nat.succ_lt_succ hlt
      rw [distinctFrom]
      by_cases hz : z ∈ seen
      · rw [id, if_pos hz]
        exact htail seen hz
      · rw [id, if_neg hz]
        refine List.pairwise_cons.mpr ⟨fun y hy => ?_, htail _ List.mem_cons_self⟩
        have hne : y ≠ z :=
          fun heq => (mem_of_mem_distinctFrom hy).2 (heq ▸ List.mem_cons_self)
        rw [hbehind y hne, List.idxOf_cons_self]
        exact Nat.succ_pos _

/-- After a restoration the items of the list are there, each where it occurred first. -/
theorem lists_restored (past : List (Event α)) (items : List α) :
    Lists (.restored items :: past) (distinct items) := by
  constructor
  case nodup => exact distinct_nodup items
  case present =>
    intro x
    rw [mem_distinct, isPresent_restored, decide_eq_true_iff]
  case ordered =>
    refine (pairwise_idxOf_distinctFrom [] items).imp_of_mem fun {x y} hx hy hlt => ?_
    have hmoment : ∀ z ∈ distinct items,
        moment? (.restored items :: past) z = some (past.length, items.idxOf z) :=
      fun z hz => if_pos (mem_distinct.mp hz)
    exact ⟨_, _, hmoment x hx, hmoment y hy, .inr ⟨rfl, hlt⟩⟩

/-- An item that enters is listed at the end, unless it is listed already. -/
theorem Lists.entered (h : Lists past xs) (x : α) :
    Lists (.entered x :: past) (if x ∈ xs then xs else xs ++ [x]) := by
  have hkept : xs.Pairwise (Earlier (.entered x :: past)) :=
    h.ordered.imp_of_mem fun ha hb hab =>
      hab.entered ((h.present _).mp ha) ((h.present _).mp hb)
  constructor
  case nodup =>
    split
    · exact h.nodup
    · next hx => exact List.nodup_append.mpr ⟨h.nodup, List.nodup_singleton x, fun y hy z hz heq =>
        hx (List.mem_singleton.mp hz ▸ heq ▸ hy)⟩
  case present =>
    intro y
    rw [isPresent_entered, Bool.or_eq_true, ← h.present y, decide_eq_true_iff]
    split
    · next hx => exact ⟨.inr, fun hy => hy.elim (fun heq => heq ▸ hx) id⟩
    · rw [List.mem_append, List.mem_singleton, or_comm, eq_comm]
  case ordered =>
    split
    · exact hkept
    · next hx =>
      have hnew : isPresent past x = false := by
        simpa using fun hpresent => hx ((h.present x).mpr hpresent)
      refine List.pairwise_append.mpr ⟨hkept, List.pairwise_singleton _ _, fun y hy z hz => ?_⟩
      rw [List.mem_singleton.mp hz]
      exact earlier_entered hnew ((h.present y).mp hy)

/-- An item that leaves is not listed any more. -/
theorem Lists.left (h : Lists past xs) (x : α) : Lists (.left x :: past) (xs.erase x) := by
  constructor
  case nodup => exact h.nodup.erase x
  case present =>
    intro y
    rw [h.nodup.mem_erase_iff, h.present y, isPresent_left, Bool.and_eq_true, Bool.not_eq_true',
      decide_eq_false_iff_not, ne_comm]
  case ordered => exact h.ordered.sublist List.erase_sublist

end Listing

/-! ## Sets that keep to a history -/

section Sets

variable {β : Type} [DecidableEq α] [DecidableEq β] {make : α → β} {past : List (Event α)}
  {s : OrderedSet β}

/-- Whether a set lists what is made of the items that a history makes present. -/
def Tracks (make : α → β) (past : List (Event α)) (s : OrderedSet β) : Prop :=
  ∃ xs, s.toList = xs.map make ∧ Lists past xs

theorem Tracks.insert (hmake : make.Injective) (h : Tracks make past s) (x : α) :
    Tracks make (.entered x :: past) (s.insert (make x)) := by
  obtain ⟨xs, hs, hxs⟩ := h
  have hmem : make x ∈ s ↔ x ∈ xs := by
    rw [OrderedSet.mem_def, hs, List.mem_map_of_injective hmake]
  refine ⟨if x ∈ xs then xs else xs ++ [x], ?_, hxs.entered x⟩
  by_cases hx : x ∈ xs
  · rw [if_pos hx, OrderedSet.toList_insert_of_mem (hmem.mpr hx), hs]
  · rw [if_neg hx, OrderedSet.toList_insert_of_not_mem (fun h => hx (hmem.mp h)), hs,
      List.map_append, List.map_singleton]

theorem Tracks.erase (hmake : make.Injective) (h : Tracks make past s) (x : α) :
    Tracks make (.left x :: past) (s.erase (make x)) := by
  obtain ⟨xs, hs, hxs⟩ := h
  have herase : s.toList.erase (make x) = (xs.erase x).map make := by
    rw [hs, List.map_erase hmake]
  exact ⟨xs.erase x, herase, hxs.left x⟩

/-- Items that enter one after the other are so many events, the last of them newest. -/
theorem Tracks.insertAll (hmake : make.Injective) (h : Tracks make past s) (xs : List α) :
    Tracks make ((xs.map .entered).reverse ++ past) (s.insertAll (xs.map make)) := by
  induction xs generalizing past s with
  | nil => exact h
  | cons x xs ih =>
      have hrest := ih (h.insert hmake x)
      rwa [List.map_cons, List.map_cons, List.reverse_cons, List.append_assoc]

theorem Tracks.eraseAll (hmake : make.Injective) (h : Tracks make past s) (xs : List α) :
    Tracks make ((xs.map .left).reverse ++ past) (s.eraseAll (xs.map make)) := by
  induction xs generalizing past s with
  | nil => exact h
  | cons x xs ih =>
      have hrest := ih (h.erase hmake x)
      rwa [List.map_cons, List.map_cons, List.reverse_cons, List.append_assoc]

/-- The set of a list is restored from it. -/
theorem tracks_ofList (past : List (Event α)) (items : List α) :
    Tracks id (.restored items :: past) (OrderedSet.ofList items) :=
  ⟨distinct items, by rw [OrderedSet.toList_ofList, List.map_id], lists_restored past items⟩

omit [DecidableEq β] in
theorem tracks_empty (make : α → β) (past : List (Event α)) :
    Tracks make (.restored [] :: past) OrderedSet.empty :=
  ⟨[], rfl, lists_restored past []⟩

end Sets

end Sequence

end ScriptHost
