import ScriptHost.Sequence.Distinct

/-!
# Sets in order of entry

A set that remembers in which order its members entered.  Inserting a member again leaves it
where it is; a member that was erased enters at the end again.

## Main results

* `mem_insert`, `mem_erase`, `mem_insertAll` — membership after each operation.
* `toList_insert_of_mem`, `toList_insert_of_not_mem`, `toList_insertAll`, `prefix_insertAll` — what
  insertions do to the order.
-/

namespace ScriptHost.Sequence

/-- A set of items in the order in which they entered. -/
structure OrderedSet (α : Type) where
  /-- The members, oldest first. -/
  toList : List α
  /-- No member is listed twice. -/
  nodup : toList.Nodup

namespace OrderedSet

variable {α : Type}

instance : Membership α (OrderedSet α) := ⟨fun s x => x ∈ s.toList⟩

theorem mem_def {x : α} {s : OrderedSet α} : x ∈ s ↔ x ∈ s.toList := Iff.rfl

/-- The set without members. -/
def empty : OrderedSet α := ⟨[], .nil⟩

instance : Inhabited (OrderedSet α) := ⟨empty⟩

/-- The number of members. -/
def size (s : OrderedSet α) : Nat := s.toList.length

variable [DecidableEq α]

instance (x : α) (s : OrderedSet α) : Decidable (x ∈ s) :=
  inferInstanceAs (Decidable (x ∈ s.toList))

/-- The set with an item, which enters at the end unless it is a member. -/
def insert (s : OrderedSet α) (x : α) : OrderedSet α :=
  if h : x ∈ s.toList then s
  else ⟨s.toList ++ [x], by
    rw [List.nodup_append]
    refine ⟨s.nodup, by simp, ?_⟩
    rintro a ha b hb rfl
    rw [List.mem_singleton] at hb
    exact h (hb ▸ ha)⟩

/-- The set without an item. -/
def erase (s : OrderedSet α) (x : α) : OrderedSet α :=
  ⟨s.toList.erase x, s.nodup.erase x⟩

/-- The set with the items of a list, entered one after the other. -/
def insertAll (s : OrderedSet α) (xs : List α) : OrderedSet α := xs.foldl insert s

/-- The set without the items of a list. -/
def eraseAll (s : OrderedSet α) (xs : List α) : OrderedSet α := xs.foldl erase s

/-- The members of a list, in order of first occurrence. -/
def ofList (xs : List α) : OrderedSet α := empty.insertAll xs

theorem toList_insert_of_mem {s : OrderedSet α} {x : α} (h : x ∈ s) :
    (s.insert x).toList = s.toList := by
  unfold insert
  rw [dif_pos (mem_def.mp h)]

theorem toList_insert_of_not_mem {s : OrderedSet α} {x : α} (h : x ∉ s) :
    (s.insert x).toList = s.toList ++ [x] := by
  unfold insert
  rw [dif_neg (fun h' => h (mem_def.mpr h'))]

theorem mem_insert {s : OrderedSet α} {x y : α} : y ∈ s.insert x ↔ y ∈ s ∨ y = x := by
  by_cases h : x ∈ s
  · rw [mem_def, toList_insert_of_mem h, ← mem_def]
    exact ⟨.inl, fun h' => h'.elim id fun e => e ▸ h⟩
  · rw [mem_def, toList_insert_of_not_mem h, mem_def]
    simp

theorem mem_erase {s : OrderedSet α} {x y : α} : y ∈ s.erase x ↔ y ∈ s ∧ y ≠ x := by
  rw [mem_def, mem_def, erase, s.nodup.mem_erase_iff]
  exact And.comm

theorem mem_insertAll {s : OrderedSet α} {xs : List α} {y : α} :
    y ∈ s.insertAll xs ↔ y ∈ s ∨ y ∈ xs := by
  unfold insertAll
  induction xs generalizing s with
  | nil => simp
  | cons x xs ih =>
    rw [List.foldl_cons, ih, mem_insert, List.mem_cons, or_assoc]

/-- New items enter behind the members, each at its first occurrence. -/
theorem toList_insertAll (s : OrderedSet α) (xs : List α) :
    (s.insertAll xs).toList = s.toList ++ distinctFrom id s.toList xs := by
  unfold insertAll
  induction xs generalizing s with
  | nil => exact (List.append_nil _).symm
  | cons x xs ih =>
    rw [List.foldl_cons, ih, distinctFrom, id]
    by_cases h : x ∈ s
    · rw [toList_insert_of_mem h, if_pos (mem_def.mp h)]
    · have hseen : ∀ k, k ∈ s.toList ++ [x] ↔ k ∈ x :: s.toList := fun k => by simp [or_comm]
      rw [toList_insert_of_not_mem h, if_neg (fun hx => h (mem_def.mpr hx)),
        distinctFrom_congr id hseen, List.append_assoc, List.singleton_append]

/-- Items that enter leave the members in front, in their order. -/
theorem prefix_insertAll (s : OrderedSet α) (xs : List α) :
    s.toList <+: (s.insertAll xs).toList := by
  rw [toList_insertAll]
  exact List.prefix_append _ _

/-- The set of a list has its items, each at its first occurrence. -/
theorem toList_ofList (xs : List α) : (ofList xs).toList = distinct xs := by
  rw [ofList, toList_insertAll]
  rfl

theorem mem_eraseAll {s : OrderedSet α} {xs : List α} {y : α} :
    y ∈ s.eraseAll xs ↔ y ∈ s ∧ y ∉ xs := by
  unfold eraseAll
  induction xs generalizing s with
  | nil => simp
  | cons x xs ih =>
    rw [List.foldl_cons, ih, mem_erase, List.mem_cons, not_or, and_assoc]

end OrderedSet

end ScriptHost.Sequence
