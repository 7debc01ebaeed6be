import ScriptHost.Loose
import ScriptHost.Proofs.Sequence.Occurrences

/-!
# Namespaces that go and namespaces that count

Namespaces are taken away one after the other, each at its first occurrence, and every one of these
steps moves those behind it.  What is left in the end can be said of the two lists alone: an
occurrence stays if there are at least as many like it in front of it as are to be taken away.  So
of every name the first occurrences go, as many as are asked for and are there, and it does not
matter in which order or in how many calls they are asked for.

An execution opens the persistent namespaces and those that its script declares, each at its first
occurrence.  Only the distinct ones of either list count, and those that are found to be open may
take the place of the persistent ones.

Whether two items are the same is asked of their keys.  An item that has none fails the whole
request; if all of them have one, the result is that of the same loop over the keys themselves.

## Main results

* `removal_law` — the law of taking namespaces away.
* `distinctBy?_eq_none_iff`, `distinctBy?_eq_some` — when distinct items are found, and which.
* `effective_law` — the law of distinct items and of the namespaces of one execution.
-/

namespace ScriptHost

/-! ## Items that may have no key -/

namespace Datum

variable {look : Datum → Option Key} {items : List Datum}

/-- Items that all have a key are taken with it. -/
theorem mapM_keyed {keyed : List (Key × Datum)}
    (h : (items.mapM fun d => (look d).map fun k => (k, d)) = some keyed) :
    keyed.map Prod.snd = items ∧ ∀ p ∈ keyed, look p.2 = some p.1 := by
  induction items generalizing keyed with
  | nil =>
      obtain rfl : [] = keyed := Option.some.inj h
      exact ⟨rfl, fun p hp => absurd hp List.not_mem_nil⟩
  | cons d ds ih =>
      simp only [List.mapM_cons, Option.bind_eq_bind, Option.pure_def, Option.bind_eq_some_iff,
        Option.map_eq_some_iff] at h
      obtain ⟨_, ⟨k, hk, rfl⟩, rest, hrest, hkeyed⟩ := h
      obtain rfl : (k, d) :: rest = keyed := Option.some.inj hkeyed
      obtain ⟨hitems, hkeys⟩ := ih hrest
      refine ⟨by rw [List.map_cons, hitems], fun p hp => ?_⟩
      rcases List.mem_cons.mp hp with rfl | hp
      · exact hk
      · exact hkeys p hp

theorem mapM_keyed_eq_none_iff :
    (items.mapM fun d => (look d).map fun k => (k, d)) = none ↔ ∃ d ∈ items, look d = none := by
  induction items with
  | nil => simp
  | cons d ds ih =>
      rw [List.mapM_cons]
      cases hd : look d with
      | none => simp [hd]
      | some k =>
          cases hds : ds.mapM fun d => (look d).map fun k => (k, d) with
          | none => simpa [hd] using ih.mp hds
          | some rest =>
              have hnone : ¬ ∃ d ∈ ds, look d = none := fun h => by simp [ih.mpr h] at hds
              simpa [hd] using hnone

/-- Distinct items are not found exactly if one of the items has no key. -/
theorem distinctBy?_eq_none_iff :
    distinctBy? look items = none ↔ ∃ d ∈ items, look d = none := by
  rw [distinctBy?, Option.map_eq_none_iff, mapM_keyed_eq_none_iff]

/-- If all of them have one, those are found whose key does not occur earlier. -/
theorem distinctBy?_eq_some (h : ∀ d ∈ items, look d ≠ none) :
    distinctBy? look items = some (Sequence.distinctBy look items) := by
  cases hkeyed : items.mapM fun d => (look d).map fun k => (k, d) with
  | none =>
      obtain ⟨d, hd, hnone⟩ := mapM_keyed_eq_none_iff.mp hkeyed
      exact absurd hnone (h d hd)
  | some keyed =>
      obtain ⟨hitems, hkeys⟩ := mapM_keyed hkeyed
      have hsame := Sequence.map_distinctFrom (fun _ _ => Option.some.inj) hkeys []
      rw [distinctBy?, hkeyed, Option.map_some, Sequence.distinctBy, hsame, hitems]
      rfl

end Datum

namespace NamespaceSet

open Sequence (distinct distinctBy firsts remaining)

/-! ## Namespaces that go -/

/-- What it does to a set of namespaces to take some away. -/
structure Removal (set : NamespaceSet) : Prop where
  /-- An occurrence is taken away exactly if fewer of its name stand in front of it than are to be
  taken away; the others keep their order, and the defaults are as they were. -/
  left : ∀ names, set.remove names = { set with names := remaining set.names names }
  /-- Of every name as many go as are to be taken away and are there. -/
  counted : ∀ names n, set.names.count n =
    (set.remove names).names.count n + min (names.count n) (set.names.count n)
  /-- The order in which names are taken away does not matter. -/
  permuted : ∀ names names', names.Perm names' → set.remove names = set.remove names'
  /-- Nor does it whether they are taken away together. -/
  together : ∀ names names', (set.remove names).remove names' = set.remove (names ++ names')
  /-- Names that are added and taken away again leave every name as often as it was there. -/
  restored : ∀ names, ((set.add names).remove names).names.Perm set.names
  /-- If none of them was there, everything is as it was. -/
  undone : ∀ names, (∀ n ∈ names, n ∉ set.names) → (set.add names).remove names = set
  /-- Items of any shape are taken away as names are, if all of them are texts. -/
  loosely : ∀ names, (∀ n ∈ names, Json.openMark ∉ n.toList) →
    set.removeEach names = set.remove names

/-- Whatever names a set holds, and however often, taking some away obeys the law. -/
theorem removal_law (set : NamespaceSet) : Removal set := by
  have hleft : ∀ (s : NamespaceSet) names,
      s.remove names = { s with names := remaining s.names names } := by
    intro s names
    rw [remove, Sequence.foldl_erase]
  constructor
  case left => exact hleft set
  case counted =>
    intro names n
    rw [hleft]
    exact Sequence.count_remaining set.names names n
  case permuted =>
    intro names names' hperm
    rw [hleft, hleft, Sequence.remaining_of_perm hperm]
  case together =>
    intro names names'
    rw [remove, remove, remove, List.foldl_append]
  case restored =>
    intro names
    refine List.perm_iff_count.mpr fun n => ?_
    have hcount := Sequence.count_remaining (set.names ++ names) names n
    rw [List.count_append] at hcount
    rw [hleft]
    show (remaining (set.names ++ names) names).count n = set.names.count n
    omega
  case undone =>
    intro names hfresh
    rw [add, remove, Sequence.foldl_erase_append hfresh]
  case loosely => exact fun names => set.removeEach_of_unmarked

/-- Of a name that stands there twice and is taken away once, the first occurrence goes, in whatever
order it is asked for; and what was added is taken away again. -/
theorem removal_in_sample :
    let set : NamespaceSet := ⟨["A"], ["A", "B", "A", "C"]⟩
    (set.remove ["A", "C"]).names = ["B", "A"] ∧
      set.remove ["C", "A"] = set.remove ["A", "C"] ∧
      (set.add ["D", "E"]).remove ["D", "E"] = set := by
  intro set
  have hlaw := removal_law set
  refine ⟨?_, hlaw.permuted _ _ (List.Perm.swap "A" "C" []), hlaw.undone _ (by decide)⟩
  rw [hlaw.left]
  decide

/-! ## Namespaces that count -/

/-- What it means to leave out the items whose key occurred earlier. -/
structure Deduplication {α κ : Type} [DecidableEq κ] (key : α → κ) : Prop where
  /-- Those are left, in their order, whose key is that of no item in front of them. -/
  firsts : ∀ xs, distinctBy key xs = firsts key xs
  sublist : ∀ xs, (distinctBy key xs).Sublist xs
  /-- No two of them have the same key. -/
  nodup : ∀ xs, ((distinctBy key xs).map key).Nodup
  /-- Distinct items stay as they are. -/
  idem : ∀ xs, distinctBy key (distinctBy key xs) = distinctBy key xs
  /-- Of the first of two lists only the distinct items count. -/
  absorbed : ∀ xs ys, distinctBy key (xs ++ ys) = distinctBy key (distinctBy key xs ++ ys)

/-- How distinct items are found among those that may have no key. -/
structure Lookup (look : Datum → Option Datum.Key) : Prop where
  /-- The request fails exactly if an item has no key. -/
  refused : ∀ items, Datum.distinctBy? look items = none ↔ ∃ d ∈ items, look d = none
  /-- Otherwise the distinct items are found. -/
  found : ∀ items, (∀ d ∈ items, look d ≠ none) →
    Datum.distinctBy? look items = some (distinctBy look items)

/-- The namespaces of one execution. -/
structure Effective (set : NamespaceSet) : Prop where
  /-- No name is open twice. -/
  nodup : ∀ declared, (set.union declared).Nodup
  /-- Exactly the persistent names and the declared ones are open. -/
  exact : ∀ declared n, n ∈ set.union declared ↔ n ∈ set.names ∨ n ∈ declared
  /-- The persistent names come first, each at its first occurrence, and behind them the first
  occurrences of the declared ones that are new. -/
  ordered : ∀ declared, set.union declared =
    firsts id set.names ++ firsts id (declared.filter fun n => n ∉ set.names)
  /-- Repetitions in either list do not count. -/
  repeated : ∀ set' declared declared', firsts id set'.names = firsts id set.names →
    firsts id declared' = firsts id declared → union set' declared' = set.union declared
  /-- More may be declared to what is found to be open. -/
  absorbed : ∀ declared declared',
    set.union (declared ++ declared') = set.union (set.union declared ++ declared')
  /-- If items of any shape are declared, the same names are open if all of them are texts. -/
  loosely : ∀ declared, (∀ n ∈ set.names ++ declared, Json.openMark ∉ n.toList) →
    set.unionOf declared = .ok ((set.union declared).map .text)

theorem deduplication {α κ : Type} [DecidableEq κ] (key : α → κ) : Deduplication key := by
  constructor
  case firsts => exact Sequence.distinctBy_eq_firsts key
  case sublist =>
    intro xs
    exact Sequence.distinctBy_eq_firsts key xs ▸ Sequence.picked_sublist _ xs
  case nodup => exact Sequence.distinctBy_nodup key
  case idem => exact Sequence.distinctBy_idem key
  case absorbed => exact fun xs ys => (Sequence.distinctBy_append_left key xs ys).symm

theorem distinct_eq_firsts (names : List String) : distinct names = firsts id names :=
  Sequence.distinctBy_eq_firsts id names

/-- Only the distinct ones of the names of either list count. -/
theorem union_eq_distinct (set : NamespaceSet) (declared : List String) :
    set.union declared = distinct (distinct set.names ++ distinct declared) := by
  rw [union, distinct, distinct, distinct, distinct, Sequence.distinctBy_append_left,
    Sequence.distinctBy_append_right]

/-- A list that stands there twice counts once. -/
theorem distinct_twice (names declared : List String) :
    distinct (names ++ (names ++ declared)) = distinct (names ++ declared) := by
  have hnone : (names.filter fun n => n ∉ names) = [] :=
    List.filter_eq_nil_iff.mpr fun n hn => by simpa using hn
  have htwice : distinctBy id (names ++ names) = distinctBy id names := by
    show distinct (names ++ names) = distinct names
    rw [Sequence.distinct_append, hnone]
    exact List.append_nil _
  rw [distinct, distinct, ← List.append_assoc, ← Sequence.distinctBy_append_left, htwice,
    Sequence.distinctBy_append_left]

/-- Among texts the distinct ones are found. -/
theorem distinctBy?_texts (names : List String) :
    Datum.distinctBy? Datum.key? (names.map .text) = some ((distinct names).map .text) := by
  have hfound : ∀ d ∈ names.map Datum.text, Datum.key? d ≠ none := by
    intro d hd
    obtain ⟨n, -, rfl⟩ := List.mem_map.mp hd
    nofun
  have hcode : (fun n : String => some (Datum.Key.text n)).Injective :=
    fun a b hab => Datum.Key.text.inj (Option.some.inj hab)
  have hkeys : ∀ n ∈ names, Datum.key? (.text n) = some (Datum.Key.text (id n)) :=
    fun _ _ => rfl
  rw [Datum.distinctBy?_eq_some hfound, distinctBy, ← List.map_nil,
    ← Sequence.map_distinctFrom hcode hkeys []]
  rfl

/-- What is open is the same if items of any shape were declared and all of them are texts. -/
theorem unionOf_of_unmarked (set : NamespaceSet) {declared : List String}
    (h : ∀ n ∈ set.names ++ declared, Json.openMark ∉ n.toList) :
    set.unionOf declared = .ok ((set.union declared).map .text) := by
  have hread : (set.union declared).map (fun n => Datum.ofJson (.ofMarked n)) =
      (set.union declared).map .text := by
    refine List.map_congr_left fun n hn => ?_
    have hmem : n ∈ set.names ++ declared := List.mem_append.mpr (mem_union.mp hn)
    rw [Json.ofMarked_of_unmarked (h n hmem), Datum.ofJson]
  have hidem : distinct (set.union declared) = set.union declared :=
    Sequence.distinctBy_idem id (set.names ++ declared)
  rw [unionOf, hread, distinctBy?_texts, hidem]

theorem effective (set : NamespaceSet) : Effective set := by
  constructor
  case nodup => exact set.union_nodup
  case exact => exact fun declared n => mem_union
  case ordered =>
    intro declared
    rw [union, Sequence.distinct_append, distinct_eq_firsts, distinct_eq_firsts]
  case repeated =>
    intro set' declared declared' hnames hdeclared
    rw [← distinct_eq_firsts, ← distinct_eq_firsts] at hnames hdeclared
    rw [union_eq_distinct, union_eq_distinct, hnames, hdeclared]
  case absorbed =>
    intro declared declared'
    have hopen : distinct (set.names ++ set.union declared) = set.union declared := by
      rw [union, distinct, distinct, Sequence.distinctBy_append_right]
      exact distinct_twice set.names declared
    calc set.union (declared ++ declared')
        = distinct ((set.names ++ declared) ++ declared') := by rw [union, List.append_assoc]
      _ = distinct (set.union declared ++ declared') :=
          (Sequence.distinctBy_append_left id _ _).symm
      _ = distinct (distinct (set.names ++ set.union declared) ++ declared') := by rw [hopen]
      _ = distinct ((set.names ++ set.union declared) ++ declared') :=
          Sequence.distinctBy_append_left id _ _
      _ = set.union (set.union declared ++ declared') := by
          rw [List.append_assoc]
          rfl
  case loosely => exact fun declared => set.unionOf_of_unmarked

/-- Whatever decides on the sameness of items, distinct items obey the law; requests for them fail
just for want of a key; and the namespaces of an execution are made of them. -/
theorem effective_law {α κ : Type} [DecidableEq κ] (key : α → κ) (look : Datum → Option Datum.Key)
    (set : NamespaceSet) : Deduplication key ∧ Lookup look ∧ Effective set :=
  ⟨deduplication key,
    ⟨fun _ => Datum.distinctBy?_eq_none_iff, fun _ => Datum.distinctBy?_eq_some⟩, effective set⟩

/-- One that counts as a number is the same item as the number, and a persistent name that is
declared again is open once, where it stood. -/
theorem effective_in_sample :
    Datum.distinctBy? Datum.key? [.int 1, .text "a", .bool true] = some [.int 1, .text "a"] ∧
      union ⟨["A"], ["A", "B", "A"]⟩ ["C", "B", "C"] = ["A", "B", "C"] ∧
      union ⟨["A"], ["A", "B"]⟩ ["C", "B"] = union ⟨["A"], ["A", "B", "A"]⟩ ["C", "B", "C"] := by
  obtain ⟨-, hlookup, heffective⟩ :=
    effective_law (id : String → String) Datum.key? ⟨["A"], ["A", "B", "A"]⟩
  refine ⟨?_, ?_, heffective.repeated ⟨["A"], ["A", "B"]⟩ _ _ (by decide) (by decide)⟩
  · rw [hlookup.found _ (by decide)]
    rfl
  · rw [heffective.ordered]
    decide

/-- Distinct items are not found in every list: two lists with the same item have no key. -/
theorem distinct_items_not_found :
    Datum.distinctBy? Datum.key? [.list [.text "a"], .list [.text "a"]] = none ∧
      ¬ ∀ items, ∃ found, Datum.distinctBy? Datum.key? items = some found := by
  have hnone : Datum.distinctBy? Datum.key? [.list [.text "a"], .list [.text "a"]] = none := rfl
  refine ⟨hnone, fun h => ?_⟩
  obtain ⟨found, hfound⟩ := h [.list [.text "a"], .list [.text "a"]]
  rw [hnone] at hfound
  cases hfound

end NamespaceSet

end ScriptHost
