import Mathlib.Data.List.Nodup
import ScriptHost.Proofs.Text.Lower
import ScriptHost.Sequence.Entries

/-!
# Entries by names in any case

Of entries that are written one after the other the last one of a name counts.  Where names count
in any case, an entry may be spelled in several ways; one that is written under a name takes the
place of the first entry of just that name, and so may come to stand in front of another spelling.

## Main results

* `get?_putAll`, `get?_ofList` — reading entries that were written one after the other.
* `get?_chosen` — reading the entries of some of several items.
* `getLast?_spelled_putAll` — the last entry of a name in any case, after writing.
-/

namespace ScriptHost

namespace Sequence.Entries

variable {β : Type}

theorem get?_eq_find? (es : Entries β) (name : String) :
    get? es name = (es.find? fun e => e.1 = name).map Prod.snd := by
  induction es with
  | nil => rfl
  | cons e es ih =>
      obtain ⟨n, v⟩ := e
      by_cases h : n = name
      · simp [get?, h]
      · simp [get?, h, ih]

theorem get?_append (es fs : Entries β) (name : String) :
    get? (es ++ fs) name = (get? es name).or (get? fs name) := by
  rw [get?_eq_find?, get?_eq_find?, get?_eq_find?, List.find?_append]
  cases es.find? fun e => e.1 = name with
  | none => rfl
  | some e => rfl

/-- Of entries that are written over others the last one of a name counts. -/
theorem get?_putAll (es others : Entries β) (name : String) :
    get? (putAll es others) name = (get? others.reverse name).or (get? es name) := by
  induction others generalizing es with
  | nil => rfl
  | cons e others ih =>
      have hput : get? (put es e.1 e.2) name =
          (get? [e] name).or (get? es name) := by
        by_cases h : e.1 = name
        · rw [h, get?_put_self]
          simp [get?, h]
        · rw [get?_put_of_ne es e.2 (Ne.symm h)]
          simp [get?, h]
      have hstep : putAll es (e :: others) = putAll (put es e.1 e.2) others := rfl
      rw [hstep, ih, hput, List.reverse_cons, get?_append, Option.or_assoc]

theorem get?_ofList (pairs : List (String × β)) (name : String) :
    get? (ofList pairs) name = get? pairs.reverse name := by
  rw [ofList, get?_putAll]
  exact Option.or_none

theorem mem_names_put {es : Entries β} {name other : String} {value : β}
    (h : other ∈ names (put es name value)) : other ∈ names es ∨ other = name := by
  rw [names_put] at h
  split at h
  · exact .inl h
  · rcases List.mem_append.mp h with hin | hin
    · exact .inl hin
    · exact .inr (List.mem_singleton.mp hin)

theorem nodup_names_put {es : Entries β} (h : (names es).Nodup) (name : String) (value : β) :
    (names (put es name value)).Nodup := by
  rw [names_put]
  split
  · exact h
  · next hnot => exact List.Nodup.append h (List.nodup_singleton name) (by simpa using hnot)

theorem nodup_names_putAll {es : Entries β} (h : (names es).Nodup) (others : Entries β) :
    (names (putAll es others)).Nodup := by
  induction others generalizing es with
  | nil => exact h
  | cons e others ih => exact ih (nodup_names_put h e.1 e.2)

theorem nodup_names_ofList (pairs : List (String × β)) : (names (ofList pairs)).Nodup := by
  have hnone : (names ([] : Entries β)).Nodup := List.nodup_nil
  exact nodup_names_putAll hnone pairs

/-- An entry of a new name is written at the end. -/
theorem put_of_not_mem {es : Entries β} {name : String} (h : name ∉ names es) (value : β) :
    put es name value = es ++ [(name, value)] := by
  induction es with
  | nil => rfl
  | cons e es ih =>
      have hhead : e.1 ≠ name := fun heq => h (heq ▸ List.mem_cons_self)
      have htail : name ∉ names es := fun hmem => h (List.mem_cons_of_mem _ hmem)
      rw [put, if_neg hhead, ih htail, List.cons_append]

/-- Entries of new names are written behind one another. -/
theorem putAll_of_nodup {es others : Entries β} (h : (names (es ++ others)).Nodup) :
    putAll es others = es ++ others := by
  induction others generalizing es with
  | nil => exact (List.append_nil es).symm
  | cons e others ih =>
      have hnew : e.1 ∉ names es := by
        rw [names, List.map_append, List.map_cons] at h
        exact fun hmem => (List.nodup_append.mp h).2.2 _ hmem _ List.mem_cons_self rfl
      have hshifted : es ++ e :: others = (es ++ [e]) ++ others := by
        rw [List.append_assoc, List.singleton_append]
      rw [hshifted] at h ⊢
      exact (congrArg (putAll · others) (put_of_not_mem hnew e.2)).trans (ih h)

theorem ofList_of_nodup {pairs : List (String × β)} (h : (names pairs).Nodup) :
    ofList pairs = pairs := by
  have hnone : (names (([] : Entries β) ++ pairs)).Nodup := h
  exact putAll_of_nodup hnone

theorem mem_of_mem_put {es : Entries β} {name : String} {value : β} {e : String × β}
    (h : e ∈ put es name value) : e ∈ es ∨ e = (name, value) := by
  induction es with
  | nil => exact .inr (List.mem_singleton.mp h)
  | cons first es ih =>
      obtain ⟨n, v⟩ := first
      rw [put] at h
      split at h
      · next heq =>
        subst heq
        rcases List.mem_cons.mp h with hfirst | hin
        · exact .inr hfirst
        · exact .inl (List.mem_cons_of_mem _ hin)
      · rcases List.mem_cons.mp h with hfirst | hin
        · exact .inl (hfirst ▸ List.mem_cons_self)
        · rcases ih hin with hold | hnew
          · exact .inl (List.mem_cons_of_mem _ hold)
          · exact .inr hnew

theorem mem_of_mem_putAll {es others : Entries β} {e : String × β} (h : e ∈ putAll es others) :
    e ∈ es ∨ e ∈ others := by
  induction others generalizing es with
  | nil => exact .inl h
  | cons other others ih =>
      rcases ih h with hput | hin
      · rcases mem_of_mem_put hput with hold | rfl
        · exact .inl hold
        · exact .inr List.mem_cons_self
      · exact .inr (List.mem_cons_of_mem _ hin)

theorem mem_of_mem_ofList {pairs : List (String × β)} {e : String × β} (h : e ∈ ofList pairs) :
    e ∈ pairs := by
  rcases mem_of_mem_putAll h with hnone | hin
  · exact absurd hnone List.not_mem_nil
  · exact hin

theorem isSome_get?_iff {es : Entries β} {name : String} :
    (get? es name).isSome = true ↔ name ∈ names es := by
  rw [get?_eq_find?, Option.isSome_map, List.find?_isSome, names, List.mem_map]
  simp only [decide_eq_true_eq]

theorem mem_names_of_get? {es : Entries β} {name : String} {value : β}
    (h : get? es name = some value) : name ∈ names es :=
  isSome_get?_iff.mp (h ▸ rfl)

theorem mem_of_get? {es : Entries β} {name : String} {value : β}
    (h : get? es name = some value) : (name, value) ∈ es := by
  rw [get?_eq_find?, Option.map_eq_some_iff] at h
  obtain ⟨e, he, rfl⟩ := h
  have hname : e.1 = name := by simpa using List.find?_some he
  exact hname ▸ List.mem_of_find?_eq_some he

/-- Under different names every entry is found. -/
theorem get?_of_mem {es : Entries β} (h : (names es).Nodup) {e : String × β} (he : e ∈ es) :
    get? es e.1 = some e.2 := by
  induction es with
  | nil => cases he
  | cons first es ih =>
      rw [names, List.map_cons, List.nodup_cons] at h
      rcases List.mem_cons.mp he with rfl | hrest
      · exact if_pos rfl
      · have hne : first.1 ≠ e.1 := fun heq => h.1 (heq ▸ List.mem_map.mpr ⟨e, hrest, rfl⟩)
        exact (if_neg hne).trans (ih h.2 hrest)

/-- The values of entries with different names are those that are found under the names. -/
theorem values_eq_filterMap {es : Entries β} (h : (names es).Nodup) :
    es.map Prod.snd = (names es).filterMap (get? es) := by
  rw [names, List.filterMap_map, ← List.filterMap_eq_map]
  exact List.filterMap_congr fun e he => (get?_of_mem h he).symm

/-! ## Entries for some of several items -/

section Chosen

variable {α : Type}

/-- The entries of the items that have a value. -/
def chosen (name : α → String) (value : α → Option β) (items : List α) : Entries β :=
  items.filterMap fun a => (value a).map fun b => (name a, b)

theorem mem_names_chosen {name : α → String} {value : α → Option β} {items : List α} {n : String}
    (h : n ∈ names (chosen name value items)) : n ∈ items.map name := by
  obtain ⟨e, he, rfl⟩ := List.mem_map.mp h
  obtain ⟨a, ha, hmap⟩ := List.mem_filterMap.mp he
  obtain ⟨b, -, rfl⟩ := Option.map_eq_some_iff.mp hmap
  exact List.mem_map.mpr ⟨a, ha, rfl⟩

/-- The entry of an item, if no other item has its name. -/
theorem get?_chosen {name : α → String} (value : α → Option β) {items : List α}
    (hnodup : (items.map name).Nodup) {a : α} (ha : a ∈ items) :
    get? (chosen name value items) (name a) = value a := by
  induction items with
  | nil => cases ha
  | cons first items ih =>
      rw [List.map_cons, List.nodup_cons] at hnodup
      have hrest : chosen name value (first :: items) =
          ((value first).map fun b => (name first, b)).toList ++ chosen name value items := by
        cases hvalue : value first with
        | none => exact List.filterMap_cons_none (by rw [hvalue, Option.map_none])
        | some b => exact List.filterMap_cons_some (by rw [hvalue, Option.map_some])
      rw [hrest, get?_append]
      rcases List.mem_cons.mp ha with rfl | hlater
      · have hfresh : get? (chosen name value items) (name a) = none := by
          cases hget : get? (chosen name value items) (name a) with
          | none => rfl
          | some b => exact absurd (mem_names_chosen (mem_names_of_get? hget)) hnodup.1
        rw [hfresh, Option.or_none]
        cases value a with
        | none => rfl
        | some b => simp [get?]
      · have hne : name first ≠ name a := fun heq =>
          hnodup.1 (heq ▸ List.mem_map.mpr ⟨a, hlater, rfl⟩)
        have hskip : get? ((value first).map fun b => (name first, b)).toList (name a) = none := by
          cases value first with
          | none => rfl
          | some b => simp [get?, hne]
        rw [hskip, Option.none_or]
        exact ih hnodup.2 hlater

end Chosen

/-! ## Names in any case -/

/-- The entries whose name is a given one in any case. -/
def spelled (es : Entries β) (name : String) : Entries β := es.filter fun e => Text.lower e.1 = name

theorem spelled_put_of_ne {key name : String} (h : Text.lower key ≠ name) (es : Entries β)
    (value : β) : spelled (put es key value) name = spelled es name := by
  induction es with
  | nil => simp [put, spelled, h]
  | cons e es ih =>
      obtain ⟨n, v⟩ := e
      rw [put]
      split
      · next heq =>
        subst heq
        simp [spelled, h]
      · simp only [spelled, List.filter_cons] at ih ⊢
        rw [ih]

/-- Whether a name is spelled once more, in whatever case, behind the first entry that has it. -/
def isRespelled : Entries β → String → Bool
  | [], _ => false
  | (n, _) :: es, name => if n = name then !(spelled es name).isEmpty else isRespelled es name

theorem spelled_ne_nil_of_isRespelled {es : Entries β} {name : String}
    (h : isRespelled es name = true) : spelled es name ≠ [] := by
  induction es with
  | nil => cases h
  | cons e es ih =>
      obtain ⟨n, v⟩ := e
      have hrest : spelled es name ≠ [] := by
        rw [isRespelled] at h
        split at h
        · simpa using h
        · exact ih h
      rw [spelled, List.filter_cons]
      split
      · exact List.cons_ne_nil _ _
      · exact hrest

theorem isRespelled_put_of_ne {key name : String} (hname : Text.lower name = name)
    (h : Text.lower key ≠ name) (es : Entries β) (value : β) :
    isRespelled (put es key value) name = isRespelled es name := by
  have hne : key ≠ name := fun heq => h (heq ▸ hname)
  induction es with
  | nil => simp [put, isRespelled, hne]
  | cons e es ih =>
      obtain ⟨n, v⟩ := e
      rw [put]
      split
      · next heq =>
        subst heq
        simp [isRespelled, hne]
      · rw [isRespelled, isRespelled, spelled_put_of_ne h, ih]

/-- An entry that is written under a name in lower case is the last of that name in any case,
unless another spelling follows the place where it is written. -/
theorem getLast?_spelled_put {name : String} (hname : Text.lower name = name) (es : Entries β)
    (value : β) :
    (spelled (put es name value) name).getLast? =
      if isRespelled es name then (spelled es name).getLast? else some (name, value) := by
  induction es with
  | nil => simp [put, spelled, hname, isRespelled]
  | cons e es ih =>
      obtain ⟨n, v⟩ := e
      rw [put, isRespelled]
      split
      · next heq =>
        subst heq
        have hput : spelled ((n, value) :: es) n = (n, value) :: spelled es n :=
          List.filter_cons_of_pos (by simpa using hname)
        have hcons : spelled ((n, v) :: es) n = (n, v) :: spelled es n :=
          List.filter_cons_of_pos (by simpa using hname)
        rw [hput, hcons]
        cases spelled es n with
        | nil => rfl
        | cons e' rest => rfl
      -- the entry is written further on, where a spelling behind it counts before this one
      · by_cases hspell : Text.lower n = name
        · have hput : spelled ((n, v) :: put es name value) name =
              (n, v) :: spelled (put es name value) name :=
            List.filter_cons_of_pos (by simpa using hspell)
          have hcons : spelled ((n, v) :: es) name = (n, v) :: spelled es name :=
            List.filter_cons_of_pos (by simpa using hspell)
          rw [hput, hcons, List.getLast?_cons, ih]
          split
          · next hagain =>
            have hsome : spelled es name ≠ [] := spelled_ne_nil_of_isRespelled hagain
            rw [List.getLast?_cons, List.getLast?_eq_some_getLast hsome]
          · rfl
        · have hput : spelled ((n, v) :: put es name value) name =
              spelled (put es name value) name :=
            List.filter_cons_of_neg (by simpa using hspell)
          have hcons : spelled ((n, v) :: es) name = spelled es name :=
            List.filter_cons_of_neg (by simpa using hspell)
          rw [hput, hcons, ih]

/-- Whether all names are made of characters of lower case. -/
def IsLow (es : Entries β) : Prop := ∀ name ∈ names es, ∀ c ∈ name.toList, Text.IsLow c

theorem IsLow.put {es : Entries β} (h : IsLow es) {name : String}
    (hname : ∀ c ∈ name.toList, Text.IsLow c) (value : β) : IsLow (put es name value) := by
  intro other hother
  rcases mem_names_put hother with hin | rfl
  · exact h other hin
  · exact hname

theorem lower_ne_of_low {es : Entries β} (h : IsLow es) {name : String}
    (hascii : ∀ c ∈ name.toList, c.toNat < 0x80) (hnot : name ∉ names es) :
    ∀ e ∈ es, Text.lower e.1 ≠ name := by
  intro e he hname
  have hmem : e.1 ∈ names es := List.mem_map.mpr ⟨e, he, rfl⟩
  have hsame : e.1 = name := Text.eq_of_lower (h e.1 hmem) hname hascii
  exact hnot (hsame ▸ hmem)

/-- Entries that are named once, in lower case, spell a name once at most. -/
theorem getLast?_spelled_of_low {name : String} (hname : Text.lower name = name)
    (hascii : ∀ c ∈ name.toList, c.toNat < 0x80) {es : Entries β} (hlow : IsLow es)
    (hnodup : (names es).Nodup) :
    (spelled es name).getLast?.map Prod.snd = get? es name := by
  induction es with
  | nil => rfl
  | cons e es ih =>
      obtain ⟨n, v⟩ := e
      rw [names, List.map_cons, List.nodup_cons] at hnodup
      have hrest : IsLow es := fun other hother => hlow other (List.mem_cons_of_mem n hother)
      rw [get?]
      by_cases heq : n = name
      · subst heq
        have hnone : spelled es n = [] := List.filter_eq_nil_iff.mpr fun e he =>
          by simpa using lower_ne_of_low hrest hascii hnodup.1 e he
        have hcons : spelled ((n, v) :: es) n = (n, v) :: spelled es n :=
          List.filter_cons_of_pos (by simpa using hname)
        rw [hcons, hnone, if_pos rfl]
        rfl
      · have hother : Text.lower n ≠ name := fun hsame =>
          heq (Text.eq_of_lower (hlow n List.mem_cons_self) hsame hascii)
        have hcons : spelled ((n, v) :: es) name = spelled es name :=
          List.filter_cons_of_neg (by simpa using hother)
        rw [hcons, if_neg heq]
        exact ih hrest hnodup.2

theorem spelled_putAll_of_ne {name : String} {others : Entries β}
    (h : ∀ e ∈ others, Text.lower e.1 ≠ name) (es : Entries β) :
    spelled (putAll es others) name = spelled es name := by
  induction others generalizing es with
  | nil => rfl
  | cons e others ih =>
      have hstep : putAll es (e :: others) = putAll (put es e.1 e.2) others := rfl
      rw [hstep, ih (fun e' he' => h e' (List.mem_cons_of_mem e he')),
        spelled_put_of_ne (h e List.mem_cons_self)]

/-- The last entry of a name in any case, where entries with names in lower case are written over
others. -/
theorem getLast?_spelled_putAll {name : String} (hname : Text.lower name = name)
    (hascii : ∀ c ∈ name.toList, c.toNat < 0x80) (es : Entries β) {others : Entries β}
    (hlow : IsLow others) (hnodup : (names others).Nodup) :
    (spelled (putAll es others) name).getLast?.map Prod.snd =
      if isRespelled es name then (spelled es name).getLast?.map Prod.snd
      else (get? others name).or ((spelled es name).getLast?.map Prod.snd) := by
  induction others generalizing es with
  | nil =>
      split
      · rfl
      · rfl
  | cons e others ih =>
      obtain ⟨n, v⟩ := e
      rw [names, List.map_cons, List.nodup_cons] at hnodup
      have hrest : IsLow others := fun other hother => hlow other (List.mem_cons_of_mem n hother)
      have hstep : putAll es ((n, v) :: others) = putAll (put es n v) others := rfl
      rw [hstep, get?]
      by_cases heq : n = name
      · subst heq
        -- the rest does not hold the name again, so it leaves what is written here the last one
        have hothers := lower_ne_of_low hrest hascii hnodup.1
        rw [spelled_putAll_of_ne hothers, getLast?_spelled_put hname, if_pos rfl]
        split
        · rfl
        · rfl
      · have hother : Text.lower n ≠ name := by
          intro hsame
          exact heq (Text.eq_of_lower (hlow n List.mem_cons_self) hsame hascii)
        rw [ih _ hrest hnodup.2, isRespelled_put_of_ne hname hother, spelled_put_of_ne hother,
          if_neg heq]

end Sequence.Entries

end ScriptHost
