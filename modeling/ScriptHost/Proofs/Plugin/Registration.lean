import ScriptHost.Plugin.Registry
import ScriptHost.Proofs.Run
import ScriptHost.Proofs.Sequence.Entries

/-!
# What a registry holds

A registry is used in any order: packs are registered, by themselves or by their dotted paths, and
looked up.  What it holds is settled by the operations alone.  The names are those of the packs that
came, in the order in which they first did; the pack of a name is the last one that was registered
under it, and if none was, the first one that was installed.  Installed packs come at the first
lookup and never again, and an entry point that does not lead to a pack might as well not be there.

What an entry point would do may differ from lookup to lookup, so every lookup brings the entry
points as they are at that time.

## Main results

* `perform_represents` — what one operation does to what a registry holds.
* `registration_spec` — what a registry holds at the end of a run, and what it answers.
-/

namespace ScriptHost

open Sequence (Entries distinct)

namespace Plugin

/-- The pack that an entry point leads to, if it leads to one. -/
def EntryPoint.pack? (point : EntryPoint) : Option Pack :=
  (point.load.bind Target.call).toOption.join

namespace Registry

/-! ## Using a registry -/

/-- What a registry is asked for. -/
inductive Question where
  | pack (name : String)
  | packs
  | names

/-- What a registry answers. -/
inductive Answer where
  | registered (pack : Pack)
  | pack (found : Option Pack)
  | packs (all : List Pack)
  | names (all : List String)

/-- The answer of a registry that has been looked through. -/
def ask (r : Registry) : Question → Answer
  | .pack name => .pack (r.get? name)
  | .packs => .packs r.all
  | .names => .names r.names

/-- What can be done with a registry.  A path is resolved in the catalogue as it is at that time,
and a lookup may come upon the entry points as they are at that time. -/
inductive Operation where
  | register (pack : Pack)
  | registerPath (catalogue : Catalogue) (path : String)
  | lookUp (points : List EntryPoint) (question : Question)

/-- One operation on a registry. -/
def perform (r : Registry) (t : Trail) : Operation → Step Registry Answer
  | .register p => .ok (.registered p) (r.register p) t
  | .registerPath c path =>
    match r.registerPath c path with
    | .error f => .error f r t
    | .ok (p, r) => .ok (.registered p) r t
  | .lookUp points question =>
    let (found, said) := r.discover points
    .ok (found.ask question) found (t.logAll said)

namespace Operation

/-- Whether an operation is a lookup. -/
def isLookup : Operation → Bool
  | lookUp .. => true
  | _ => false

/-- The pack that an operation registers, if it does. -/
def registered? : Operation → Option Pack
  | register p => some p
  | registerPath c path => (loadPack c path).toOption
  | lookUp .. => none

/-- The entry points that an operation loads in a registry. -/
def loads (r : Registry) : Operation → List EntryPoint
  | lookUp points _ => if r.isComplete then [] else points
  | _ => []

end Operation

/-! ## What a run leaves behind -/

/-- The entry points that a run loads, given whether it is to load none: those of its first
lookup. -/
def loadedIn (isComplete : Bool) : List Operation → List EntryPoint
  | [] => []
  | .lookUp points _ :: _ => if isComplete then [] else points
  | _ :: os => loadedIn isComplete os

/-- The packs that come to a registry in a run, in order. -/
def arrivals (isComplete : Bool) : List Operation → List Pack
  | [] => []
  | .lookUp points _ :: os =>
    (if isComplete then [] else points.filterMap EntryPoint.pack?) ++ arrivals true os
  | o :: os => o.registered?.toList ++ arrivals isComplete os

/-- The last of several packs that has a name. -/
def lastOf (packs : List Pack) (name : String) : Option Pack :=
  packs.reverse.find? fun p => p.name = name

/-- The first of several packs that has a name. -/
def firstOf (packs : List Pack) (name : String) : Option Pack :=
  packs.find? fun p => p.name = name

/-- The pack that is registered under a name in a run; if none is, the installed one. -/
def holder (isComplete : Bool) (os : List Operation) (name : String) : Option Pack :=
  (lastOf (os.filterMap Operation.registered?) name).or
    (firstOf ((loadedIn isComplete os).filterMap EntryPoint.pack?) name)

/-- The names of the packs that come in a run, each once, in the order in which they first do. -/
def namesIn (isComplete : Bool) (os : List Operation) : List String :=
  distinct ((arrivals isComplete os).map Pack.name)

theorem loadedIn_complete (os : List Operation) : loadedIn true os = [] := by
  induction os with
  | nil => rfl
  | cons o os ih =>
      cases o with
      | register p => exact ih
      | registerPath c path => exact ih
      | lookUp points question => rfl

theorem loadedIn_of_no_lookup {isComplete : Bool} {os : List Operation}
    (h : os.any Operation.isLookup = false) : loadedIn isComplete os = [] := by
  induction os with
  | nil => rfl
  | cons o os ih =>
      rw [List.any_cons, Bool.or_eq_false_iff] at h
      cases o with
      | register p => exact ih h.2
      | registerPath c path => exact ih h.2
      | lookUp points question => cases h.1

/-- One more operation loads entry points only if it is the first lookup. -/
theorem loadedIn_concat (isComplete : Bool) (os : List Operation) (o : Operation) :
    loadedIn isComplete (os ++ [o]) = loadedIn isComplete os ++
      if isComplete || os.any Operation.isLookup then [] else loadedIn false [o] := by
  induction os with
  | nil =>
      cases isComplete with
      | true => rw [List.nil_append, loadedIn_complete]; rfl
      | false => rfl
  | cons first os ih =>
      cases first with
      | register p => exact ih
      | registerPath c path => exact ih
      | lookUp points question =>
          simp [loadedIn, Operation.isLookup]

theorem arrivals_concat (isComplete : Bool) (os : List Operation) (o : Operation) :
    arrivals isComplete (os ++ [o]) = arrivals isComplete os ++
      arrivals (isComplete || os.any Operation.isLookup) [o] := by
  induction os generalizing isComplete with
  | nil => simp [arrivals]
  | cons first os ih =>
      cases first with
      | register p => simp [arrivals, ih, Operation.isLookup]
      | registerPath c path => simp [arrivals, ih, Operation.isLookup]
      | lookUp points question => simp [arrivals, ih, Operation.isLookup]

/-! ## One operation -/

/-- What a registry holds after a run, given whether it was to load no entry points. -/
structure Represents (isComplete : Bool) (os : List Operation) (r : Registry) : Prop where
  names : r.names = namesIn isComplete os
  held : ∀ name, r.get? name = holder isComplete os name
  labelled : ∀ e ∈ r.packs, e.2.name = e.1
  complete : r.isComplete = (isComplete || os.any Operation.isLookup)

section Put

variable {es : Entries Pack} {p : Pack}

theorem labelled_put (h : ∀ e ∈ es, e.2.name = e.1) :
    ∀ e ∈ Entries.put es p.name p, e.2.name = e.1 := by
  intro e he
  rcases Entries.mem_of_mem_put he with hold | hnew
  · exact h e hold
  · rw [hnew]

end Put

/-! ### Registering -/

theorem lastOf_concat (packs : List Pack) (p : Pack) (name : String) :
    lastOf (packs ++ [p]) name = if p.name = name then some p else lastOf packs name := by
  rw [lastOf, List.reverse_append, List.reverse_singleton, List.singleton_append, List.find?_cons]
  by_cases h : p.name = name
  · simp [h]
  · simp [h, lastOf]

section Register

variable {isComplete : Bool} {os : List Operation} {r : Registry} {o : Operation}

/-- An operation that is no lookup loads nothing. -/
theorem loadedIn_concat_of_not_lookup (h : o.isLookup = false) :
    loadedIn isComplete (os ++ [o]) = loadedIn isComplete os := by
  have hnone : loadedIn false [o] = [] := by
    cases o with
    | register p => rfl
    | registerPath c path => rfl
    | lookUp points question => cases h
  rw [loadedIn_concat, hnone, ite_self, List.append_nil]

theorem arrivals_concat_of_not_lookup (h : o.isLookup = false) :
    arrivals isComplete (os ++ [o]) = arrivals isComplete os ++ o.registered?.toList := by
  rw [arrivals_concat]
  cases o with
  | register p => rfl
  | registerPath c path => simp [arrivals]
  | lookUp points question => cases h

theorem complete_concat_of_not_lookup (h : o.isLookup = false) :
    (isComplete || (os ++ [o]).any Operation.isLookup) =
      (isComplete || os.any Operation.isLookup) := by
  simp [h]

/-- A pack that is registered takes the place of one of its name, or the last place. -/
theorem Represents.register (h : Represents isComplete os r) (hlook : o.isLookup = false)
    {p : Pack} (hp : o.registered? = some p) :
    Represents isComplete (os ++ [o]) (r.register p) := by
  constructor
  case names =>
    change Entries.names (Entries.put r.packs p.name p) = _
    have hnames : Entries.names r.packs = namesIn isComplete os := h.names
    rw [Entries.names_put, hnames, namesIn, namesIn, arrivals_concat_of_not_lookup hlook, hp,
      List.map_append, Option.toList_some, List.map_singleton, Sequence.distinct_concat]
    simp only [Sequence.mem_distinct]
  case held =>
    intro name
    have hheld := h.held name
    change Entries.get? (Entries.put r.packs p.name p) name = _
    rw [holder, List.filterMap_append, loadedIn_concat_of_not_lookup hlook]
    rw [List.filterMap_cons_some hp, List.filterMap_nil, lastOf_concat]
    split
    · next heq =>
      rw [← heq, Entries.get?_put_self]
      rfl
    · next hne =>
      rw [Entries.get?_put_of_ne _ _ (Ne.symm hne)]
      exact hheld
  case labelled => exact labelled_put h.labelled
  case complete => exact h.complete.trans (complete_concat_of_not_lookup hlook).symm

/-- An operation that neither registers anything nor looks anything up changes nothing. -/
theorem Represents.skip (h : Represents isComplete os r) (hlook : o.isLookup = false)
    (hnone : o.registered? = none) : Represents isComplete (os ++ [o]) r := by
  constructor
  case names =>
    rw [h.names, namesIn, namesIn, arrivals_concat_of_not_lookup hlook, hnone, Option.toList_none,
      List.append_nil]
  case held =>
    intro name
    rw [h.held, holder, holder, List.filterMap_append, loadedIn_concat_of_not_lookup hlook,
      List.filterMap_cons_none hnone, List.filterMap_nil, List.append_nil]
  case labelled => exact h.labelled
  case complete => exact h.complete.trans (complete_concat_of_not_lookup hlook).symm

end Register

/-! ### Looking up -/

section Take

variable {r : Registry} {point : EntryPoint}

/-- An entry point that leads to no pack leaves the registry as it is. -/
theorem take_of_no_pack (h : point.pack? = none) : (r.take point).1 = r := by
  unfold EntryPoint.pack? at h
  unfold take
  split
  · rfl
  · rfl
  · next p hload =>
    rw [hload] at h
    cases h

theorem take_of_pack {p : Pack} (h : point.pack? = some p) :
    (r.take point).1 = if p.name ∈ r.names then r else r.register p := by
  have hload : point.load.bind Target.call = .ok (some p) := by
    unfold EntryPoint.pack? at h
    cases hcall : point.load.bind Target.call with
    | error f =>
        rw [hcall] at h
        cases h
    | ok found =>
        rw [hcall] at h
        exact congrArg Except.ok h
  have hiff : (Entries.get? r.packs p.name).isSome = true ↔ p.name ∈ r.names :=
    Entries.isSome_get?_iff
  rw [take, hload]
  dsimp only
  cases hget : Entries.get? r.packs p.name with
  | some q =>
      rw [hget] at hiff
      rw [if_pos (hiff.mp rfl)]
  | none =>
      rw [hget] at hiff
      rw [if_neg fun hin => nomatch hiff.mpr hin]

theorem names_take_of_pack {p : Pack} (h : point.pack? = some p) :
    (r.take point).1.names = if p.name ∈ r.names then r.names else r.names ++ [p.name] := by
  rw [take_of_pack h]
  split
  · rfl
  · next hnew => exact (Entries.names_put _ _ _).trans (if_neg hnew)

theorem get?_take_of_pack {p : Pack} (h : point.pack? = some p) (name : String) :
    (r.take point).1.get? name = (r.get? name).or (firstOf [p] name) := by
  rw [take_of_pack h, firstOf, List.find?_singleton]
  by_cases hname : p.name = name
  · subst hname
    split
    · next hin =>
      obtain ⟨q, hq⟩ := Option.isSome_iff_exists.mp (Entries.isSome_get?_iff.mpr hin)
      have hget : r.get? p.name = some q := hq
      rw [hget]
      rfl
    · next hnew =>
      have hnone : r.get? p.name = none := by
        rw [← Option.not_isSome_iff_eq_none]
        exact fun hsome => hnew (Entries.isSome_get?_iff.mp hsome)
      rw [hnone]
      exact (Entries.get?_put_self _ _ _).trans (by simp)
  · have hfirst : (if decide (p.name = name) = true then some p else none) = none := by
      simp [hname]
    rw [hfirst, Option.or_none]
    split
    · rfl
    · exact Entries.get?_put_of_ne _ _ (Ne.symm hname)

theorem labelled_take (h : ∀ e ∈ r.packs, e.2.name = e.1) :
    ∀ e ∈ (r.take point).1.packs, e.2.name = e.1 := by
  cases hpack : point.pack? with
  | none =>
      rw [take_of_no_pack hpack]
      exact h
  | some p =>
      rw [take_of_pack hpack]
      split
      · exact h
      · exact labelled_put h

end Take

section TakeAll

theorem names_takeAll {r : Registry} {names : List String} (h : r.names = distinct names)
    (points : List EntryPoint) :
    (r.takeAll points).1.names =
      distinct (names ++ (points.filterMap EntryPoint.pack?).map Pack.name) := by
  induction points generalizing r names with
  | nil => rw [takeAll, h, List.filterMap_nil, List.map_nil, List.append_nil]
  | cons point points ih =>
      rw [takeAll]
      cases hpack : point.pack? with
      | none =>
          rw [List.filterMap_cons_none hpack]
          exact ih ((congrArg Registry.names (take_of_no_pack hpack)).trans h)
      | some p =>
          have hnames : (r.take point).1.names = distinct (names ++ [p.name]) := by
            rw [names_take_of_pack hpack, Sequence.distinct_concat, h]
            simp only [Sequence.mem_distinct]
          rw [List.filterMap_cons_some hpack, List.map_cons, ← List.singleton_append,
            ← List.append_assoc]
          exact ih hnames

theorem get?_takeAll (r : Registry) (points : List EntryPoint) (name : String) :
    (r.takeAll points).1.get? name =
      (r.get? name).or (firstOf (points.filterMap EntryPoint.pack?) name) := by
  induction points generalizing r with
  | nil => exact Option.or_none.symm
  | cons point points ih =>
      rw [takeAll]
      dsimp only
      rw [ih]
      cases hpack : point.pack? with
      | none => rw [take_of_no_pack hpack, List.filterMap_cons_none hpack]
      | some p =>
          rw [get?_take_of_pack hpack, List.filterMap_cons_some hpack, Option.or_assoc,
            ← List.singleton_append (l := List.filterMap _ points), firstOf, firstOf, firstOf,
            List.find?_append]

theorem labelled_takeAll {r : Registry} (h : ∀ e ∈ r.packs, e.2.name = e.1)
    (points : List EntryPoint) : ∀ e ∈ (r.takeAll points).1.packs, e.2.name = e.1 := by
  induction points generalizing r with
  | nil => exact h
  | cons point points ih => exact ih (labelled_take h)

/-- Entry points that lead to no pack might as well not be there. -/
theorem takeAll_filter (r : Registry) (points : List EntryPoint) :
    (r.takeAll (points.filter fun point => point.pack?.isSome)).1 = (r.takeAll points).1 := by
  induction points generalizing r with
  | nil => rfl
  | cons point points ih =>
      cases hpack : point.pack? with
      | none =>
          rw [List.filter_cons_of_neg (by simp [hpack]), ih, takeAll]
          dsimp only
          rw [take_of_no_pack hpack]
      | some p =>
          rw [List.filter_cons_of_pos (by simp [hpack]), takeAll, takeAll]
          exact ih _

end TakeAll

section LookUp

variable {isComplete : Bool} {os : List Operation} {r : Registry} (points : List EntryPoint)
  (question : Question)

/-- A registry is looked through only once. -/
theorem discover_of_complete (h : r.isComplete = true) : r.discover points = (r, []) := by
  rw [discover, if_pos h]

theorem discover_of_not_complete (h : r.isComplete = false) :
    r.discover points = { r with isComplete := true }.takeAll points := by
  rw [discover, if_neg (by simp [h])]

/-- What a lookup finds: the packs of the entry points that it loads, behind those that are
there. -/
theorem Represents.discover (h : Represents isComplete os r) :
    Represents isComplete (os ++ [.lookUp points question]) (r.discover points).1 := by
  have hcomplete : (isComplete ||
      (os ++ [Operation.lookUp points question]).any Operation.isLookup) = true := by
    simp [Operation.isLookup]
  have hregistered : (os ++ [Operation.lookUp points question]).filterMap Operation.registered? =
      os.filterMap Operation.registered? := by
    rw [List.filterMap_append, List.filterMap_cons_none rfl, List.filterMap_nil, List.append_nil]
  cases hdone : r.isComplete with
  | true =>
      have hwas := h.complete
      rw [hdone] at hwas
      rw [discover_of_complete points hdone]
      constructor
      case names =>
        rw [h.names, namesIn, namesIn, arrivals_concat, ← hwas]
        simp [arrivals]
      case held =>
        intro name
        rw [h.held, holder, holder, hregistered, loadedIn_concat, ← hwas, if_pos rfl,
          List.append_nil]
      case labelled => exact h.labelled
      case complete => rw [hdone, hcomplete]
  | false =>
      have hwas := h.complete
      rw [hdone] at hwas
      rw [discover_of_not_complete points hdone]
      constructor
      case names =>
        have hnames : ({ r with isComplete := true } : Registry).names =
            distinct ((arrivals isComplete os).map Pack.name) := h.names
        rw [names_takeAll hnames, namesIn, arrivals_concat, ← hwas, List.map_append]
        simp [arrivals]
      case held =>
        intro name
        have hnone : loadedIn isComplete os = [] :=
          loadedIn_of_no_lookup (Bool.or_eq_false_iff.mp hwas.symm).2
        have hheld : ({ r with isComplete := true } : Registry).get? name =
            holder isComplete os name := h.held name
        rw [get?_takeAll, hheld, holder, holder, hregistered, loadedIn_concat, ← hwas, hnone]
        simp [loadedIn, firstOf]
      case labelled =>
        exact labelled_takeAll (r := { r with isComplete := true }) h.labelled points
      case complete => rw [takeAll_isComplete, hcomplete]

end LookUp

/-- No two packs of a registry have the same name. -/
theorem Represents.nodup {isComplete : Bool} {os : List Operation} {r : Registry}
    (h : Represents isComplete os r) : r.names.Nodup := by
  rw [h.names]
  exact Sequence.distinct_nodup _

/-- All packs are those that are found under the names, in their order. -/
theorem Represents.all {isComplete : Bool} {os : List Operation} {r : Registry}
    (h : Represents isComplete os r) :
    r.all = (namesIn isComplete os).filterMap (holder isComplete os) := by
  have hget : r.get? = holder isComplete os := funext h.held
  rw [← h.names, ← hget]
  exact Entries.values_eq_filterMap h.nodup

/-- What one operation does to what a registry holds. -/
theorem perform_represents {isComplete : Bool} {os : List Operation} {r : Registry}
    (h : Represents isComplete os r) (t : Trail) (o : Operation) :
    Represents isComplete (os ++ [o]) (r.perform t o).state := by
  cases o with
  | register p => exact h.register rfl rfl
  | registerPath c path =>
      rw [perform, registerPath]
      cases hload : loadPack c path with
      | error f =>
          have hnone : (Operation.registerPath c path).registered? = none := by
            rw [Operation.registered?, hload]
            rfl
          exact h.skip rfl hnone
      | ok p =>
          have hsome : (Operation.registerPath c path).registered? = some p := by
            rw [Operation.registered?, hload]
            rfl
          exact h.register rfl hsome
  | lookUp points question => exact h.discover points question

/-! ## A whole run -/

section Run

variable (discovers : Bool) (os : List Operation) (t : Trail)

/-- A registry at the end of a run. -/
def after : Registry := (finish perform (new discovers) t os).1

theorem represents_new : Represents (!discovers) [] (new discovers) := by
  constructor
  case names => rfl
  case held => exact fun _ => rfl
  case labelled => exact fun _ hnone => absurd hnone List.not_mem_nil
  case complete => exact (Bool.or_false _).symm

/-- What a registry holds at the end of a run is settled by the operations. -/
theorem represents_after : Represents (!discovers) os (after discovers os t) := by
  have hstep : ∀ past r t o, Represents (!discovers) (past.map Turn.operation) r →
      Represents (!discovers) ((past ++ [⟨r, t, o⟩]).map Turn.operation) (perform r t o).state := by
    intro past r t o h
    rw [List.map_append]
    exact perform_represents h t o
  have hend := past_invariant_finish perform
    (P := fun past r _ => Represents (!discovers) (past.map Turn.operation) r) hstep
    (represents_new discovers) os (t := t)
  rwa [operations_turns] at hend

end Run

/-- The entry points that a run loads are those of its first lookup, unless it is to load none. -/
theorem loads_turns (r : Registry) (t : Trail) (os : List Operation) :
    (turns perform r t os).flatMap (fun x => x.operation.loads x.state) =
      loadedIn r.isComplete os := by
  induction os generalizing r t with
  | nil => rfl
  | cons o os ih =>
      rw [turns, List.flatMap_cons, ih]
      cases o with
      | register p => rfl
      | registerPath c path =>
          rw [perform, registerPath]
          cases loadPack c path with
          | error f => rfl
          | ok p => rfl
      | lookUp points question =>
          have hdone : (r.perform t (.lookUp points question)).state.isComplete = true :=
            discover_isComplete r points
          rw [hdone, loadedIn_complete]
          exact List.append_nil _

/-- The answer of a registry that holds what comes in a run. -/
def expected (isComplete : Bool) (os : List Operation) : Question → Answer
  | .pack name => .pack (holder isComplete os name)
  | .packs => .packs ((namesIn isComplete os).filterMap (holder isComplete os))
  | .names => .names (namesIn isComplete os)

/-- What is known of a registry at the end of a run. -/
structure RegistrationLaw (discovers : Bool) (os : List Operation) (t : Trail) : Prop where
  /-- In the whole run no entry points are loaded but those of the first lookup, each once. -/
  loaded : (turns perform (new discovers) t os).flatMap (fun x => x.operation.loads x.state) =
    loadedIn (!discovers) os
  /-- Only the entry points that are loaded count for a lookup. -/
  unread : ∀ points question t',
    (after discovers os t).perform t' (.lookUp points question) =
      (after discovers os t).perform t' (.lookUp
        ((Operation.lookUp points question).loads (after discovers os t)) question)
  /-- The names are those of the packs that came, in the order in which they first did. -/
  names : (after discovers os t).names = namesIn (!discovers) os
  /-- Under a name is the last pack that was registered, or else the first one installed. -/
  held : ∀ name, (after discovers os t).get? name = holder (!discovers) os name
  unique : (after discovers os t).names.Nodup
  /-- All packs are those that are found under the names, in their order. -/
  agree : (after discovers os t).all =
    (after discovers os t).names.filterMap (after discovers os t).get?
  /-- What is found under a name has that name, and something is found under just the names. -/
  found : ∀ name, (name ∈ (after discovers os t).names ↔
      ((after discovers os t).get? name).isSome = true) ∧
    ∀ p, (after discovers os t).get? name = some p → p.name = name
  /-- A lookup answers from what came up to then, what it comes upon itself included. -/
  answered : ∀ points question t',
    ((after discovers os t).perform t' (.lookUp points question)).answer =
      .ok (expected (!discovers) (os ++ [.lookUp points question]) question)
  /-- An entry point that leads to no pack, by failing or otherwise, might as well not be there. -/
  failing : ∀ points question t',
    let good := points.filter fun point => point.pack?.isSome
    ((after discovers os t).perform t' (.lookUp good question)).state =
        ((after discovers os t).perform t' (.lookUp points question)).state ∧
      ((after discovers os t).perform t' (.lookUp good question)).answer =
        ((after discovers os t).perform t' (.lookUp points question)).answer
  /-- A path that cannot be loaded leaves the registry as it is. -/
  refused : ∀ c path f t', loadPack c path = .error f →
    (after discovers os t).perform t' (.registerPath c path) =
      .error f (after discovers os t) t'

/-- What a registry holds and answers is settled by the operations of its run. -/
theorem registration_spec (discovers : Bool) (os : List Operation) (t : Trail) :
    RegistrationLaw discovers os t := by
  have hrep := represents_after discovers os t
  constructor
  case loaded => exact loads_turns (new discovers) t os
  case unread =>
    intro points question t'
    cases hdone : (after discovers os t).isComplete with
    | true => simp only [perform, discover_of_complete _ hdone]
    | false => rw [Operation.loads, if_neg (by simp [hdone])]
  case names => exact hrep.names
  case held => exact hrep.held
  case unique => exact hrep.nodup
  case agree => exact Entries.values_eq_filterMap hrep.nodup
  case found =>
    refine fun name => ⟨Entries.isSome_get?_iff.symm, fun p hp => ?_⟩
    exact hrep.labelled _ (Entries.mem_of_get? hp)
  case answered =>
    intro points question t'
    have hnext := hrep.discover points question
    have hanswer : ((after discovers os t).perform t' (.lookUp points question)).answer =
        .ok (((after discovers os t).discover points).1.ask question) := rfl
    rw [hanswer]
    cases question with
    | pack name => rw [ask, hnext.held, expected]
    | names => rw [ask, hnext.names, expected]
    | packs => rw [ask, hnext.all, expected]
  case failing =>
    intro points question t'
    cases hdone : (after discovers os t).isComplete with
    | true => simp only [perform, discover_of_complete _ hdone, and_self, Step.ok]
    | false =>
        have hsame := takeAll_filter { after discovers os t with isComplete := true } points
        simp only [perform, discover_of_not_complete _ hdone, Step.ok, hsame, and_self]
  case refused =>
    intro c path f t' hload
    rw [perform, registerPath, hload]

end Registry

end Plugin

end ScriptHost
